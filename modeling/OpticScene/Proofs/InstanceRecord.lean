import Mathlib.Data.List.Nodup
import OpticScene.Proofs.PlacementProtocol
import OpticScene.Proofs.RecordRoundTrip

/-!
# Instances and their records

An instance is saved as a record at any time, also while its points are being placed.  When the
record is read again, with the module unchanged, the name, the points and the state of the placement
come back.  The record always says which parameters have a value, and the reader gives all others
their defaults.  So the parameters come back as they are once all of them have a value, in the order
in which they are declared.

## Main definitions

* `Instance.Obtained` — an instance was placed or read, and then edited.

## Main results

* `Instance.Obtained.isPlaced` — **what an instance has belongs to its placement**, whatever was
  done to it.
* `Instance.get?_resolveParams`, `Instance.perm_resolveParams` — the parameters that the reader
  gives an instance.
* `Instance.ofRecord_toRecord` — what comes back from a record.
-/

namespace OpticScene.Module.Instance

open OpticScene.Random (Stream)

variable {Obj : Type} {library : Library} {builder : Builder Obj} {d : Definition}
  {inst inst' : Instance Obj} {s t : Stream}

/-! ### Instances of one definition -/

/-- An instance of a definition was placed or read, and then edited. -/
inductive Obtained (d : Definition) : Instance Obj → Prop
  /-- Its placement begins. -/
  | start (builder : Builder Obj) (name : String) (s : Stream) :
    Obtained d (start builder name d s).1
  /-- It is read from a record, with a library that has the definition under its name. -/
  | read {library : Library} {builder : Builder Obj} {v : Json} {inst : Instance Obj}
    {s t : Stream} : ExceptT.run (ofRecord library builder v) s = (.ok inst, t) →
      library.find? inst.moduleName = some d → Obtained d inst
  /-- It is edited. -/
  | edit {builder : Builder Obj} {inst inst' : Instance Obj} {edit : Edit} {s t : Stream} :
    Obtained d inst → ExceptT.run (edit.apply builder inst) s = (.ok inst', t) → Obtained d inst'

/-- An instance that is read has the fields of its record. -/
theorem exists_of_run_ofRecord {v : Json}
    (h : ExceptT.run (ofRecord library builder v) s = (.ok inst, t)) :
    ∃ (fields : Fields) (d : Definition), library.find? fields.moduleName = some d ∧
      fields.Fits d ∧ inst = ((fields.core d).refresh builder s).1 := by
  rcases hf : Fields.decode v with cause | fields
  · have hrefused : ExceptT.run (ofRecord library builder v) s =
        (.error (SceneError.ofRecord tag cause), s) := by
      rw [ofRecord, hf]
      rfl
    rw [hrefused] at h
    cases h
  rw [run_ofRecord hf] at h
  split at h
  · cases h
  · next core hcore =>
    cases h
    obtain ⟨d, hfind, hfits, rfl⟩ := ofFields_eq_ok.mp hcore
    exact ⟨fields, d, hfind, hfits, rfl⟩

/-- **What an instance has belongs to its placement**, whatever was done to it. -/
theorem Obtained.isPlaced (hd : d.IsRead) (h : Obtained d inst) :
    inst.definition = d ∧ inst.IsPlaced := by
  induction h with
  | start builder name s =>
    rw [start_eq]
    exact ⟨definition_refresh .., isPlaced_refresh (hasPoints_begun name d)
      (hasOwnParams_begun name hd) builder s⟩
  | read hrun hfind =>
    obtain ⟨fields, d', hfind', hfits, rfl⟩ := exists_of_run_ofRecord hrun
    rw [moduleName_refresh] at hfind
    obtain rfl : d' = d := Option.some.inj (hfind'.symm.trans hfind)
    exact ⟨definition_refresh .., isPlaced_refresh (hasPoints_core hfits)
      (hasOwnParams_core fields hd) _ _⟩
  | @edit builder inst inst' edit s t _ hrun ih =>
    obtain ⟨hdef, hplaced⟩ := ih
    rcases hc : edit.change inst with e | core
    · rw [run_apply_of_error builder hc] at hrun
      cases hrun
    · rw [run_apply_of_ok builder hplaced.tidy hc] at hrun
      cases hrun
      have hcore := (Edit.definition_of_change hc).2
      exact ⟨(definition_refresh ..).trans (hcore.trans hdef),
        isPlaced_refresh (hplaced.points.of_change hc) (hplaced.params.of_change hc) _ _⟩

/-! ### Parameters -/

/-- **A parameter that is read has the value of the record, or else its default.** -/
theorem get?_resolveParams (d : Definition) (given : Params) (name : String) :
    Named.get? name (resolveParams d given) =
      (Named.get? name d.defaults).map fun default => (Named.get? name given).getD default :=
  Named.get?_map (fun name default => (Named.get? name given).getD default) name d.defaults

/-- Where no name stands twice, the values decide which entries there are. -/
theorem perm_of_get?_eq {xs ys : Params} (hx : (Named.names xs).Nodup)
    (hy : (Named.names ys).Nodup) (h : ∀ name, Named.get? name xs = Named.get? name ys) :
    xs.Perm ys := by
  refine (List.perm_ext_iff_of_nodup (List.Nodup.of_map Prod.fst hx)
    (List.Nodup.of_map Prod.fst hy)).mpr ?_
  rintro ⟨name, x⟩
  constructor
  · intro he
    exact Named.mem_of_get?_eq_some ((h name).symm.trans (Named.get?_of_mem he hx))
  · intro he
    exact Named.mem_of_get?_eq_some ((h name).trans (Named.get?_of_mem he hy))

/-- Parameters that have all their values, in any order, are only put in order. -/
theorem perm_resolveParams (hd : d.IsRead) {given : Params} (hnodup : (Named.names given).Nodup)
    (hdeclared : ∀ name ∈ Named.names given, name ∈ d.declared) :
    (resolveParams d given).Perm given ↔ ∀ name ∈ d.declared, name ∈ Named.names given := by
  have hnames : Named.names (resolveParams d given) = d.declared :=
    (names_resolveParams d given).trans hd.names_defaults
  constructor
  · intro hperm name hname
    rw [← hnames] at hname
    exact (hperm.map Prod.fst).mem_iff.mp hname
  · intro hall
    refine perm_of_get?_eq (hnames ▸ hd.nodup_declared) hnodup fun name => ?_
    rw [get?_resolveParams]
    by_cases hname : name ∈ d.declared
    · obtain ⟨x, hx⟩ := Named.exists_get?_eq_some (hall name hname)
      rw [← hd.names_defaults] at hname
      obtain ⟨default, hdefault⟩ := Named.exists_get?_eq_some hname
      rw [hdefault, hx, Option.map_some, Option.getD_some]
    -- a name that is not declared has a value in neither
    · have hgiven : name ∉ Named.names given := fun h => hname (hdeclared name h)
      rw [← hd.names_defaults] at hname
      rw [Named.get?_eq_none hname, Named.get?_eq_none hgiven, Option.map_none]

/-! ### A module with two parameters -/

/-- The record of a module with one control point and two parameters. -/
def twoParams : Json :=
  .object [("numPoints", .ofNat 1), ("params", .array [.string "a=0:1:9", .string "b=0:1:9"])]

/-- The parameters after some have been set one after the other. -/
def assigned (given values : Params) : Params :=
  values.foldl (fun params e => Named.set e.1 e.2 params) given

/-- While points are missing, setting parameters expands nothing. -/
theorem Obtained.assign (values : Params) :
    ∀ {inst : Instance Obj}, Obtained d inst → inst.Tidy → inst.placement = .collecting →
      (∀ e ∈ values, inst.definition.declares e.1 = true) →
        Obtained d { inst with params := assigned inst.params values } := by
  induction values with
  | nil => exact fun h _ _ _ => h
  | cons e values ih =>
    intro inst h ht hc hdeclares
    obtain ⟨hname, hrest⟩ := List.forall_mem_cons.mp hdeclares
    have hchange : Edit.change inst (.setParam e.1 e.2) =
        .ok { inst with params := Named.set e.1 e.2 inst.params } := if_pos hname
    have hkept : Tidy { inst with params := Named.set e.1 e.2 inst.params } := ht
    have hrun := run_apply_of_ok none ht hchange (.ofSeed 0)
    rw [hkept.refresh_eq_self hc] at hrun
    exact ih (h.edit hrun) hkept hc hrest

/-- An instance with two parameters misses its point, and some of the parameters have been set. -/
theorem exists_assigned (Obj : Type) (values : Params) (h : ∀ e ∈ values, e.1 ∈ ["a", "b"]) :
    ∃ (d : Definition) (inst : Instance Obj), d.IsRead ∧ d.declared = ["a", "b"] ∧
      Obtained d inst ∧ inst.placement = .collecting ∧ inst.moduleName = "m" ∧
        inst.points = [] ∧ inst.params = assigned [] values := by
  have hchecks : (ExceptT.run (Definition.ofRecord twoParams) (.ofSeed 0)).1.toOption.any
      (fun d => decide (d.numPoints = 1 ∧ d.declared = ["a", "b"])) = true := by
    decide +kernel
  obtain ⟨d, hrun, hfields⟩ := exists_run_of_any hchecks
  obtain ⟨hpoints, hdeclared⟩ := of_decide_eq_true hfields
  have hd : d.IsRead := Definition.isRead_of_run hrun
  have hmissing : d.numPoints ≠ 0 := by omega
  have hcollecting : (begun "m" d : Instance Obj).placement = .collecting := if_neg hmissing
  have hparams : (begun "m" d : Instance Obj).params = [] := if_neg hmissing
  have htidy : (begun "m" d : Instance Obj).Tidy := fun _ => ⟨rfl, rfl⟩
  have hstart := Obtained.start (d := d) (none : Builder Obj) "m" (.ofSeed 0)
  rw [start_eq, htidy.refresh_eq_self hcollecting] at hstart
  have hall := hstart.assign values htidy hcollecting fun e he => by
    rw [show (begun "m" d : Instance Obj).definition = d from rfl, hd.declares_iff, hdeclared]
    exact h e he
  rw [hparams] at hall
  exact ⟨d, _, hd, hdeclared, hall, hcollecting, rfl, rfl, rfl⟩

/-! ### Records -/

/-- The record tells the names of the parameters. -/
theorem names_eq_of_toRecord_eq (h : inst'.toRecord = inst.toRecord) :
    Named.names inst'.params = Named.names inst.params := by
  have hparams : (inst'.params.map fun p => (p.1, Json.ofFloat p.2)) =
      inst.params.map fun p => (p.1, Json.ofFloat p.2) := by
    simp only [toRecord, Record.tagged, List.cons_append, Json.object.injEq, List.cons.injEq,
      Prod.mk.injEq] at h
    exact h.2.2.2.1.2
  have hnames := congrArg (List.map Prod.fst) hparams
  rw [List.map_map, List.map_map] at hnames
  exact hnames

theorem toRecord_congr (hname : inst'.moduleName = inst.moduleName)
    (hpoints : inst'.points = inst.points) (hparams : inst'.params = inst.params)
    (hplacement : inst'.placement = inst.placement) : inst'.toRecord = inst.toRecord := by
  unfold toRecord
  rw [hname, hpoints, hparams, hplacement]

/-- A finite instance is read from its record with the parameters that the reader resolves. -/
theorem run_ofRecord_toRecord (hplaced : inst.IsPlaced) (hfinite : inst.isFinite = true)
    (hfind : library.find? inst.moduleName = some inst.definition) (builder : Builder Obj)
    (s : Stream) :
    ∃ inst' t, ExceptT.run (ofRecord library builder inst.toRecord) s = (.ok inst', t) ∧
      inst'.moduleName = inst.moduleName ∧ inst'.definition = inst.definition ∧
        inst'.placement = inst.placement ∧ inst'.points = inst.points ∧
          inst'.params = resolveParams inst.definition inst.params := by
  have hfits : inst.fields.Fits inst.definition := hplaced.points.fits rfl rfl
  have hcore : (ofFields library inst.fields : Except SceneError (Instance Obj)) =
      .ok (inst.fields.core inst.definition) :=
    ofFields_eq_ok.mpr ⟨inst.definition, hfind, hfits, rfl⟩
  have hplacement : (inst.fields.core inst.definition : Instance Obj).placement =
      inst.placement := by
    unfold Fields.core fields
    cases inst.placement <;> rfl
  have hrun := run_ofRecord (decode_toRecord hfinite) library builder s
  rw [hcore] at hrun
  refine ⟨_, _, hrun, ?_⟩
  rw [moduleName_refresh, definition_refresh, placement_refresh, points_refresh, params_refresh,
    hplacement]
  exact ⟨rfl, rfl, rfl, rfl, rfl⟩

/-- **An instance survives its record, but for parameters without a value.**  The module, the state
of the placement and the points come back.  Every declared parameter comes back with its value, or
with its default if it has none.  So nothing is lost or added when all have a value, and the record
is the same again when they also stand in the order in which they are declared. -/
theorem ofRecord_toRecord (hd : d.IsRead) (h : Obtained d inst) (hfinite : inst.isFinite = true)
    (hfind : library.find? inst.moduleName = some d) (builder : Builder Obj) (s : Stream) :
    ∃ inst' t, ExceptT.run (ofRecord library builder inst.toRecord) s = (.ok inst', t) ∧
      inst'.moduleName = inst.moduleName ∧ inst'.definition = d ∧
      inst'.placement = inst.placement ∧ inst'.points = inst.points ∧
      Named.names inst'.params = d.declared ∧
      (∀ name, Named.get? name inst'.params =
        (Named.get? name d.defaults).map fun default =>
          (Named.get? name inst.params).getD default) ∧
      (inst'.params.Perm inst.params ↔ ∀ name ∈ d.declared, name ∈ Named.names inst.params) ∧
      (inst'.params = inst.params ↔ Named.names inst.params = d.declared) ∧
      (inst'.toRecord = inst.toRecord ↔ Named.names inst.params = d.declared) := by
  obtain ⟨rfl, hplaced⟩ := h.isPlaced hd
  obtain ⟨inst', t, hrun, hname, hdef, hplacement, hpoints, hparams⟩ :=
    run_ofRecord_toRecord hplaced hfinite hfind builder s
  have hnames : Named.names inst'.params = inst.definition.declared := by
    rw [hparams, names_resolveParams, hd.names_defaults]
  have hsame : inst'.params = inst.params ↔ Named.names inst.params = inst.definition.declared := by
    constructor
    · intro heq
      rw [← heq, hnames]
    · intro hall
      rw [hparams]
      exact resolveParams_eq_self (hall.trans hd.names_defaults.symm) hplaced.params.nodup
  refine ⟨inst', t, hrun, hname, hdef, hplacement, hpoints, hnames, ?_, ?_, hsame, ?_⟩
  · intro name
    rw [hparams, get?_resolveParams]
  · rw [hparams]
    exact perm_resolveParams hd hplaced.params.nodup hplaced.params.declared
  · constructor
    · intro hrecord
      rw [← names_eq_of_toRecord_eq hrecord, hnames]
    · intro hall
      exact toRecord_congr hname hpoints (hsame.mpr hall) hplacement

/-- An instance with all its parameters survives its record while its point is missing. -/
theorem ofRecord_toRecord_while_placing :
    ∃ (d : Definition) (inst : Instance SceneObject) (library : Library), d.IsRead ∧
      Obtained d inst ∧ inst.isFinite = true ∧ library.find? inst.moduleName = some d ∧
      inst.placement = .collecting ∧ inst.params = [("a", 1.0), ("b", 5.0)] ∧
      ∀ (builder : Builder SceneObject) (s : Stream), ∃ inst' t,
        ExceptT.run (ofRecord library builder inst.toRecord) s = (.ok inst', t) ∧
          inst'.placement = .collecting ∧ inst'.params = inst.params ∧
            inst'.toRecord = inst.toRecord := by
  obtain ⟨d, inst, hd, hdeclared, hinst, hc, hname, hpoints, hparams⟩ :=
    exists_assigned SceneObject [("a", 1.0), ("b", 5.0)] (by decide)
  have hfinite : inst.isFinite = true := by
    rw [isFinite, hpoints, hparams]
    decide +kernel
  have hfind : (Library.empty.insert "m" d).find? inst.moduleName = some d := by
    rw [hname]
    exact Library.find?_insert_self ..
  have hnames : Named.names inst.params = d.declared := by
    rw [hparams, hdeclared]
    rfl
  refine ⟨d, inst, Library.empty.insert "m" d, hd, hinst, hfinite, hfind, hc, hparams, ?_⟩
  intro builder s
  obtain ⟨inst', t, hrun, -, -, hplacement, -, -, -, -, hsame, hrecord⟩ :=
    ofRecord_toRecord hd hinst hfinite hfind builder s
  exact ⟨inst', t, hrun, hplacement.trans hc, hsame.mpr hnames, hrecord.mpr hnames⟩

/-- An instance with one of two parameters comes back from its record with both. -/
theorem not_forall_ofRecord_toRecord_eq :
    ¬ ∀ (d : Definition) (inst : Instance SceneObject) (library : Library)
      (builder : Builder SceneObject) (s : Stream), d.IsRead → Obtained d inst →
        inst.isFinite = true → library.find? inst.moduleName = some d →
          ∃ inst' t, ExceptT.run (ofRecord library builder inst.toRecord) s = (.ok inst', t) ∧
            inst'.moduleName = inst.moduleName ∧ inst'.placement = inst.placement ∧
              inst'.points = inst.points ∧ inst'.params = inst.params ∧
                inst'.toRecord = inst.toRecord := by
  intro hall
  obtain ⟨d, inst, hd, hdeclared, hinst, -, hname, hpoints, hparams⟩ :=
    exists_assigned SceneObject [("b", 5.0)] (by decide)
  have hfinite : inst.isFinite = true := by
    rw [isFinite, hpoints, hparams]
    decide +kernel
  have hfind : (Library.empty.insert "m" d).find? inst.moduleName = some d := by
    rw [hname]
    exact Library.find?_insert_self ..
  obtain ⟨inst', t, hrun, -, -, -, hsame, -⟩ :=
    hall d inst (Library.empty.insert "m" d) none (.ofSeed 0) hd hinst hfinite hfind
  obtain ⟨rfl, hplaced⟩ := hinst.isPlaced hd
  obtain ⟨read, u, hread, -, -, -, -, hresolved⟩ :=
    run_ofRecord_toRecord hplaced hfinite hfind none (.ofSeed 0)
  obtain rfl : read = inst' := by
    cases hread.symm.trans hrun
    rfl
  have hnames : Named.names inst.params = inst.definition.declared := by
    rw [← hsame, hresolved, names_resolveParams, hd.names_defaults]
  rw [hdeclared, hparams] at hnames
  exact absurd hnames (by decide)

end OpticScene.Module.Instance
