import OpticScene.Proofs.InstanceRecord
import OpticScene.Proofs.Refusal

/-!
# What an instance binds

A module is expanded with the values of its parameters and the coordinates of its control points.
They share one layer of bindings, and the coordinates come last.  Their names are made from the
numbers of the points, those of the parameters come from the definition.  No parameter is declared
twice, but one may have the name of a coordinate.  Expressions then see the coordinate, whatever the
value of the parameter is.

## Main definitions

* `Instance.coordinateNames` — the names of the coordinates of control points.
* `Instance.Binds`, `Instance.BindsPoints` — an instance binds a parameter to its value, and the
  coordinates of its points to theirs.
* `Instance.ReadComplete` — a complete instance was read from a record, and then edited.

## Main results

* `Instance.get?_bindings` — **the bindings of an instance, name by name.**
* `Instance.exists_not_binds` — a parameter with the name of a coordinate may have a value that no
  expression sees.
* `Instance.forall_binds_iff` — which parameters reach the expressions of all instances.
-/

namespace OpticScene.Module.Instance

open OpticScene.Random (Stream)

variable {Obj : Type}

/-! ### Names of coordinates -/

/-- The names of the coordinates of `n` control points, from the point with the number `i` on. -/
def coordinateNames (i n : Nat) : List String :=
  (List.range' i n).flatMap fun j => ["x_" ++ toString j, "y_" ++ toString j]

theorem mem_coordinateNames {i n : Nat} {name : String} :
    name ∈ coordinateNames i n ↔
      ∃ k < n, name = "x_" ++ toString (i + k) ∨ name = "y_" ++ toString (i + k) := by
  simp only [coordinateNames, List.mem_flatMap, List.mem_range', List.mem_cons, List.not_mem_nil,
    or_false, Nat.one_mul]
  constructor
  · rintro ⟨_, ⟨k, hk, rfl⟩, hname⟩
    exact ⟨k, hk, hname⟩
  · rintro ⟨k, hk, hname⟩
    exact ⟨_, ⟨k, hk, rfl⟩, hname⟩

theorem append_toString_inj {before : String} {i j : Nat}
    (h : before ++ toString i = before ++ toString j) : i = j := by
  have hchars := congrArg String.toList ((String.append_right_inj before).mp h)
  rw [Nat.toString_eq_repr, Nat.toString_eq_repr, Nat.toList_repr, Nat.toList_repr] at hchars
  exact toDigits_inj hchars

theorem x_append_ne_y_append (s t : String) : "x_" ++ s ≠ "y_" ++ t := by
  intro h
  have hchars := congrArg String.toList h
  rw [String.toList_append, String.toList_append] at hchars
  exact absurd (List.cons.inj hchars).1 (by decide)

theorem nodup_coordinateNames (i n : Nat) : (coordinateNames i n).Nodup := by
  have hnumbers : (List.range' i n).Nodup := List.nodup_range'
  refine List.nodup_flatMap.mpr ⟨fun j _ => ?_, ?_⟩
  · simp
  · refine hnumbers.imp fun {j k} hne name hj hk => ?_
    simp only [List.mem_cons, List.not_mem_nil, or_false] at hj hk
    rcases hj with rfl | rfl <;> rcases hk with hk | hk
    · exact hne (append_toString_inj hk)
    · exact x_append_ne_y_append _ _ hk
    · exact x_append_ne_y_append _ _ hk.symm
    · exact hne (append_toString_inj hk)

theorem names_coordinates (i : Nat) (ps : List Point) :
    Named.names (coordinates i ps) = coordinateNames i ps.length := by
  induction ps generalizing i with
  | nil => rfl
  | cons p ps ih =>
    rw [List.length_cons, coordinateNames, List.range'_succ, List.flatMap_cons]
    exact congrArg (["x_" ++ toString i, "y_" ++ toString i] ++ ·) (ih (i + 1))

theorem nodup_names_coordinates (i : Nat) (ps : List Point) :
    (Named.names (coordinates i ps)).Nodup := by
  rw [names_coordinates]
  exact nodup_coordinateNames i ps.length

theorem mem_coordinates {ps : List Point} {k : Nat} {p : Point} (h : ps[k]? = some p) (i : Nat) :
    ("x_" ++ toString (i + k), Json.ofFloat p.x) ∈ coordinates i ps ∧
      ("y_" ++ toString (i + k), Json.ofFloat p.y) ∈ coordinates i ps := by
  induction ps generalizing i k with
  | nil => cases h
  | cons q ps ih =>
    cases k with
    | zero =>
      cases h
      exact ⟨.head _, .tail _ (.head _)⟩
    | succ k =>
      obtain ⟨hx, hy⟩ := ih h (i + 1)
      rw [Nat.add_right_comm] at hx hy
      exact ⟨.tail _ (.tail _ hx), .tail _ (.tail _ hy)⟩

/-! ### Bindings -/

/-- A parameter is bound to the value that it has. -/
def Binds (inst : Instance Obj) (name : String) : Prop :=
  ∃ x, Named.get? name inst.params = some x ∧ inst.bindings.get? name = some (.ofFloat x)

/-- The names of the coordinates of every control point are bound to them. -/
def BindsPoints (inst : Instance Obj) : Prop :=
  ∀ k p, inst.points[k]? = some p →
    inst.bindings.get? ("x_" ++ toString (1 + k)) = some (.ofFloat p.x) ∧
      inst.bindings.get? ("y_" ++ toString (1 + k)) = some (.ofFloat p.y)

/-- **The bindings of an instance, name by name.**  A coordinate comes before a parameter. -/
theorem get?_bindings {inst : Instance Obj} (h : (Named.names inst.params).Nodup) (name : String) :
    inst.bindings.get? name = (Named.get? name (coordinates 1 inst.points)).or
      ((Named.get? name inst.params).map Json.ofFloat) := by
  have hparams : (Named.names (inst.params.map fun p => (p.1, Json.ofFloat p.2))).Nodup := by
    rw [Named.names_map fun _ x => Json.ofFloat x]
    exact h
  rw [bindings, Bindings.get?_insertAll (nodup_names_coordinates 1 inst.points), Params.bindings,
    Bindings.get?_insertAll hparams, Named.get?_map fun _ x => Json.ofFloat x]
  exact congrArg _ (Option.or_none ..)

theorem bindsPoints {inst : Instance Obj} (h : (Named.names inst.params).Nodup) :
    inst.BindsPoints := by
  have hnodup := nodup_names_coordinates 1 inst.points
  intro k p hk
  obtain ⟨hx, hy⟩ := mem_coordinates hk 1
  constructor
  · rw [get?_bindings h, Named.get?_of_mem hx hnodup, Option.some_or]
  · rw [get?_bindings h, Named.get?_of_mem hy hnodup, Option.some_or]

/-- A parameter is bound to its value unless its name is that of a coordinate. -/
theorem binds_of_not_mem {inst : Instance Obj} (h : (Named.names inst.params).Nodup) {name : String}
    (hname : name ∈ Named.names inst.params)
    (hfree : name ∉ coordinateNames 1 inst.points.length) : inst.Binds name := by
  obtain ⟨x, hx⟩ := Named.exists_get?_eq_some hname
  rw [← names_coordinates] at hfree
  refine ⟨x, hx, ?_⟩
  rw [get?_bindings h, Named.get?_eq_none hfree, hx]
  rfl

/-- A parameter with the name of a coordinate may have any value: all names stay bound as they
are. -/
theorem get?_bindings_set {inst : Instance Obj} (h : (Named.names inst.params).Nodup)
    {name : String} (hhidden : name ∈ coordinateNames 1 inst.points.length) (x : Float)
    (k : String) :
    Bindings.get? k (bindings { inst with params := Named.set name x inst.params }) =
      inst.bindings.get? k := by
  rw [get?_bindings (Named.nodup_names_set _ _ h), get?_bindings h, Named.get?_set]
  split
  · next heq =>
    subst heq
    rw [← names_coordinates] at hhidden
    obtain ⟨v, hv⟩ := Named.exists_get?_eq_some hhidden
    rw [hv, Option.some_or, Option.some_or]
  · rfl

/-- An expansion does not change what is bound. -/
theorem bindings_refresh (builder : Builder Obj) (inst : Instance Obj) (s : Stream) :
    (inst.refresh builder s).1.bindings = inst.bindings := by
  rw [bindings, bindings, params_refresh, points_refresh]

/-! ### Instances of records -/

/-- A complete instance of a definition was read from a record, and then edited. -/
inductive ReadComplete (d : Definition) : Instance Obj → Prop
  /-- It is read from a record, with a library that has the definition under its name. -/
  | read {library : Library} {builder : Builder Obj} {v : Json} {inst : Instance Obj}
    {s t : Stream} : ExceptT.run (ofRecord library builder v) s = (.ok inst, t) →
      library.find? inst.moduleName = some d → inst.placement = .complete → ReadComplete d inst
  /-- It is edited. -/
  | edit {builder : Builder Obj} {inst inst' : Instance Obj} {edit : Edit} {s t : Stream} :
    ReadComplete d inst → ExceptT.run (edit.apply builder inst) s = (.ok inst', t) →
      ReadComplete d inst'

variable {d : Definition} {inst : Instance SceneObject}

theorem ReadComplete.obtained {inst : Instance Obj} (h : ReadComplete d inst) :
    Obtained d inst := by
  induction h with
  | read hrun hfind _ => exact .read hrun hfind
  | edit _ hrun ih => exact ih.edit hrun

/-- A complete instance stays complete, and has the parameters that its definition declares. -/
theorem ReadComplete.names_params (hd : d.IsRead) (h : ReadComplete d inst) :
    inst.placement = .complete ∧ Named.names inst.params = d.declared := by
  induction h with
  | read hrun hfind hcomplete =>
    obtain ⟨fields, d', hfind', -, rfl⟩ := exists_of_run_ofRecord hrun
    rw [moduleName_refresh] at hfind
    obtain rfl : d' = d := Option.some.inj (hfind'.symm.trans hfind)
    refine ⟨hcomplete, ?_⟩
    rw [placement_refresh] at hcomplete
    rw [params_refresh]
    exact (hasParams_core fields hd).names_eq hcomplete
  | @edit builder inst inst' edit s t hread hrun ih =>
    obtain ⟨hcomplete, hnames⟩ := ih
    obtain ⟨hdef, hplaced⟩ := hread.obtained.isPlaced hd
    rcases hc : edit.change inst with e | core
    · rw [run_apply_of_error builder hc] at hrun
      cases hrun
    · rw [run_apply_of_ok builder hplaced.tidy hc] at hrun
      cases hrun
      rw [placement_refresh, params_refresh]
      rcases Edit.cases_of_change hc with ⟨p, -, hcollecting, -⟩ | ⟨delta, -, rfl⟩ |
        ⟨index, p, -, -, rfl⟩ | ⟨name, x, -, hname, rfl⟩
      · cases hcomplete.symm.trans hcollecting
      · exact ⟨hcomplete, hnames⟩
      · exact ⟨hcomplete, hnames⟩
      · refine ⟨hcomplete, ?_⟩
        rw [hdef, hd.declares_iff, ← hnames] at hname
        rw [Named.names_set, if_pos hname, hnames]

theorem ReadComplete.nodup_params (hd : d.IsRead) (h : ReadComplete d inst) :
    (Named.names inst.params).Nodup :=
  (h.names_params hd).2 ▸ hd.nodup_declared

theorem ReadComplete.length_points (hd : d.IsRead) (h : ReadComplete d inst) :
    inst.points.length = d.numPoints := by
  obtain ⟨hdef, hplaced⟩ := h.obtained.isPlaced hd
  rw [hplaced.points.complete (h.names_params hd).1, hdef]

/-- The record of an instance that has its points at the origin and the defaults. -/
def plainRecord : Json := .object [("module", .string "m")]

/-- There is an instance with any value of a parameter, and with its points at the origin. -/
theorem exists_readComplete (hd : d.IsRead) {name : String} (hname : name ∈ d.declared)
    (x : Float) :
    ∃ inst : Instance SceneObject, ReadComplete d inst ∧ Named.get? name inst.params = some x ∧
      inst.points = List.replicate d.numPoints .zero := by
  let fields : Fields := ⟨"m", none, none, false⟩
  let core : Instance SceneObject := fields.core d
  have hdecode : Fields.decode plainRecord = .ok fields := rfl
  have hfind : (Library.empty.insert "m" d).find? "m" = some d := Library.find?_insert_self ..
  have hfits : fields.Fits d := List.length_replicate
  have hrun := run_ofRecord hdecode (Library.empty.insert "m" d) (none : Builder SceneObject)
    (.ofSeed 0)
  rw [ofFields_eq_ok.mpr ⟨d, hfind, hfits, rfl⟩] at hrun
  have hread : ReadComplete d (core.refresh none (.ofSeed 0)).1 :=
    .read hrun (by rw [moduleName_refresh]; exact hfind) (placement_refresh ..)
  have htidy : (core.refresh none (.ofSeed 0)).1.Tidy := tidy_refresh _ _ _
  have hchange : Edit.change (core.refresh none (.ofSeed 0)).1 (.setParam name x) = .ok _ :=
    if_pos (by rw [definition_refresh]; exact (hd.declares_iff name).mpr hname)
  refine ⟨_, hread.edit (run_apply_of_ok none htidy hchange (.ofSeed 0)), ?_, ?_⟩
  · rw [params_refresh, Named.get?_set, if_pos rfl]
  · rw [points_refresh]
    exact points_refresh ..

/-- **A parameter with the name of a coordinate may have a value that no expression sees**: all
control points are at the origin, and the parameter is not zero. -/
theorem exists_not_binds (hd : d.IsRead) {name : String} (hname : name ∈ d.declared)
    (hhidden : name ∈ coordinateNames 1 d.numPoints) :
    ∃ inst : Instance SceneObject, ReadComplete d inst ∧ ¬ inst.Binds name := by
  obtain ⟨inst, hread, hvalue, hpoints⟩ := exists_readComplete hd hname 1.0
  refine ⟨inst, hread, ?_⟩
  rintro ⟨x, hx, hbound⟩
  cases hvalue.symm.trans hx
  have horigin : inst.bindings.get? name = some (.ofFloat Point.zero.x) := by
    obtain ⟨k, hk, hcoordinate⟩ := mem_coordinateNames.mp hhidden
    have hpoint : inst.points[k]? = some .zero := by
      rw [hpoints, List.getElem?_replicate, if_pos hk]
    obtain ⟨hpx, hpy⟩ := bindsPoints (hread.nodup_params hd) k _ hpoint
    rcases hcoordinate with rfl | rfl
    · exact hpx
    · exact hpy
  have hdifferent : (Json.ofFloat Point.zero.x).toFloat? ≠ (Json.ofFloat 1.0).toFloat? := by
    decide +kernel
  exact hdifferent (congrArg (·.bind Json.toFloat?) (horigin.symm.trans hbound))

/-- Setting a parameter with the name of a coordinate succeeds, and nothing comes of it. -/
theorem ReadComplete.exists_run_setParam (hd : d.IsRead) (h : ReadComplete d inst) {name : String}
    (hname : name ∈ d.declared) (hhidden : name ∈ coordinateNames 1 d.numPoints)
    (builder : Builder SceneObject) (x : Float) (s : Stream) :
    ∃ inst' t, ExceptT.run (inst.setParam builder name x) s = (.ok inst', t) ∧
      ∀ k, inst'.bindings.get? k = inst.bindings.get? k := by
  obtain ⟨hdef, hplaced⟩ := h.obtained.isPlaced hd
  have hchange : Edit.change inst (.setParam name x) = .ok _ :=
    if_pos (by rw [hdef]; exact (hd.declares_iff name).mpr hname)
  rw [← h.length_points hd] at hhidden
  refine ⟨_, _, run_apply_of_ok builder hplaced.tidy hchange s, fun k => ?_⟩
  rw [bindings_refresh]
  exact get?_bindings_set (h.nodup_params hd) hhidden x k

/-- **Which parameters reach the expressions of all instances**: those with a name that is not the
name of a coordinate.  The coordinates always do.  A parameter with the name of one of them can be
set, but nothing that is bound changes. -/
theorem forall_binds_iff (hd : d.IsRead) :
    (∀ inst : Instance SceneObject, ReadComplete d inst → inst.BindsPoints) ∧
    (∀ name ∈ d.declared, (∀ inst : Instance SceneObject, ReadComplete d inst → inst.Binds name) ↔
      name ∉ coordinateNames 1 d.numPoints) ∧
    ∀ name ∈ d.declared, name ∈ coordinateNames 1 d.numPoints →
      ∀ inst : Instance SceneObject, ReadComplete d inst → ∀ builder x s,
        ∃ inst' t, ExceptT.run (inst.setParam builder name x) s = (.ok inst', t) ∧
          ∀ k, inst'.bindings.get? k = inst.bindings.get? k := by
  refine ⟨fun inst h => bindsPoints (h.nodup_params hd), fun name hname => ⟨?_, ?_⟩, ?_⟩
  · intro hall hhidden
    obtain ⟨inst, hread, hlost⟩ := exists_not_binds hd hname hhidden
    exact hlost (hall inst hread)
  · intro hfree inst hread
    refine binds_of_not_mem (hread.nodup_params hd) ?_ ?_
    · rw [(hread.names_params hd).2]
      exact hname
    · rw [hread.length_points hd]
      exact hfree
  · intro name hname hhidden inst hread
    exact hread.exists_run_setParam hd hname hhidden

/-- The record of a module with one control point and one parameter. -/
def oneParam (descriptor : String) : Json :=
  .object [("numPoints", .ofNat 1), ("params", .array [.string descriptor])]

theorem exists_oneParam {descriptor name : String}
    (h : (ExceptT.run (Definition.ofRecord (oneParam descriptor)) (.ofSeed 0)).1.toOption.any
      (fun d => decide (d.numPoints = 1 ∧ d.declared = [name])) = true) :
    ∃ d : Definition, d.IsRead ∧ d.numPoints = 1 ∧ name ∈ d.declared := by
  obtain ⟨d, hrun, hfields⟩ := exists_run_of_any h
  obtain ⟨hpoints, hdeclared⟩ := of_decide_eq_true hfields
  exact ⟨d, Definition.isRead_of_run hrun, hpoints, hdeclared ▸ List.mem_cons_self⟩

/-- A parameter with a name of its own is bound to its value, next to the control point. -/
theorem forall_binds_of_angle :
    ∃ (d : Definition) (inst : Instance SceneObject), d.IsRead ∧ "angle" ∈ d.declared ∧
      "angle" ∉ coordinateNames 1 d.numPoints ∧ ReadComplete d inst ∧ inst.points = [.zero] ∧
        inst.BindsPoints ∧ Named.get? "angle" inst.params = some 7.0 ∧ inst.Binds "angle" := by
  obtain ⟨d, hd, hpoints, hname⟩ :=
    @exists_oneParam "angle=5:1:9" "angle" (by decide +kernel)
  have hfree : "angle" ∉ coordinateNames 1 d.numPoints := by
    rw [hpoints]
    decide
  obtain ⟨inst, hread, hvalue, hzero⟩ := exists_readComplete hd hname 7.0
  obtain ⟨hcoordinates, hparams, -⟩ := forall_binds_iff hd
  rw [hpoints] at hzero
  exact ⟨d, inst, hd, hname, hfree, hread, hzero, hcoordinates inst hread, hvalue,
    (hparams "angle" hname).mpr hfree inst hread⟩

/-- The only control point hides a parameter that has the name of its first coordinate. -/
theorem not_forall_binds :
    ¬ ∀ (d : Definition) (inst : Instance SceneObject), d.IsRead → ReadComplete d inst →
      (∀ name ∈ d.declared, inst.Binds name) ∧ inst.BindsPoints := by
  intro hall
  obtain ⟨d, hd, hpoints, hname⟩ := @exists_oneParam "x_1=5:1:9" "x_1" (by decide +kernel)
  have hhidden : "x_1" ∈ coordinateNames 1 d.numPoints := by
    rw [hpoints]
    decide
  obtain ⟨inst, hread, hlost⟩ := exists_not_binds hd hname hhidden
  exact hlost ((hall d inst hd hread).1 "x_1" hname)

end OpticScene.Module.Instance
