import OpticScene.Proofs.FiniteNumbers
import OpticScene.Proofs.Origin
import OpticScene.Proofs.RecordRoundTrip

/-!
# Objects of finite records

The numbers of an object are those of its record or constants that stand for missing ones, and the
numbers of a definition are those of its record or results of expressions.  So a finite record makes
a finite object, and as instances expand to finite records, this is so at every depth.

## Main definitions

* `Record.Reads` — what is read from finite values has a property.
* `Definition.IsFinite` — the defaults of a definition and the numbers in its objects are finite.

## Main results

* `Definition.gives_ofRecord` — **a finite record of a definition makes a finite definition.**
* `Registry.gives_instantiate` — **a finite record of an object makes a finite object.**
* `Registry.isFinite_of_mem_refresh` — so do the records that an instance expands to.
-/

namespace OpticScene

open OpticScene.Random (Draws Gives Stream)
open OpticScene.Module (Definition Instance Library)

/-! ### Readers -/

namespace Record

variable {α : Type} {P : α → Prop} {decode : Decoder α}

/-- What is read from finite values has a property. -/
def Reads (P : α → Prop) (decode : Decoder α) : Prop :=
  ∀ v : Json, v.isFinite = true → Yields P (decode v)

theorem reads_anything : Reads (·.isFinite = true) anything := fun _ hv => .ok hv

theorem reads_float : Reads (·.isFinite = true) float := by
  intro v hv
  cases v with
  | number n => exact .ok hv
  | _ => exact .error _ _

/-- What a step yields from each element is what it yields from a list of them. -/
theorem yields_mapM {γ : Type} {step : γ → Except Cause α} :
    ∀ {items : List γ}, (∀ item ∈ items, Yields P (step item)) →
      Yields (∀ a ∈ ·, P a) (items.mapM step) := by
  intro items
  induction items with
  | nil => intro _; exact .ok fun _ ha => nomatch ha
  | cons item items ih =>
    intro h
    rw [List.forall_mem_cons] at h
    rw [List.mapM_cons]
    refine h.1.bind fun a ha => (ih h.2).bind fun as has => .ok ?_
    exact List.forall_mem_cons.mpr ⟨ha, has⟩

namespace Reads

theorem option (h : Reads P decode) : Reads (∀ a ∈ ·, P a) (option decode) := by
  intro v hv
  cases v with
  | null => exact .ok fun _ ha => nomatch ha
  | _ => exact (h _ hv).map fun a ha b hb => by cases hb; exact ha

theorem list (h : Reads P decode) : Reads (∀ a ∈ ·, P a) (list decode) := by
  intro v hv
  cases v with
  | array items =>
    rw [Json.isFinite, Json.allFinite_eq, List.all_eq_true] at hv
    exact yields_mapM fun item hitem => h item (hv item hitem)
  | _ => exact .error _ _

theorem named (h : Reads P decode) :
    Reads (fun entries : Named α => ∀ e ∈ entries, P e.2) (named decode) := by
  intro v hv
  cases v with
  | object fields =>
    rw [Json.isFinite, Json.fieldsFinite_eq, List.all_eq_true] at hv
    exact yields_mapM (P := fun e : String × α => P e.2) fun e he =>
      (h e.2 (hv e he)).bind fun a ha => .ok ha
  | _ => exact .error _ _

end Reads

/-! ### Shapes -/

theorem yields_nameElements (shape : Shape) (total : Nat) : ∀ (fields : List Field)
    (items : List Json) (index : Nat), Json.allFinite items = true →
      Yields (Json.fieldsFinite · = true) (shape.nameElements total index fields items)
  | [], [], _, _ => .ok rfl
  | [], _ :: _, _, _ => .error _ _
  | field :: fields, [], index, h => by
    rw [Shape.nameElements]
    split
    · exact .error _ _
    · exact yields_nameElements shape total fields [] (index + 1) h
  | field :: fields, v :: vs, index, h => by
    rw [Json.allFinite, Bool.and_eq_true] at h
    rw [Shape.nameElements]
    refine .of_bind fun _ => ?_
    refine (yields_nameElements shape total fields vs (index + 1) h.2).bind fun rest hrest => ?_
    exact .ok (by rw [Json.fieldsFinite, h.1, hrest]; rfl)

/-- The fields of a finite record are finite. -/
theorem reads_read (shape : Shape) : Reads (Json.fieldsFinite · = true) shape.read := by
  intro v hv
  cases v with
  | object given => exact .of_bind fun _ => .of_bind fun _ => .ok hv
  | array items => exact yields_nameElements shape _ _ items 0 hv
  | _ => exact .error _ _

section

variable {fields : Fields} (hfields : Json.fieldsFinite fields = true)

include hfields

theorem isFinite_of_get?_eq_some {name : String} {v : Json} (h : Named.get? name fields = some v) :
    v.isFinite = true := by
  rw [Json.fieldsFinite_eq, List.all_eq_true] at hfields
  exact hfields _ (Named.mem_of_get?_eq_some h)

theorem Reads.required (h : Reads P decode) (name : String) :
    Yields P (fields.required name decode) := by
  unfold Fields.required
  split
  · next v hv => exact h v (isFinite_of_get?_eq_some hfields hv)
  · exact .error _ _

theorem Reads.optional (h : Reads P decode) (name : String) {default : α} (hdefault : P default) :
    Yields P (fields.optional name decode default) := by
  unfold Fields.optional
  split
  · next v hv => exact h v (isFinite_of_get?_eq_some hfields hv)
  · exact .ok hdefault

end

theorem reads_point : Reads (·.isFinite = true) point := by
  intro v hv
  refine (reads_read pointShape v hv).bind fun fields hfields => ?_
  refine (reads_float.required hfields "x").bind fun x hx => ?_
  refine (reads_float.required hfields "y").bind fun y hy => ?_
  exact .ok (Bool.and_eq_true_iff.mpr ⟨hx, hy⟩)

end Record

/-! ### Plain objects -/

open Record

theorem Mirror.reads_ofRecord : Reads (·.isFinite = true) Mirror.ofRecord := by
  intro v hv
  refine (reads_read shape v hv).bind fun fields hfields => ?_
  refine (reads_point.required hfields "p1").bind fun p1 hp1 => ?_
  refine (reads_point.required hfields "p2").bind fun p2 hp2 => ?_
  refine (reads_float.optional hfields "tiltAngle" (by decide)).bind fun tiltAngle htilt => ?_
  refine .of_bind fun filter => .of_bind fun invert => ?_
  refine (reads_float.optional hfields "wavelength" (by decide)).bind fun wavelength hmiddle => ?_
  refine (reads_float.optional hfields "bandwidth" (by decide)).bind fun bandwidth hwidth => ?_
  exact .ok (by rw [isFinite, hp1, hp2, htilt, hmiddle, hwidth]; rfl)

theorem Blocker.reads_ofRecord : Reads (·.isFinite = true) Blocker.ofRecord := by
  intro v hv
  refine (reads_read shape v hv).bind fun fields hfields => ?_
  refine (reads_point.required hfields "p1").bind fun p1 hp1 => ?_
  refine (reads_point.required hfields "p2").bind fun p2 hp2 => ?_
  exact .ok (by rw [isFinite, hp1, hp2]; rfl)

theorem Label.reads_ofRecord : Reads (·.isFinite = true) Label.ofRecord := by
  intro v hv
  refine (reads_read shape v hv).bind fun fields hfields => ?_
  refine (reads_float.required hfields "x").bind fun x hx => ?_
  refine (reads_float.required hfields "y").bind fun y hy => .of_bind fun text => ?_
  refine (reads_float.optional hfields "fontSize" (by decide)).bind fun fontSize hsize => ?_
  exact .ok (by rw [isFinite, hx, hy, hsize]; rfl)

/-- A number that is not finite is written as nothing. -/
theorem Json.isFinite_ofFloat (x : Float) : (Json.ofFloat x).isFinite = true := by
  unfold ofFloat
  split
  · next h => exact h
  · rfl

theorem Record.isFinite_ofPoint (p : Point) : (ofPoint p).isFinite = true := by
  simp [ofPoint, Json.isFinite, Json.fieldsFinite, Json.isFinite_ofFloat]

/-- No record that is written has a number that is not finite. -/
theorem SceneObject.isFinite_toRecord (object : SceneObject) : object.toRecord.isFinite = true := by
  cases object with
  | module inst =>
    have hpoints : Json.allFinite (inst.points.map Record.ofPoint) = true := by
      simp [Json.allFinite_eq, Record.isFinite_ofPoint]
    have hparams : Json.fieldsFinite (inst.params.map fun p => (p.1, .ofFloat p.2)) = true := by
      simp [Json.fieldsFinite_eq, Json.isFinite_ofFloat]
    cases hp : inst.placement <;>
      simp [toRecord, Module.Instance.toRecord, hp, tagged, Json.isFinite, Json.fieldsFinite,
        hpoints, hparams]
  | _ =>
    simp [toRecord, tagged, Mirror.toFields, Blocker.toFields, Label.toFields, Json.isFinite,
      Json.fieldsFinite, Json.isFinite_ofFloat, Record.isFinite_ofPoint]

/-! ### Definitions -/

theorem Range.gives_parseField (b : Bindings) (field : Field) (s : String) :
    Gives (·.isFinite = true) (parseField b field s) := by
  refine ((Expression.gives_evaluate b _).adapt _).bind fun v hv => ?_
  cases v with
  | number n => exact .pure hv
  | _ => exact .throw _ _

/-- The default of a range is finite, as it is the value of an expression. -/
theorem Range.gives_parse (b : Bindings) (descriptor : String) :
    Gives (fun range => range.default.isFinite = true) (parse b descriptor) := by
  refine Gives.adapt (.of_bind fun (name, fields) => ?_) _
  refine .of_bind fun (start, step, stop, default) => ?_
  refine (gives_parseField b .start start).bind fun start hstart => ?_
  refine .of_bind fun step => .of_bind fun stop => ?_
  cases default with
  | none => exact .pure hstart
  | some default =>
    exact (gives_parseField b .default default).bind fun default hdefault => .pure hdefault

namespace Module

/-- All values of parameters are finite. -/
def Params.IsFinite (params : Params) : Prop := ∀ p ∈ params, p.2.isFinite = true

theorem gives_resolveDefaults : ∀ (descriptors : List String) (before : Params),
    before.IsFinite → Gives Params.IsFinite (resolveDefaults before descriptors)
  | [], _, h => .pure h
  | descriptor :: descriptors, before, h => by
    refine ((Range.gives_parse before.bindings descriptor).adapt _).bind fun range hrange => ?_
    have hnext : (before ++ [(range.name, range.default)] : Params).IsFinite :=
      List.forall_mem_append.mpr ⟨h, List.forall_mem_singleton.mpr hrange⟩
    split
    · exact .of_bind fun _ => gives_resolveDefaults descriptors _ hnext
    · exact gives_resolveDefaults descriptors _ hnext

theorem DefinitionRecord.reads_decode :
    Reads (fun record => Json.allFinite record.objs = true) decode := by
  intro v hv
  refine (reads_read definitionShape v hv).bind fun fields hfields => ?_
  refine .of_bind fun numPoints => .of_bind fun params => .of_bind fun vars => ?_
  have hnone : ∀ a ∈ ([] : List Json), a.isFinite = true := fun _ h => absurd h List.not_mem_nil
  refine (reads_anything.list.optional hfields "objs" hnone).bind fun objs hobjs => ?_
  refine .of_bind fun maxLoop => .ok ?_
  rw [Json.allFinite_eq, List.all_eq_true]
  exact hobjs

/-- The numbers of a definition that come into instances are finite. -/
structure Definition.IsFinite (d : Definition) : Prop where
  /-- The defaults of the parameters are finite. -/
  defaults : Params.IsFinite d.defaults
  /-- The numbers in the templates of the objects are finite. -/
  objs : Template.itemsFinite d.objs = true

/-- **A finite record of a definition makes a finite definition.** -/
theorem Definition.gives_ofRecord {v : Json} (hv : v.isFinite = true) :
    Gives Definition.IsFinite (ofRecord v) := by
  intro s d hd
  obtain ⟨record, hdecode, -, hdefaults, -, hobjs, -⟩ := run_ofRecord_eq_ok.mp (Prod.ext hd rfl)
  have hrecord := DefinitionRecord.reads_decode v hv record hdecode
  exact ⟨(gives_resolveDefaults _ [] fun _ h => nomatch h).of_run hdefaults,
    yields_compileItems _ _ _ hrecord _ hobjs⟩

/-! ### Instances -/

namespace Instance

/-- The numbers in the fields of an instance are finite. -/
structure Fields.IsFinite (fields : Fields) : Prop where
  /-- The control points are finite. -/
  points : ∀ ps ∈ fields.points, ∀ p ∈ ps, p.isFinite = true
  /-- The values of the parameters are finite. -/
  params : ∀ ps ∈ fields.params, Params.IsFinite ps

theorem Fields.reads_decode : Reads Fields.IsFinite decode := by
  intro v hv
  refine (reads_read shape v hv).bind fun fields hfields => .of_bind fun moduleName => ?_
  have hnone : ∀ {α : Type} {P : α → Prop}, ∀ a ∈ (none : Option α), P a := fun _ h => nomatch h
  refine (reads_point.list.option.optional hfields "points" hnone).bind fun points hpoints => ?_
  refine (reads_float.named.option.optional hfields "params" hnone).bind fun params hparams => ?_
  exact .of_bind fun notDone => .ok ⟨hpoints, hparams⟩

variable {Obj : Type}

theorem isFinite_pointsFor {fields : Fields} (h : fields.IsFinite) (d : Definition) :
    ∀ p ∈ fields.pointsFor d, p.isFinite = true := by
  intro p hp
  unfold Fields.pointsFor at hp
  rcases hpoints : fields.points with _ | points
  · simp only [hpoints] at hp
    split at hp
    · exact absurd hp List.not_mem_nil
    · rw [List.eq_of_mem_replicate hp]
      decide
  · simp only [hpoints] at hp
    exact h.points points hpoints p hp

/-- A parameter has the value that is given or the default. -/
theorem isFinite_resolveParams {d : Definition} (hd : d.IsFinite) {given : Params}
    (hgiven : given.IsFinite) : (resolveParams d given).IsFinite := by
  intro p hp
  obtain ⟨⟨name, default⟩, hmem, rfl⟩ := List.mem_map.mp hp
  dsimp only
  rcases hget : Named.get? name given with _ | x
  · exact hd.defaults (name, default) hmem
  · exact hgiven (name, x) (Named.mem_of_get?_eq_some hget)

theorem isFinite_paramsFor {fields : Fields} {d : Definition} (hfields : fields.IsFinite)
    (hd : d.IsFinite) : (fields.paramsFor d).IsFinite := by
  unfold Fields.paramsFor
  split
  · next given hgiven => exact isFinite_resolveParams hd (hfields.params given hgiven)
  · split
    · exact fun _ h => nomatch h
    · exact hd.defaults

theorem isFinite_core {fields : Fields} {d : Definition} (hfields : fields.IsFinite)
    (hd : d.IsFinite) : (fields.core d : Instance Obj).isFinite = true :=
  Bool.and_eq_true_iff.mpr ⟨List.all_eq_true.mpr (isFinite_pointsFor hfields d),
    List.all_eq_true.mpr (isFinite_paramsFor hfields hd)⟩

theorem isFinite_refresh (builder : Builder Obj) (inst : Instance Obj) (s : Stream) :
    (inst.refresh builder s).1.isFinite = inst.isFinite := by
  rw [refresh_eq]
  rfl

theorem gives_ofRecord {library : Library} (hall : library.All Definition.IsFinite) {record : Json}
    (hv : record.isFinite = true) (builder : Builder Obj) :
    Gives (·.isFinite = true) (ofRecord library builder record) := by
  have hread := (Fields.reads_decode record hv).mapError (SceneError.ofRecord tag)
  refine (Gives.ofExcept hread).bind fun fields hfields => ?_
  have hcore : Yields (·.isFinite = true)
      (ofFields library fields : Except SceneError (Instance Obj)) := by
    intro core h
    obtain ⟨d, hd, -, rfl⟩ := ofFields_eq_ok.mp h
    exact isFinite_core hfields (hall _ _ hd)
  refine (Gives.ofExcept hcore).bind fun core hcore => .ofState fun s => ?_
  rw [isFinite_refresh]
  exact hcore

/-- The records of an instance are finite, whatever its points and its parameters are. -/
theorem gives_expandRecords {inst : Instance Obj} (hd : inst.definition.IsFinite) :
    Gives (Json.allFinite · = true) inst.expandRecords := by
  unfold expandRecords
  dsimp only
  split <;> exact .of_bind fun scope => Expansion.gives_expandItems _ _ scope 0 hd.objs

end Instance

end Module

/-! ### Objects -/

namespace Registry

variable {registry : Registry} {library : Library}

/-- An object that is no instance is read without draws. -/
theorem gives_plain {α : Type} {P : α → Prop} {decode : Decoder α} (h : Reads P decode)
    (f : α → SceneObject) (hf : ∀ a, P a → (f a).isFinite = true) {record : Json}
    (hv : record.isFinite = true) (kind : SceneObject.Kind) :
    Gives (·.isFinite = true)
      (do return f (← (decode record).mapError (SceneError.ofRecord kind.tag)) :
        Draws SceneError SceneObject) :=
  (Gives.ofExcept ((h record hv).mapError _)).bind fun a ha => .pure (hf a ha)

/-- **A finite record of an object makes a finite object.** -/
theorem gives_instantiate (hall : library.All Definition.IsFinite) {record : Json}
    (hv : record.isFinite = true) (levels : Nat) :
    Gives (·.isFinite = true) (registry.instantiate library levels record) := by
  unfold instantiate instantiateWith createWith Of.createBy
  split
  · split
    · next kind _ =>
      cases kind with
      | mirror => exact gives_plain Mirror.reads_ofRecord .mirror (fun _ h => h) hv .mirror
      | blocker => exact gives_plain Blocker.reads_ofRecord .blocker (fun _ h => h) hv .blocker
      | label => exact gives_plain Label.reads_ofRecord .label (fun _ h => h) hv .label
      | module => exact (Instance.gives_ofRecord hall hv _).bind fun inst hinst => .pure hinst
    · exact .throw _ _
  · exact .throw _ _

/-- The objects of an instance are made from finite records, one level further down. -/
theorem exists_run_of_mem_refresh {levels : Nat} {inst : Instance SceneObject}
    (hd : inst.definition.IsFinite) {s : Stream} {object : SceneObject}
    (h : object ∈ (inst.refresh (registry.builder library levels) s).1.objects) :
    ∃ rest record t u, levels = rest + 1 ∧ record.isFinite = true ∧
      ExceptT.run (registry.instantiate library rest record) t = (.ok object, u) := by
  rw [Instance.objects_refresh] at h
  obtain ⟨build, records, v, hbuild, hrecords, record, hmem, t, u, hrun⟩ :=
    Instance.exists_run_of_mem_expansion h
  have hfinite := (Instance.gives_expandRecords hd).of_run hrecords
  rw [Json.allFinite_eq, List.all_eq_true] at hfinite
  cases levels with
  | zero => cases hbuild
  | succ levels =>
    cases hbuild
    exact ⟨levels, record, t, u, rfl, hfinite record hmem, hrun⟩

/-- **An instance expands to finite objects.** -/
theorem isFinite_of_mem_refresh (hall : library.All Definition.IsFinite) {levels : Nat}
    {inst : Instance SceneObject} (hd : inst.definition.IsFinite) {s : Stream}
    {object : SceneObject}
    (h : object ∈ (inst.refresh (registry.builder library levels) s).1.objects) :
    object.isFinite = true := by
  obtain ⟨rest, record, t, u, -, hrecord, hrun⟩ := exists_run_of_mem_refresh hd h
  exact (gives_instantiate hall hrecord rest).of_run hrun

end Registry

end OpticScene
