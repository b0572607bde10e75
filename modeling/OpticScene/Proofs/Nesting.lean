import OpticScene.Proofs.Operation

/-!
# Instances inside instances

The objects of a scene form a tree: an instance holds the objects that it expands to, and some of
them may be instances again.  Those at the top level have a history of their own, but all others
come from a record in one go: the record is read with the modules known at that moment, and the
instance is expanded one level deeper than the one around it.

## Main definitions

* `SceneObject.Occurs` — an instance stands at some depth among objects.
* `Registry.Makes` — an instance comes from a record, with some levels left below it.

## Main results

* `Registry.makes_of_occurs` — **every instance inside an expanded instance comes from a record**,
  with one level less below it for each instance around it.
-/

namespace OpticScene

open OpticScene.Random (Draws Stream)
open OpticScene.Module (Definition Instance Library)

/-! ### Depth -/

/-- `Occurs inst depth objects` says that the instance stands among the objects inside `depth` other
instances. -/
inductive SceneObject.Occurs (inst : Instance SceneObject) : Nat → List SceneObject → Prop
  /-- It is one of the objects. -/
  | top {objects : List SceneObject} : .module inst ∈ objects → Occurs inst 0 objects
  /-- It occurs inside one of them. -/
  | inside {objects : List SceneObject} {outer : Instance SceneObject} {depth : Nat} :
    .module outer ∈ objects → Occurs inst depth outer.objects → Occurs inst (depth + 1) objects

namespace SceneObject

theorem instance?_eq_some_iff {object : SceneObject} {inst : Instance SceneObject} :
    object.instance? = some inst ↔ object = .module inst := by
  cases object <;> simp [instance?]

theorem bind_instance?_eq_some_iff {x : Option SceneObject} {inst : Instance SceneObject} :
    x.bind instance? = some inst ↔ x = some (.module inst) := by
  cases x with
  | none => simp
  | some object => simp [instance?_eq_some_iff]

theorem occurs_zero_iff {inst : Instance SceneObject} {objects : List SceneObject} :
    Occurs inst 0 objects ↔ .module inst ∈ objects :=
  ⟨fun h => by cases h; assumption, .top⟩

theorem occurs_succ_iff {inst : Instance SceneObject} {depth : Nat} {objects : List SceneObject} :
    Occurs inst (depth + 1) objects ↔
      ∃ outer, .module outer ∈ objects ∧ Occurs inst depth outer.objects := by
  constructor
  · intro h
    cases h with
    | inside ho hi => exact ⟨_, ho, hi⟩
  · rintro ⟨outer, ho, hi⟩
    exact .inside ho hi

/-- What occurs in an object occurs wherever the object stands. -/
theorem Occurs.of_singleton {inst : Instance SceneObject} {object : SceneObject} {depth : Nat}
    (h : Occurs inst depth [object]) {objects : List SceneObject} (ho : object ∈ objects) :
    Occurs inst depth objects := by
  cases h with
  | top hi =>
    obtain rfl := List.mem_singleton.mp hi
    exact .top ho
  | inside hi hrest =>
    obtain rfl := List.mem_singleton.mp hi
    exact .inside ho hrest

theorem not_occurs_nil {inst : Instance SceneObject} {depth : Nat} : ¬ Occurs inst depth [] := by
  intro h
  cases h <;> contradiction

end SceneObject

/-! ### Expansion -/

namespace Module.Instance

variable {Obj : Type}

/-- An instance without records has no objects. -/
theorem expansion_of_error (builder : Builder Obj) {inst : Instance Obj}
    (h : inst.placement = .complete) {s t : Stream} {e : ExpansionError}
    (hr : ExceptT.run inst.expandRecords s = (.error e, t)) :
    inst.expansion builder s = (([], some (.expansion e)), t) := by
  rw [expansion_complete _ h, expandObjects, bindState_of_eq hr]
  rfl

/-- Below the largest depth, the records are not made into objects. -/
theorem expansion_of_none {inst : Instance Obj} (h : inst.placement = .complete) {s t : Stream}
    {records : List Json} (hr : ExceptT.run inst.expandRecords s = (.ok records, t)) :
    inst.expansion none s = (([], some (.nestingTooDeep maxDepth)), t) := by
  rw [expansion_complete _ h, expandObjects, bindState_of_eq hr]
  rfl

theorem expansion_of_some {build : Json → Draws SceneError Obj} {inst : Instance Obj}
    (h : inst.placement = .complete) {s t : Stream} {records : List Json}
    (hr : ExceptT.run inst.expandRecords s = (.ok records, t)) :
    inst.expansion (some build) s = buildAll build records t := by
  rw [expansion_complete _ h, expandObjects, bindState_of_eq hr]

theorem buildAll_nil (build : Json → Draws SceneError Obj) (s : Stream) :
    buildAll build [] s = (([], none), s) := rfl

theorem buildAll_cons_of_error {build : Json → Draws SceneError Obj} {record : Json}
    {s t : Stream} {e : SceneError} (h : ExceptT.run (build record) s = (.error e, t))
    (records : List Json) : buildAll build (record :: records) s = (([], some e), t) := by
  rw [buildAll, bindState_of_eq h]
  rfl

theorem buildAll_cons_of_ok {build : Json → Draws SceneError Obj} {record : Json}
    {s t : Stream} {object : Obj} (h : ExceptT.run (build record) s = (.ok object, t))
    (records : List Json) :
    buildAll build (record :: records) s =
      ((object :: (buildAll build records t).1.1, (buildAll build records t).1.2),
        (buildAll build records t).2) := by
  rw [buildAll, bindState_of_eq h]
  rfl

/-- Every object comes from one of the records. -/
theorem exists_run_of_mem_buildAll {build : Json → Draws SceneError Obj} {object : Obj} :
    ∀ {records : List Json} {s : Stream}, object ∈ (buildAll build records s).1.1 →
      ∃ record ∈ records, ∃ t u, ExceptT.run (build record) t = (.ok object, u) := by
  intro records
  induction records with
  | nil => intro s h; rw [buildAll_nil] at h; exact absurd h List.not_mem_nil
  | cons record records ih =>
    intro s h
    rcases hb : ExceptT.run (build record) s with ⟨e | made, t⟩
    · rw [buildAll_cons_of_error hb] at h
      exact absurd h List.not_mem_nil
    · rw [buildAll_cons_of_ok hb] at h
      rcases List.mem_cons.mp h with rfl | h
      · exact ⟨record, List.mem_cons_self, s, t, hb⟩
      · obtain ⟨record', hmem, hrun⟩ := ih h
        exact ⟨record', List.mem_cons_of_mem _ hmem, hrun⟩

/-- The objects of an expansion come from the records of the instance, and there is a builder that
makes them. -/
theorem exists_run_of_mem_expansion {builder : Builder Obj} {inst : Instance Obj} {s : Stream}
    {object : Obj} (h : object ∈ (inst.expansion builder s).1.1) :
    ∃ build records v, builder = some build ∧
      ExceptT.run inst.expandRecords s = (.ok records, v) ∧
        ∃ record ∈ records, ∃ t u, ExceptT.run (build record) t = (.ok object, u) := by
  cases hp : inst.placement with
  | collecting =>
    rw [expansion_collecting builder hp] at h
    exact absurd h List.not_mem_nil
  | complete =>
    rcases hr : ExceptT.run inst.expandRecords s with ⟨e | records, t⟩
    · rw [expansion_of_error builder hp hr] at h
      exact absurd h List.not_mem_nil
    · cases builder with
      | none =>
        rw [expansion_of_none hp hr] at h
        exact absurd h List.not_mem_nil
      | some build =>
        rw [expansion_of_some hp hr] at h
        exact ⟨build, records, t, rfl, rfl, exists_run_of_mem_buildAll h⟩

end Module.Instance

/-! ### Making objects -/

/-- An error that a record has by itself, whatever modules there are and however deep it stands. -/
inductive SceneError.IsOfRecord : SceneError → Prop
  /-- No objects have its type. -/
  | unknownType (tag : String) : IsOfRecord (.unknownType tag)
  /-- It has no type. -/
  | missingTag (record : Json) : IsOfRecord (Registry.missingTag record)
  /-- It lacks a field, or a field has a wrong value. -/
  | fields (kind : SceneObject.Kind) (cause : Record.Cause) :
    IsOfRecord (SceneError.ofRecord kind.tag cause)

namespace Registry

/-- What becomes of a record that has nothing to do with modules. -/
structure IsPlainResult (r : Except SceneError SceneObject) : Prop where
  /-- An object is no instance. -/
  instance_eq_none : ∀ object, r = .ok object → object.instance? = none
  /-- An error is that of the record itself. -/
  isOfRecord : ∀ e, r = .error e → e.IsOfRecord

theorem IsPlainResult.of_error {e : SceneError} (h : e.IsOfRecord) : IsPlainResult (.error e) where
  instance_eq_none := fun _ ho => by cases ho
  isOfRecord := fun _ he => by cases he; exact h

/-- The result of reading a plain object. -/
theorem IsPlainResult.map {α : Type} (kind : SceneObject.Kind) (x : Except Record.Cause α)
    {f : α → SceneObject} (hf : ∀ a, (f a).instance? = none) :
    IsPlainResult ((x.mapError (SceneError.ofRecord kind.tag)).map f) := by
  cases x with
  | error cause => exact .of_error (.fields kind cause)
  | ok a =>
    refine ⟨fun object ho => ?_, fun e he => by cases he⟩
    cases ho
    exact hf a

/-- The instance of fields that were read: it is expanded if the library knows its module. -/
def ofReadFields (library : Library) (builder : Module.Builder SceneObject)
    (fields : Instance.Fields) (s : Stream) : Except SceneError SceneObject × Stream :=
  match (Instance.ofFields library fields : Except SceneError (Instance SceneObject)) with
  | .error e => (.error e, s)
  | .ok core => (.ok (.module (core.refresh builder s).1), (core.refresh builder s).2)

theorem run_make_module {record : Json} {fields : Instance.Fields}
    (hf : Instance.Fields.decode record = .ok fields) (library : Library)
    (builder : Module.Builder SceneObject) (s : Stream) :
    ExceptT.run (make library builder record .module) s =
      ofReadFields library builder fields s := by
  unfold make ofReadFields
  rw [run_bind, Instance.run_ofRecord hf]
  rcases (Instance.ofFields library fields : Except SceneError (Instance SceneObject)) with e | core
  · rfl
  · rfl

/-- **A record either has nothing to do with modules or is that of an instance.**  In the first case
the modules, the depth and the random stream do not matter; in the second one they matter only
through the definition that the library has for its module. -/
theorem run_instantiateWith_cases (registry : Registry) (record : Json) :
    (∃ r, IsPlainResult r ∧ ∀ library builder s,
      ExceptT.run (registry.instantiateWith library builder record) s = (r, s)) ∨
    ∃ fields, ∀ library builder s,
      ExceptT.run (registry.instantiateWith library builder record) s =
        ofReadFields library builder fields s := by
  unfold instantiateWith createWith Of.createBy
  split
  · next tag htag =>
    split
    · next kind hkind =>
      cases kind with
      | mirror =>
        have hplain :=
          IsPlainResult.map .mirror (Mirror.ofRecord record) (f := .mirror) fun _ => rfl
        exact .inl ⟨_, hplain, fun _ _ _ => by unfold make; cases Mirror.ofRecord record <;> rfl⟩
      | blocker =>
        have hplain :=
          IsPlainResult.map .blocker (Blocker.ofRecord record) (f := .blocker) fun _ => rfl
        exact .inl ⟨_, hplain, fun _ _ _ => by unfold make; cases Blocker.ofRecord record <;> rfl⟩
      | label =>
        have hplain :=
          IsPlainResult.map .label (Label.ofRecord record) (f := .label) fun _ => rfl
        exact .inl ⟨_, hplain, fun _ _ _ => by unfold make; cases Label.ofRecord record <;> rfl⟩
      | module =>
        -- the fields are read before the library is asked for the module
        rcases hf : Instance.Fields.decode record with cause | fields
        · refine .inl ⟨_, .of_error (.fields .module cause), fun library builder s => ?_⟩
          unfold make Instance.ofRecord
          rw [hf]
          rfl
        · exact .inr ⟨fields, run_make_module hf⟩
    · exact .inl ⟨_, .of_error (.unknownType tag), fun _ _ _ => rfl⟩
  · exact .inl ⟨_, .of_error (.missingTag record), fun _ _ _ => rfl⟩

/-- `Makes library levels inst` says that the instance comes from a record: it is read with the
modules of the library, and expanded with `levels` levels left below it. -/
def Makes (registry : Registry) (library : Library) (levels : Nat) (inst : Instance SceneObject) :
    Prop :=
  ∃ (fields : Instance.Fields) (core : Instance SceneObject) (s : Stream),
    Instance.ofFields library fields = .ok core ∧
      inst = (core.refresh (registry.builder library levels) s).1

variable {registry : Registry} {library : Library}

theorem makes_of_run_eq_ok {levels : Nat} {record : Json} {inst : Instance SceneObject}
    {s t : Stream}
    (h : ExceptT.run (registry.instantiate library levels record) s = (.ok (.module inst), t)) :
    registry.Makes library levels inst := by
  rcases run_instantiateWith_cases registry record with ⟨r, hr, hrun⟩ | ⟨fields, hrun⟩
  · have hmodule : r = .ok (.module inst) := congrArg Prod.fst ((hrun _ _ s).symm.trans h)
    exact absurd (hr.instance_eq_none _ hmodule) (by simp [SceneObject.instance?])
  · have hread := (hrun library (registry.builder library levels) s).symm.trans h
    unfold ofReadFields at hread
    split at hread
    · cases hread
    · next core hcore =>
      cases hread
      exact ⟨fields, core, s, hcore, rfl⟩

/-- The instances directly inside an expanded instance have one level less below them. -/
theorem makes_of_mem_refresh {levels : Nat} {inst outer : Instance SceneObject} {s : Stream}
    (h : .module inst ∈ (outer.refresh (registry.builder library levels) s).1.objects) :
    ∃ rest, levels = rest + 1 ∧ registry.Makes library rest inst := by
  rw [Instance.objects_refresh] at h
  obtain ⟨build, -, -, hbuild, -, record, -, t, u, hrun⟩ :=
    Instance.exists_run_of_mem_expansion h
  cases levels with
  | zero => cases hbuild
  | succ rest =>
    cases hbuild
    exact ⟨rest, rfl, makes_of_run_eq_ok hrun⟩

/-- **Every instance inside an expanded instance comes from a record**, with one level less below it
for each instance around it. -/
theorem makes_of_occurs {inst : Instance SceneObject} {depth : Nat} :
    ∀ {levels : Nat} {outer : Instance SceneObject} {s : Stream},
      SceneObject.Occurs inst depth (outer.refresh (registry.builder library levels) s).1.objects →
        ∃ rest, levels = rest + depth + 1 ∧ registry.Makes library rest inst := by
  induction depth with
  | zero =>
    intro levels outer s h
    exact makes_of_mem_refresh (SceneObject.occurs_zero_iff.mp h)
  | succ depth ih =>
    intro levels outer s h
    -- the way inside goes through one instance that has itself just been expanded
    obtain ⟨middle, hm, hi⟩ := SceneObject.occurs_succ_iff.mp h
    obtain ⟨rest, rfl, fields, core, t, hcore, rfl⟩ := makes_of_mem_refresh hm
    obtain ⟨below, rfl, hmade⟩ := ih hi
    exact ⟨below, by omega, hmade⟩

end Registry

end OpticScene
