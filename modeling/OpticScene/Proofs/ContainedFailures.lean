import OpticScene.Proofs.NestedExpansion
import OpticScene.Proofs.RefusedOperations

/-!
# Failures inside an instance

What an instance expands to is made from its records one after the other.  The first record that is
refused ends this: the objects made so far stay, the error is kept with the instance, and the
records behind it are not looked at.  A record of another instance is refused only if it cannot be
read.  Once it can, whatever goes wrong inside is kept with that instance, and the one around it
goes on with its next record.

## Main definitions

* `Instance.GetsTo` — how far some records get: all of them become objects, or those before the
  first that is refused.
* `Registry.Describes` — a record is that of an instance.

## Main results

* `Instance.getsTo_iff` — **records get as far as they are built.**
* `Registry.run_instantiate_of_describes` — **the record of an instance becomes an object, whatever
  goes wrong inside.**
* `Registry.failure_keeps_prefix` — what both mean for the expansion of an instance.
-/

namespace OpticScene

open OpticScene.Random (Draws Stream)
open OpticScene.Module (Instance Library)

namespace Module.Instance

variable {Obj : Type} {build : Json → Draws SceneError Obj}

/-! ### How far records get -/

/-- `GetsTo build records s ((objects, e), t)` says how far the records get from a place of the
random stream: what they become, the error that ends them if one does, and the place at which this
leaves the stream. -/
inductive GetsTo (build : Json → Draws SceneError Obj) (records : List Json) (s : Stream) :
    (List Obj × Option SceneError) × Stream → Prop
  /-- All records become objects. -/
  | all {objects : List Obj} {t : Stream} :
    ExceptT.run (records.mapM build) s = (.ok objects, t) →
      GetsTo build records s ((objects, none), t)
  /-- A record is refused, and all records before it become objects. -/
  | upTo {before after : List Json} {record : Json} {objects : List Obj} {t : Stream}
    {e : SceneError} : records = before ++ record :: after →
      ExceptT.run (before.mapM build) s = (.ok objects, t) →
        ExceptT.run (build record) t = (.error e, t) →
          GetsTo build records s ((objects, some e), t)

/-- Once some records have become objects, the others go on from there. -/
theorem buildAll_append {before : List Json} (after : List Json) :
    ∀ {objects : List Obj} {s t : Stream},
      ExceptT.run (before.mapM build) s = (.ok objects, t) →
        buildAll build (before ++ after) s =
          ((objects ++ (buildAll build after t).1.1, (buildAll build after t).1.2),
            (buildAll build after t).2) := by
  induction before with
  | nil =>
    intro objects s t h
    cases h
    rfl
  | cons record before ih =>
    intro objects s t h
    rw [List.mapM_cons] at h
    obtain ⟨object, u, hobject, h⟩ := run_bind_eq_ok.mp h
    obtain ⟨rest, v, hrest, h⟩ := run_bind_eq_ok.mp h
    cases h
    rw [List.cons_append, buildAll_cons_of_ok hobject, ih hrest]
    rfl

theorem GetsTo.buildAll_eq {records : List Json} {s : Stream}
    {filling : (List Obj × Option SceneError) × Stream} (h : GetsTo build records s filling) :
    buildAll build records s = filling := by
  cases h with
  | all hall =>
    have hend := buildAll_append [] hall
    rwa [List.append_nil, buildAll_nil, List.append_nil] at hend
  | upTo hsplit hbefore hrecord =>
    rw [hsplit, buildAll_append _ hbefore, buildAll_cons_of_error hrecord, List.append_nil]

/-- Records get to their end, or to the first that is refused. -/
theorem exists_getsTo (hearly : ∀ record, FailsEarly (build record)) (records : List Json)
    (s : Stream) : ∃ filling, GetsTo build records s filling := by
  rcases hall : ExceptT.run (records.mapM build) s with ⟨e | objects, t⟩
  · obtain ⟨before, record, after, objects, u, hsplit, hbefore, hrecord⟩ :=
      run_mapM_eq_error.mp hall
    -- a record that is refused leaves the stream where the records before it left it
    obtain rfl : t = u := hearly record u e t hrecord
    exact ⟨_, .upTo hsplit hbefore hrecord⟩
  · exact ⟨_, .all hall⟩

/-- **Records get as far as they are built.** -/
theorem getsTo_iff (hearly : ∀ record, FailsEarly (build record)) {records : List Json} {s : Stream}
    {filling : (List Obj × Option SceneError) × Stream} :
    GetsTo build records s filling ↔ buildAll build records s = filling := by
  refine ⟨GetsTo.buildAll_eq, ?_⟩
  rintro rfl
  obtain ⟨filling, h⟩ := exists_getsTo hearly records s
  rwa [h.buildAll_eq]

/-- Of records that all become objects, each one becomes the object at its own place, made from
where the records before it leave the stream. -/
theorem exists_of_run_mapM {records : List Json} :
    ∀ {objects : List Obj} {s t : Stream} {i : Nat} {record : Json},
      ExceptT.run (records.mapM build) s = (.ok objects, t) → records[i]? = some record →
        ∃ object u v, objects[i]? = some object ∧
          ExceptT.run ((records.take i).mapM build) s = (.ok (objects.take i), u) ∧
            ExceptT.run (build record) u = (.ok object, v) := by
  induction records with
  | nil =>
    intro objects s t i record _ hi
    cases hi
  | cons head records ih =>
    intro objects s t i record h hi
    rw [List.mapM_cons] at h
    obtain ⟨object, u, hobject, h⟩ := run_bind_eq_ok.mp h
    obtain ⟨rest, v, hrest, h⟩ := run_bind_eq_ok.mp h
    cases h
    cases i with
    | zero =>
      cases hi
      exact ⟨object, s, u, rfl, rfl, hobject⟩
    | succ i =>
      obtain ⟨found, w, x, hfound, hbefore, hmade⟩ := ih hrest hi
      refine ⟨found, w, x, hfound, ?_, hmade⟩
      rw [List.take_succ_cons, List.mapM_cons, run_bind_of_ok hobject, run_bind_of_ok hbefore]
      rfl

end Module.Instance

namespace Registry

variable {registry : Registry} {library : Library}

/-! ### Records of instances -/

/-- The record is that of an instance: its type stands for instances, its module is known, and its
fields fit the module. -/
structure Describes (registry : Registry) (library : Library) (record : Json)
    (core : Instance SceneObject) : Prop where
  /-- The type stands for instances. -/
  type : ∃ tag, tagOf? record = some tag ∧ registry.find? tag = some .module
  /-- The instance before it is expanded. -/
  read : readInstance library record = .ok core

/-- **The record of an instance becomes an object, whatever goes wrong inside**: what does is kept
with the instance. -/
theorem run_instantiate_of_describes {record : Json} {core : Instance SceneObject}
    (h : registry.Describes library record core) (levels : Nat) (s : Stream) :
    ExceptT.run (registry.instantiate library levels record) s =
      (.ok (.module (core.refresh (registry.builder library levels) s).1),
        (core.refresh (registry.builder library levels) s).2) := by
  obtain ⟨tag, htag, hkind⟩ := h.type
  rw [instantiate_of_tag htag hkind, run_make_instance, h.read, Instance.refresh_eq]

/-! ### Expansions -/

/-- The objects of all records, one after the other. -/
def instantiateAll (registry : Registry) (library : Library) (levels : Nat) (records : List Json) :
    Draws SceneError (List SceneObject) :=
  records.mapM (registry.instantiate library levels)

/-- How far records get of which the registry makes objects, with `levels` levels below them. -/
def GetsTo (registry : Registry) (library : Library) (levels : Nat) (records : List Json)
    (s : Stream) (filling : Filling) : Prop :=
  Instance.GetsTo (registry.instantiate library levels) records s filling

theorem getsTo_iff {levels : Nat} {records : List Json} {s : Stream} {filling : Filling} :
    registry.GetsTo library levels records s filling ↔
      Instance.buildAll (registry.instantiate library levels) records s = filling :=
  Instance.getsTo_iff fun record => failsEarly_instantiateWith library _ registry record

theorem exists_getsTo {levels : Nat} (records : List Json) (s : Stream) :
    ∃ filling, registry.GetsTo library levels records s filling :=
  Instance.exists_getsTo (fun record => failsEarly_instantiateWith library _ registry record)
    records s

/-- The record of an instance does not end the expansion around it. -/
theorem getsTo_of_describes {levels : Nat} {before after : List Json} {record : Json}
    {core : Instance SceneObject} {objects more : List SceneObject} {e : Option SceneError}
    {s t u : Stream}
    (hbefore : ExceptT.run (registry.instantiateAll library levels before) s = (.ok objects, t))
    (h : registry.Describes library record core)
    (hafter : registry.GetsTo library levels after
      (core.refresh (registry.builder library levels) t).2 ((more, e), u)) :
    registry.GetsTo library levels (before ++ record :: after) s
      ((objects ++ .module (core.refresh (registry.builder library levels) t).1 :: more, e),
        u) := by
  have hrecord := run_instantiate_of_describes h levels t
  rw [getsTo_iff, Instance.buildAll_append _ hbefore, Instance.buildAll_cons_of_ok hrecord,
    hafter.buildAll_eq]

/-- A complete instance is filled with what its records get to. -/
theorem refresh_eq_iff_getsTo {levels : Nat} {inst : Instance SceneObject}
    (hp : inst.placement = .complete) {s t : Stream} {records : List Json}
    (hr : ExceptT.run inst.expandRecords s = (.ok records, t))
    (found : List SceneObject × Option SceneError) (u : Stream) :
    inst.refresh (registry.builder library (levels + 1)) s = (inst.withObjects found, u) ↔
      registry.GetsTo library levels records t (found, u) := by
  have hbuilt : inst.expansion (registry.builder library (levels + 1)) s =
      Instance.buildAll (registry.instantiate library levels) records t :=
    Instance.expansion_of_some hp hr
  rw [getsTo_iff, Instance.refresh_eq, hbuilt]
  constructor
  · intro h
    obtain ⟨hinst, hstream⟩ := Prod.mk.inj h
    have hobjects := congrArg Instance.objects hinst
    have herror := congrArg Instance.lastError hinst
    exact Prod.ext (Prod.ext hobjects herror) hstream
  · intro h
    rw [h]

/-- **A failure inside an instance keeps what came before it.**  A complete instance whose
definition expands to records is filled with what these records get to, and nothing that it held
before is left or matters.  If no record is refused, each of them gives the object at its place; if
one is, the objects and the stream are those of the records before it.  The record of an instance is
never the one that is refused for what goes wrong inside: it gives an instance with its own error,
and the records behind it go on. -/
theorem failure_keeps_prefix (registry : Registry) (library : Library) (levels : Nat)
    {inst : Instance SceneObject} (hp : inst.placement = .complete) {s t : Stream}
    {records : List Json} (hr : ExceptT.run inst.expandRecords s = (.ok records, t)) :
    (∃ filling, registry.GetsTo library levels records t filling) ∧
    (∀ found u, inst.refresh (registry.builder library (levels + 1)) s =
        (inst.withObjects found, u) ↔ registry.GetsTo library levels records t (found, u)) ∧
    (∀ held, (inst.withObjects held).refresh (registry.builder library (levels + 1)) s =
      inst.refresh (registry.builder library (levels + 1)) s) ∧
    (∀ objects u, registry.GetsTo library levels records t ((objects, none), u) →
      objects.length = records.length ∧
        ∀ i record, records[i]? = some record → ∃ object v w, objects[i]? = some object ∧
          ExceptT.run (registry.instantiateAll library levels (records.take i)) t =
            (.ok (objects.take i), v) ∧
          ExceptT.run (registry.instantiate library levels record) v = (.ok object, w)) ∧
    ∀ before record after objects u core, records = before ++ record :: after →
      ExceptT.run (registry.instantiateAll library levels before) t = (.ok objects, u) →
        registry.Describes library record core →
          ∀ nested v, core.refresh (registry.builder library levels) u = (nested, v) →
            ∃ more e w, registry.GetsTo library levels after v ((more, e), w) ∧
              registry.GetsTo library levels records t
                ((objects ++ .module nested :: more, e), w) := by
  refine ⟨exists_getsTo records t, refresh_eq_iff_getsTo hp hr,
    fun held => Instance.refresh_withObjects .., ?_, ?_⟩
  · intro objects u h
    cases h with
    | all hall =>
      exact ⟨length_of_run_mapM hall, fun i record => Instance.exists_of_run_mapM hall⟩
  · rintro before record after objects u core rfl hbefore hdescribes nested v hnested
    obtain ⟨rfl, rfl⟩ := Prod.mk.inj hnested
    obtain ⟨⟨⟨more, e⟩, w⟩, hafter⟩ := exists_getsTo after _
    exact ⟨more, e, w, hafter, getsTo_of_describes hbefore hdescribes hafter⟩

/-- A run that adds an instance with four records: one of an instance in which a label fails, one of
a label that is put somewhere by chance, one without a known type, and another label. -/
def mishaps : List Scene.Operation :=
  [.define "inner"
      (.object
        [("objs",
          .array
            [.object
              [("type", .string "TextLabel"), ("x", .string "\x60nope\x60"), ("y", .ofInt 0)]])]),
    .define "outer"
      (.object
        [("objs",
          .array
            [.object [("type", .string "ModuleObj"), ("module", .string "inner")],
              .object
                [("type", .string "TextLabel"), ("x", .string "\x60random()\x60"),
                  ("y", .ofInt 0)],
              .object [("type", .string "Prism")],
              .object [("type", .string "TextLabel"), ("x", .ofInt 1), ("y", .ofInt 0)]])]),
    .add (.object [("type", .string "ModuleObj"), ("module", .string "outer")])]

/-- The record without a known type ends the expansion, and the instance before it keeps its own
error. -/
theorem failure_keeps_prefix_of_mishaps :
    let s := Scene.empty.after mishaps
    ∃ (inst : Instance SceneObject) (records : List Json) (objects : List SceneObject)
      (e : Option SceneError) (t u : Stream),
      .module inst ∈ s.objects ∧ inst.placement = .complete ∧
      ExceptT.run inst.expandRecords default = (.ok records, t) ∧ records.length = 4 ∧
        inst.refresh (standard.builder s.library Module.maxDepth) default =
          (inst.withObjects (objects, e), u) ∧
        standard.GetsTo s.library 15 records t ((objects, e), u) ∧
        objects.map SceneObject.tag = ["ModuleObj", "TextLabel"] ∧
          e = some (.unknownType "Prism") ∧
            ∃ nested, .module nested ∈ objects ∧ nested.lastError ≠ none := by
  intro s
  have hchecks : (s.objects[0]?.any fun object => object.instance?.any fun inst =>
      decide (inst.placement = .complete) &&
        (ExceptT.run inst.expandRecords default).1.toOption.any (fun records =>
          decide (records.length = 4) &&
            let made := (inst.refresh (standard.builder s.library Module.maxDepth) default).1
            decide (made.objects.map SceneObject.tag = ["ModuleObj", "TextLabel"] ∧
                made.lastError = some (.unknownType "Prism")) &&
              made.objects[0]?.any fun o => o.instance?.any fun nested =>
                nested.lastError.isSome)) = true := by
    decide +kernel
  obtain ⟨object, hobject, hchecks⟩ := (Option.any_eq_true _ _).mp hchecks
  obtain ⟨inst, hinst, hchecks⟩ := (Option.any_eq_true _ _).mp hchecks
  obtain ⟨hcomplete, hchecks⟩ := Bool.and_eq_true_iff.mp hchecks
  obtain ⟨records, hrecords, hchecks⟩ := exists_run_of_any hchecks
  obtain ⟨hlength, hchecks⟩ := Bool.and_eq_true_iff.mp hchecks
  obtain ⟨hmade, hnested⟩ := Bool.and_eq_true_iff.mp hchecks
  obtain ⟨htags, herror⟩ := of_decide_eq_true hmade
  obtain ⟨first, hfirst, hnested⟩ := (Option.any_eq_true _ _).mp hnested
  obtain ⟨nested, hmodule, hfailed⟩ := (Option.any_eq_true _ _).mp hnested
  have hp : inst.placement = .complete := of_decide_eq_true hcomplete
  obtain ⟨⟨⟨⟨objects, e⟩, u⟩, hgets⟩, hiff, -⟩ :=
    failure_keeps_prefix standard s.library 15 hp hrecords
  have hrefresh := (hiff _ _).mpr hgets
  have hbuilder : Module.maxDepth = 15 + 1 := rfl
  rw [hbuilder, hrefresh] at htags herror hfirst
  obtain rfl := SceneObject.instance?_eq_some_iff.mp hinst
  obtain rfl := SceneObject.instance?_eq_some_iff.mp hmodule
  exact ⟨inst, records, objects, e, _, u, List.mem_of_getElem? hobject, hp, hrecords,
    of_decide_eq_true hlength, hrefresh, hgets, htags, herror, nested,
    List.mem_of_getElem? hfirst, Option.isSome_iff_ne_none.mp hfailed⟩

end Registry

end OpticScene
