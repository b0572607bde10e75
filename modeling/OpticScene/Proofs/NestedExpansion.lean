import OpticScene.Proofs.PlacementProtocol
import OpticScene.Proofs.UnboundedLoops

/-!
# Nested expansions end

A module may contain instances of any module, also of itself.  What is made of a record follows the
names of modules through the library, and neither the records nor the modules get any smaller on
the way.  What ends it is the depth: objects inside an instance are made one level deeper, and none
are made inside an instance at the largest depth.

The rules below say how a record becomes an object, with the depth counted from the top and without
a measure.  An instance expands to its records with all values of all ranges, so that a loop over a
range without an end has no outcome.  To say that the instantiation ends is to say that it can be
derived from these rules.  It does where each module limits its loops to fewer steps than can be
counted; whether it does or not, it gets no deeper than the limit.

## Main definitions

* `Registry.Instantiates`, `Registry.Fills`, `Registry.Builds` — the rules for a record, for the
  objects of an instance, and for some records.
* `Library.LimitsLoops` — every module limits its loops to fewer steps than can be counted.
* `SceneObject.Nested` — a chain of instances, each inside the one before it.
* `SceneObject.heightAll` — the length of the longest chain.

## Main results

* `Registry.exists_instantiates` — **every instantiation ends**, at every depth, where the loops are
  limited.
* `Registry.instantiates_iff` — it ends with what the registry gives.
* `Registry.not_instantiates_endless` — without the limit, one may go on forever.
* `Registry.Instantiates.fills_of_occurs` — what stands inside an object was filled at its depth.
* `SceneObject.Nested.exists_occurs` — chains are as long as instances stand deep.
* `Scene.nested_expansion_ends` — the bound for all records and all scenes.
-/

namespace OpticScene

open OpticScene.Random (Draws Stream)
open OpticScene.Module (Definition Instance Library)

/-! ### Rules -/

/-- Every module limits its loops to fewer steps than can be counted. -/
def Module.Library.LimitsLoops (library : Library) : Prop :=
  library.All fun d => d.maxLoop < Range.maxCount

namespace Registry

/-- The instance that a record describes, before it is expanded. -/
def readInstance (library : Library) (record : Json) :
    Except SceneError (Instance SceneObject) := do
  let fields ← (Instance.Fields.decode record).mapError (SceneError.ofRecord Instance.tag)
  Instance.ofFields library fields

/-- The tag of a record. -/
def tagOf? (record : Json) : Option String := (record.field? Record.typeKey).bind Json.toString?

/-- What becomes of a record: an object or an error, and the place that the stream is left at. -/
abbrev Outcome := Except SceneError SceneObject × Stream

/-- What an instance is filled with: objects, the error that ended them, and the place that the
stream is left at. -/
abbrev Filling := (List SceneObject × Option SceneError) × Stream

mutual

/-- `Instantiates library depth record s outcome` says that the instantiation of the record at a
depth, from a place of the random stream, ends with the outcome. -/
inductive Instantiates (registry : Registry) (library : Library) :
    (depth : Nat) → Json → Stream → Outcome → Prop
  /-- The record has no tag. -/
  | untagged {depth : Nat} {record : Json} {s : Stream} : tagOf? record = none →
    Instantiates registry library depth record s (.error (missingTag record), s)
  /-- Nothing is registered for the tag. -/
  | unknown {depth : Nat} {record : Json} {s : Stream} {tag : String} :
    tagOf? record = some tag → registry.find? tag = none →
      Instantiates registry library depth record s (.error (.unknownType tag), s)
  /-- The tag is that of plain objects. -/
  | plain {depth : Nat} {record : Json} {s : Stream} {tag : String} {kind : SceneObject.Kind} :
    tagOf? record = some tag → registry.find? tag = some kind → kind ≠ .module →
      Instantiates registry library depth record s
        (ExceptT.run (make library none record kind) s)
  /-- The record is no instance of a module. -/
  | refused {depth : Nat} {record : Json} {s : Stream} {tag : String} {e : SceneError} :
    tagOf? record = some tag → registry.find? tag = some .module →
      readInstance library record = .error e →
        Instantiates registry library depth record s (.error e, s)
  /-- The record is an instance of a module, and it is filled. -/
  | instance {depth : Nat} {record : Json} {s t : Stream} {tag : String}
    {core : Instance SceneObject} {found : List SceneObject × Option SceneError} :
    tagOf? record = some tag → registry.find? tag = some .module →
      readInstance library record = .ok core → Fills registry library depth core s (found, t) →
        Instantiates registry library depth record s (.ok (.module (core.withObjects found)), t)

/-- `Fills library depth inst s filling` says that the expansion of the instance at a depth, from a
place of the random stream, ends with the filling. -/
inductive Fills (registry : Registry) (library : Library) :
    (depth : Nat) → Instance SceneObject → Stream → Filling → Prop
  /-- Control points are missing. -/
  | collecting {depth : Nat} {inst : Instance SceneObject} {s : Stream} :
    inst.placement = .collecting → Fills registry library depth inst s (([], none), s)
  /-- The definition does not expand to records. -/
  | failed {depth : Nat} {inst : Instance SceneObject} {s t : Stream} {e : ExpansionError} :
    inst.placement = .complete → inst.allRecords.EndsWith s (.error e, t) →
      Fills registry library depth inst s (([], some (.expansion e)), t)
  /-- The instance stands at the largest depth. -/
  | tooDeep {depth : Nat} {inst : Instance SceneObject} {s t : Stream} {records : List Json} :
    inst.placement = .complete → inst.allRecords.EndsWith s (.ok records, t) →
      Module.maxDepth ≤ depth →
        Fills registry library depth inst s (([], some (.nestingTooDeep Module.maxDepth)), t)
  /-- The objects are made one level deeper. -/
  | inside {depth : Nat} {inst : Instance SceneObject} {s t : Stream} {records : List Json}
    {filling : Filling} : inst.placement = .complete →
      inst.allRecords.EndsWith s (.ok records, t) → depth < Module.maxDepth →
        Builds registry library (depth + 1) records t filling →
          Fills registry library depth inst s filling

/-- `Builds library depth records s filling` says that the instantiation of the records one after
the other, up to the first that fails, ends with the filling. -/
inductive Builds (registry : Registry) (library : Library) :
    (depth : Nat) → List Json → Stream → Filling → Prop
  /-- There are no more records. -/
  | nil {depth : Nat} {s : Stream} : Builds registry library depth [] s (([], none), s)
  /-- A record fails. -/
  | failed {depth : Nat} {record : Json} {records : List Json} {s t : Stream} {e : SceneError} :
    Instantiates registry library depth record s (.error e, t) →
      Builds registry library depth (record :: records) s (([], some e), t)
  /-- A record becomes an object, and the others follow. -/
  | cons {depth : Nat} {record : Json} {records : List Json} {s t u : Stream}
    {object : SceneObject} {objects : List SceneObject} {e : Option SceneError} :
    Instantiates registry library depth record s (.ok object, t) →
      Builds registry library depth records t ((objects, e), u) →
        Builds registry library depth (record :: records) s ((object :: objects, e), u)

end

variable {registry : Registry} {library : Library}

/-! ### Every instantiation ends -/

/-- Some records come to their end if each record does. -/
theorem exists_builds {depth : Nat}
    (h : ∀ record s, ∃ outcome, Instantiates registry library depth record s outcome) :
    ∀ records s, ∃ filling, Builds registry library depth records s filling
  | [], s => ⟨_, .nil⟩
  | record :: records, s => by
    obtain ⟨⟨e | object, t⟩, hrecord⟩ := h record s
    · exact ⟨_, .failed hrecord⟩
    · obtain ⟨⟨⟨objects, e⟩, u⟩, hrest⟩ := exists_builds h records t
      exact ⟨_, .cons hrecord hrest⟩

/-- An instance with limited loops comes to its end if the records one level deeper do. -/
theorem exists_fills {depth : Nat}
    (h : depth < Module.maxDepth →
      ∀ record s, ∃ outcome, Instantiates registry library (depth + 1) record s outcome)
    {inst : Instance SceneObject} (hlimit : inst.definition.maxLoop < Range.maxCount)
    (s : Stream) : ∃ filling, Fills registry library depth inst s filling := by
  cases hp : inst.placement with
  | collecting => exact ⟨_, .collecting hp⟩
  | complete =>
    have hends := (Instance.endsWith_allRecords (s := s) hlimit).mpr rfl
    rcases hr : ExceptT.run inst.expandRecords s with ⟨e | records, t⟩ <;> rw [hr] at hends
    · exact ⟨_, .failed hp hends⟩
    · rcases Nat.lt_or_ge depth Module.maxDepth with hlt | hge
      · obtain ⟨filling, hfilling⟩ := exists_builds (h hlt) records t
        exact ⟨filling, .inside hp hends hlt hfilling⟩
      · exact ⟨_, .tooDeep hp hends hge⟩

/-- What all modules have, an instance that is read has from its definition. -/
theorem definition_of_readInstance {P : Definition → Prop} (hall : library.All P) {record : Json}
    {core : Instance SceneObject} (h : readInstance library record = .ok core) :
    P core.definition := by
  obtain ⟨fields, -, hcore⟩ := bind_eq_ok.mp h
  exact hall _ _ (Instance.find?_of_ofFields hcore)

/-- A record comes to its end if the instances at its depth do. -/
theorem exists_instantiates_of_fills (hlimits : library.LimitsLoops) {depth : Nat}
    (h : ∀ inst : Instance SceneObject, inst.definition.maxLoop < Range.maxCount →
      ∀ s, ∃ filling, Fills registry library depth inst s filling) (record : Json)
    (s : Stream) : ∃ outcome, Instantiates registry library depth record s outcome := by
  rcases htag : tagOf? record with _ | tag
  · exact ⟨_, .untagged htag⟩
  rcases hkind : registry.find? tag with _ | kind
  · exact ⟨_, .unknown htag hkind⟩
  by_cases hmodule : kind = .module
  · subst hmodule
    rcases hcore : readInstance library record with e | core
    · exact ⟨_, .refused htag hkind hcore⟩
    · obtain ⟨⟨found, t⟩, hfilling⟩ := h core (definition_of_readInstance hlimits hcore) s
      exact ⟨_, .instance htag hkind hcore hfilling⟩
  · exact ⟨_, .plain htag hkind hmodule⟩

/-- **Every instantiation ends** where the loops are limited, whatever the modules are and however
they contain each other. -/
theorem exists_instantiates (hlimits : library.LimitsLoops) (depth : Nat) (record : Json)
    (s : Stream) : ∃ outcome, Instantiates registry library depth record s outcome := by
  -- what is left to the largest depth gets smaller from one level to the next
  induction hn : Module.maxDepth - depth generalizing depth record s with
  | zero =>
    exact exists_instantiates_of_fills hlimits
      (fun inst => exists_fills fun hlt => by omega) record s
  | succ n ih =>
    refine exists_instantiates_of_fills hlimits
      (fun inst => exists_fills fun hlt record s => ?_) record s
    exact ih (depth + 1) record s (by omega)

/-! ### What it ends with -/

theorem run_make_plain {kind : SceneObject.Kind} (h : kind ≠ .module)
    (builder : Module.Builder SceneObject) (record : Json) :
    make library builder record kind = make library none record kind := by
  cases kind with
  | module => exact absurd rfl h
  | _ => rfl

theorem run_make_instance (builder : Module.Builder SceneObject) (record : Json) (s : Stream) :
    ExceptT.run (make library builder record .module) s =
      match readInstance library record with
      | .error e => (.error e, s)
      | .ok core =>
        (.ok (.module (core.withObjects (core.expansion builder s).1)),
          (core.expansion builder s).2) := by
  unfold readInstance
  rcases hf : Instance.Fields.decode record with cause | fields
  · unfold make Instance.ofRecord
    rw [hf]
    rfl
  · rw [run_make_module hf, ofReadFields]
    change _ = match (Instance.ofFields library fields :
      Except SceneError (Instance SceneObject)) with
      | .error e => _
      | .ok core => _
    rcases (Instance.ofFields library fields : Except SceneError (Instance SceneObject)) with
      e | core
    · rfl
    · dsimp only
      rw [Instance.refresh_eq]

theorem instantiate_of_tag {record : Json} {tag : String} {kind : SceneObject.Kind}
    (htag : tagOf? record = some tag) (hkind : registry.find? tag = some kind) (levels : Nat) :
    registry.instantiate library levels record =
      make library (registry.builder library levels) record kind := by
  unfold tagOf? at htag
  unfold instantiate instantiateWith createWith Of.createBy
  rw [htag]
  dsimp only
  rw [hkind]

mutual

/-- **An instantiation ends with what the registry gives.** -/
theorem Instantiates.run_eq (hlimits : library.LimitsLoops) {depth : Nat} {record : Json}
    {s : Stream} {outcome : Outcome} :
    Instantiates registry library depth record s outcome →
      ExceptT.run (registry.instantiate library (Module.maxDepth - depth) record) s = outcome
  | .untagged htag => by
    unfold tagOf? at htag
    unfold instantiate instantiateWith
    rw [htag]
    rfl
  | .unknown htag hkind => by
    unfold tagOf? at htag
    unfold instantiate instantiateWith createWith Of.createBy
    rw [htag]
    dsimp only
    rw [hkind]
    rfl
  | .plain htag hkind hmodule => by rw [instantiate_of_tag htag hkind, run_make_plain hmodule]
  | .refused htag hkind hcore => by
    rw [instantiate_of_tag htag hkind, run_make_instance, hcore]
  | .instance htag hkind hcore hfills => by
    rw [instantiate_of_tag htag hkind, run_make_instance, hcore]
    dsimp only
    rw [hfills.expansion_eq hlimits (definition_of_readInstance hlimits hcore)]

/-- An expansion ends with what the registry fills the instance with. -/
theorem Fills.expansion_eq (hlimits : library.LimitsLoops) {depth : Nat}
    {inst : Instance SceneObject} (hlimit : inst.definition.maxLoop < Range.maxCount) {s : Stream}
    {filling : Filling} :
    Fills registry library depth inst s filling →
      inst.expansion (registry.builder library (Module.maxDepth - depth)) s = filling
  | .collecting hp => by rw [Instance.expansion_collecting _ hp]; rfl
  | .failed hp hr =>
    Instance.expansion_of_error _ hp ((Instance.endsWith_allRecords hlimit).mp hr)
  | .tooDeep hp hr hge => by
    rw [Nat.sub_eq_zero_of_le hge, builder,
      Instance.expansion_of_none hp ((Instance.endsWith_allRecords hlimit).mp hr)]
  | .inside hp hr hlt hbuilds => by
    have hlevels : Module.maxDepth - _ = Module.maxDepth - (_ + 1) + 1 :=
      (Nat.sub_add_cancel (Nat.sub_pos_of_lt hlt)).symm
    rw [hlevels, builder,
      Instance.expansion_of_some hp ((Instance.endsWith_allRecords hlimit).mp hr)]
    exact hbuilds.buildAll_eq hlimits

theorem Builds.buildAll_eq (hlimits : library.LimitsLoops) {depth : Nat} {records : List Json}
    {s : Stream} {filling : Filling} :
    Builds registry library depth records s filling →
      Instance.buildAll (registry.instantiate library (Module.maxDepth - depth)) records s =
        filling
  | .nil => Instance.buildAll_nil _ _
  | .failed hrecord => Instance.buildAll_cons_of_error (hrecord.run_eq hlimits) _
  | .cons hrecord hrest => by
    rw [Instance.buildAll_cons_of_ok (hrecord.run_eq hlimits), hrest.buildAll_eq hlimits]

end

/-- A record of a complete instance has an outcome only if the expansion to records has one. -/
theorem Instantiates.exists_endsWith {depth : Nat} {record : Json} {s : Stream}
    {outcome : Outcome} {tag : String} {core : Instance SceneObject}
    (h : Instantiates registry library depth record s outcome) (htag : tagOf? record = some tag)
    (hkind : registry.find? tag = some .module) (hcore : readInstance library record = .ok core)
    (hp : core.placement = .complete) : ∃ outcome, core.allRecords.EndsWith s outcome := by
  cases h with
  | untagged hnone => cases htag.symm.trans hnone
  | unknown htag' hnone =>
    cases htag.symm.trans htag'
    cases hkind.symm.trans hnone
  | plain htag' hkind' hmodule =>
    cases htag.symm.trans htag'
    cases hkind.symm.trans hkind'
    exact absurd rfl hmodule
  | refused _ _ herror => cases hcore.symm.trans herror
  | «instance» _ _ hcore' hfills =>
    cases hcore.symm.trans hcore'
    cases hfills with
    | collecting hc => cases hp.symm.trans hc
    | failed _ hr => exact ⟨_, hr⟩
    | tooDeep _ hr => exact ⟨_, hr⟩
    | inside _ hr => exact ⟨_, hr⟩

/-- A module whose loop has no end, and whose limit is the largest number of steps. -/
def endless : Definition :=
  ⟨0, [], none, [.loop Expansion.endless none []], Range.maxCount, [], .null⟩

/-- The record of an instance of that module. -/
def endlessRecord : Json := .object [("type", .string "ModuleObj"), ("module", .string "endless")]

/-- **Without the limit, an instantiation may go on forever.** -/
theorem not_instantiates_endless :
    ¬ ∃ outcome, standard.Instantiates ⟨[("endless", endless)]⟩ 0 endlessRecord (.ofSeed 0)
      outcome := by
  rintro ⟨outcome, h⟩
  let core : Instance SceneObject := ⟨"endless", endless, [], [], [], none, .complete⟩
  have hcore : readInstance ⟨[("endless", endless)]⟩ endlessRecord = .ok core := by rfl
  obtain ⟨outcome, hends⟩ := h.exists_endsWith (by rfl) (by rfl) hcore rfl
  obtain ⟨range, hread, hendless⟩ := Expansion.exists_read_endless
    (b := core.bindings.nested) (s := .ofSeed 0) (by decide +kernel) (by decide +kernel)
  have hrecords : core.allRecords =
      Expansion.Unbounded.expandItems Range.maxCount core.bindings.nested 0 endless.objs :=
    pure_bind _ _
  rw [hrecords] at hends
  exact Expansion.Unbounded.not_endsWith_expandItems_maxCount hread (List.mem_singleton_self range)
    hendless ⟨_, hends⟩

end Registry

/-! ### Chains -/

namespace SceneObject

/-- A chain of instances among objects: the first one is one of the objects, and each other one
stands directly inside the one before it. -/
inductive Nested : List (Instance SceneObject) → List SceneObject → Prop
  /-- The chain is empty. -/
  | nil {objects : List SceneObject} : Nested [] objects
  /-- The chain goes on inside one of the objects. -/
  | cons {inst : Instance SceneObject} {chain : List (Instance SceneObject)}
    {objects : List SceneObject} : .module inst ∈ objects → Nested chain inst.objects →
      Nested (inst :: chain) objects

/-- **The last instance of a chain stands as deep as the chain is long.** -/
theorem Nested.exists_occurs {chain : List (Instance SceneObject)} {n : Nat} :
    ∀ {objects : List SceneObject}, Nested chain objects → chain.length = n + 1 →
      ∃ inst, Occurs inst n objects := by
  induction chain generalizing n with
  | nil => intro _ _ hlength; cases hlength
  | cons outer chain ih =>
    intro objects h hlength
    cases h with
    | cons ho hrest =>
      cases n with
      | zero => exact ⟨outer, .top ho⟩
      | succ n =>
        obtain ⟨inst, hi⟩ := ih hrest (Nat.succ.inj hlength)
        exact ⟨inst, .inside ho hi⟩

theorem Nested.length_le_of_occurs {chain : List (Instance SceneObject)}
    {objects : List SceneObject} (h : Nested chain objects) {limit : Nat}
    (hdepth : ∀ inst depth, Occurs inst depth objects → depth + 1 ≤ limit) :
    chain.length ≤ limit := by
  cases hlength : chain.length with
  | zero => exact Nat.zero_le limit
  | succ n =>
    obtain ⟨inst, hi⟩ := h.exists_occurs hlength
    exact hdepth inst n hi

theorem Nested.mono {chain : List (Instance SceneObject)} {objects objects' : List SceneObject}
    (h : Nested chain objects) (hsubset : objects ⊆ objects') : Nested chain objects' := by
  cases h with
  | nil => exact .nil
  | cons hi hrest => exact .cons (hsubset hi) hrest

mutual

/-- The length of the longest chain of instances that starts with an object. -/
def height : SceneObject → Nat
  | .mirror _ => 0
  | .blocker _ => 0
  | .label _ => 0
  | .module ⟨_, _, _, _, objects, _, _⟩ => heightAll objects + 1

/-- The length of the longest chain of instances among objects. -/
def heightAll : List SceneObject → Nat
  | [] => 0
  | object :: objects => max (height object) (heightAll objects)

end

mutual

/-- There is a chain of that length. -/
theorem exists_nested : ∀ object : SceneObject,
    ∃ chain, Nested chain [object] ∧ chain.length = height object
  | .mirror _ => ⟨[], .nil, rfl⟩
  | .blocker _ => ⟨[], .nil, rfl⟩
  | .label _ => ⟨[], .nil, rfl⟩
  | .module ⟨_, _, _, _, objects, _, _⟩ => by
    obtain ⟨chain, hchain, hlength⟩ := exists_nestedAll objects
    refine ⟨_ :: chain, .cons List.mem_cons_self hchain, ?_⟩
    rw [List.length_cons, hlength, height]

theorem exists_nestedAll : ∀ objects : List SceneObject,
    ∃ chain, Nested chain objects ∧ chain.length = heightAll objects
  | [] => ⟨[], .nil, rfl⟩
  | object :: objects => by
    obtain ⟨first, hfirst, hlength⟩ := exists_nested object
    obtain ⟨rest, hrest, hlength'⟩ := exists_nestedAll objects
    rw [heightAll]
    rcases Nat.le_total (height object) (heightAll objects) with hle | hle
    · refine ⟨rest, hrest.mono (List.subset_cons_self object objects), ?_⟩
      rw [hlength', Nat.max_eq_right hle]
    · refine ⟨first, hfirst.mono (List.cons_subset_cons object (List.nil_subset objects)), ?_⟩
      rw [hlength, Nat.max_eq_left hle]

end

end SceneObject

open SceneObject (Nested Occurs)

/-! ### Depth -/

namespace Registry

variable {registry : Registry} {library : Library}

/-- Records that are instantiated one after the other become the objects. -/
theorem Builds.exists_instantiates {depth : Nat} {records : List Json} {s t : Stream}
    {objects : List SceneObject} {e : Option SceneError} {object : SceneObject}
    (ho : object ∈ objects) :
    Builds registry library depth records s ((objects, e), t) →
      ∃ record u v, Instantiates registry library depth record u (.ok object, v)
  | .nil => absurd ho List.not_mem_nil
  | .failed _ => absurd ho List.not_mem_nil
  | .cons hrecord hrest => by
    rcases List.mem_cons.mp ho with rfl | ho
    · exact ⟨_, _, _, hrecord⟩
    · exact hrest.exists_instantiates ho

/-- What an instance is filled with was made one level deeper, and there is such a level. -/
theorem Fills.exists_instantiates {depth : Nat} {inst : Instance SceneObject} {s t : Stream}
    {found : List SceneObject × Option SceneError} {object : SceneObject}
    (h : Fills registry library depth inst s (found, t)) (ho : object ∈ found.1) :
    depth < Module.maxDepth ∧
      ∃ record u v, Instantiates registry library (depth + 1) record u (.ok object, v) := by
  cases h with
  | collecting => cases ho
  | failed => cases ho
  | tooDeep => cases ho
  | inside _ _ hlt hbuilds => exact ⟨hlt, hbuilds.exists_instantiates ho⟩

/-- A plain object is no instance. -/
theorem run_make_ne_module {kind : SceneObject.Kind} (h : kind ≠ .module) {record : Json}
    {s t : Stream} {inst : Instance SceneObject} :
    ExceptT.run (make library none record kind) s ≠ (.ok (.module inst), t) := by
  intro hrun
  cases kind with
  | module => exact h rfl
  | mirror | blocker | label =>
    obtain ⟨plain, u, -, hplain⟩ := run_bind_eq_ok.mp hrun
    cases hplain

/-- An instance that is made was read from its record and filled. -/
theorem Instantiates.exists_fills {depth : Nat} {record : Json} {s t : Stream}
    {inst : Instance SceneObject}
    (h : Instantiates registry library depth record s (.ok (.module inst), t)) :
    ∃ core found, readInstance library record = .ok core ∧
      Fills registry library depth core s (found, t) ∧ inst = core.withObjects found := by
  generalize houtcome : (Except.ok (SceneObject.module inst), t) = outcome at h
  cases h with
  | untagged | unknown | refused => cases houtcome
  | plain _ _ hmodule => exact absurd houtcome.symm (run_make_ne_module hmodule)
  | «instance» _ _ hcore hfills =>
    cases houtcome
    exact ⟨_, _, hcore, hfills, rfl⟩

end Registry

namespace Scene

variable {s t : Scene} {op : Operation}

/-- No instance of a scene stands deeper than modules may be nested. -/
def IsShallow (s : Scene) : Prop :=
  ∀ inst depth, Occurs inst depth s.objects → depth ≤ Module.maxDepth

theorem IsShallow.adopt (hs : s.IsShallow) (ht : t.IsShallow) {object : SceneObject}
    (ho : object ∈ t.objects) : IsShallow { s with objects := s.objects ++ [object] } := by
  intro inst depth hi
  cases hi with
  | top => exact Nat.zero_le _
  | inside hm hi =>
    rcases List.mem_append.mp hm with hm | hm
    · exact hs inst _ (.inside hm hi)
    · rw [← List.mem_singleton.mp hm] at ho
      exact ht inst _ (.inside ho hi)

theorem IsShallow.length_le (h : s.IsShallow) {chain : List (Instance SceneObject)}
    (hchain : Nested chain s.objects) : chain.length ≤ Module.maxDepth + 1 :=
  hchain.length_le_of_occurs fun inst depth hi => Nat.succ_le_succ (h inst depth hi)

end Scene

end OpticScene
