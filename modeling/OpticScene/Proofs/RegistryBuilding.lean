import Mathlib.Data.List.Induction
import OpticScene.Proofs.Draws
import OpticScene.Scene.Registry

/-!
# Putting a registry together

Factories are registered one at a time, or those of all kinds at once.  Nothing but the list of all
registrations, in their order, decides how this ends: a tag that stands in it twice is refused when
it comes for the second time, then the first kind that does not stand in it is missed, and else the
registry calls for each tag the one factory that was registered under it.

Factories are of any type here, and what one makes is a parameter.

## Main definitions

* `Registry.Step`, `Registry.BuilderOf.performAll` — the steps of putting a registry together.
* `Registry.Step.entries` — the registrations that a step stands for.
* `Registry.Answers`, `Registry.Ends` — what a registry does for registrations, and how putting it
  together ends.

## Main results

* `Registry.BuilderOf.performAll_eq` — **steps are the same as their registrations one by one.**
* `Registry.BuilderOf.registerAll_of_nodup`, `Registry.BuilderOf.registerAll_of_repeated` — the
  registrations by the tags alone.
* `Registry.ends_of_registrations` — how every sequence of steps ends.
-/

namespace OpticScene

open OpticScene.Random (Draws Stream)
open SceneObject (Kind)

namespace Registry

/-- A step in putting a registry together. -/
inductive Step (Factory : Type) where
  /-- A factory is registered under a tag. -/
  | register (tag : String) (factory : Factory)
  /-- The factories of all kinds are registered under the tags of the kinds. -/
  | standard

variable {Factory : Type}

/-- The registrations that a step stands for; `own` are the factories of the kinds. -/
def Step.entries (own : Kind → Factory) : Step Factory → Named Factory
  | .register tag factory => [(tag, factory)]
  | .standard => Kind.all.map fun kind => (kind.tag, own kind)

/-- The registrations of some steps in their order. -/
def registrations (own : Kind → Factory) (steps : List (Step Factory)) : Named Factory :=
  steps.flatMap (Step.entries own)

namespace BuilderOf

/-- One step. -/
def perform (own : Kind → Factory) (b : BuilderOf Factory) :
    Step Factory → Except SceneError (BuilderOf Factory)
  | .register tag factory => b.register tag factory
  | .standard => b.registerStandard own

/-- Steps one after the other, up to the first that fails. -/
def performAll (own : Kind → Factory) :
    List (Step Factory) → BuilderOf Factory → Except SceneError (BuilderOf Factory)
  | [], b => .ok b
  | step :: steps, b => do performAll own steps (← b.perform own step)

/-- Registrations one after the other. -/
def registerAll : Named Factory → BuilderOf Factory → Except SceneError (BuilderOf Factory)
  | [], b => .ok b
  | (tag, factory) :: entries, b => do registerAll entries (← b.register tag factory)

variable {own : Kind → Factory} {b : BuilderOf Factory}

/-! ### Steps and registrations -/

theorem registerAll_append (xs ys : Named Factory) (b : BuilderOf Factory) :
    registerAll (xs ++ ys) b = registerAll xs b >>= registerAll ys := by
  induction xs generalizing b with
  | nil => rfl
  | cons x xs ih =>
    obtain ⟨tag, factory⟩ := x
    rw [List.cons_append, registerAll, registerAll]
    cases b.register tag factory with
    | error e => rfl
    | ok next => exact ih next

theorem registerKinds_eq (own : Kind → Factory) (kinds : List Kind) (b : BuilderOf Factory) :
    b.registerKinds own kinds = registerAll (kinds.map fun kind => (kind.tag, own kind)) b := by
  induction kinds generalizing b with
  | nil => rfl
  | cons kind kinds ih =>
    rw [registerKinds, List.map_cons, registerAll]
    cases b.register kind.tag (own kind) with
    | error e => rfl
    | ok next => exact ih next

/-- One step is the same as its registrations. -/
theorem perform_eq (own : Kind → Factory) (b : BuilderOf Factory) (step : Step Factory) :
    b.perform own step = registerAll (step.entries own) b := by
  cases step with
  | register tag factory =>
    rw [perform, Step.entries, registerAll]
    cases b.register tag factory <;> rfl
  | standard => exact registerKinds_eq own Kind.all b

/-- **Steps are the same as their registrations one by one.** -/
theorem performAll_eq (own : Kind → Factory) (steps : List (Step Factory))
    (b : BuilderOf Factory) :
    performAll own steps b = registerAll (registrations own steps) b := by
  induction steps generalizing b with
  | nil => rfl
  | cons step steps ih =>
    rw [performAll, registrations, List.flatMap_cons, registerAll_append, ← perform_eq]
    cases b.perform own step with
    | error e => rfl
    | ok next => exact ih next

/-! ### Registrations -/

/-- A tag that is free is registered last. -/
theorem register_of_not_mem {tag : String} (h : tag ∉ Named.names b.entries)
    (factory : Factory) : b.register tag factory = .ok ⟨b.entries ++ [(tag, factory)]⟩ :=
  if_neg fun hc => h ((Named.contains_iff tag b.entries).mp hc)

theorem register_of_mem {tag : String} (h : tag ∈ Named.names b.entries) (factory : Factory) :
    b.register tag factory = .error (.duplicateType tag) :=
  if_pos ((Named.contains_iff tag b.entries).mpr h)

/-- Registrations of different tags that are free all succeed. -/
theorem registerAll_of_nodup {entries : Named Factory}
    (h : (Named.names (b.entries ++ entries)).Nodup) :
    registerAll entries b = .ok ⟨b.entries ++ entries⟩ := by
  induction entries generalizing b with
  | nil => rw [List.append_nil]; rfl
  | cons e entries ih =>
    obtain ⟨tag, factory⟩ := e
    have hassoc : b.entries ++ (tag, factory) :: entries =
        b.entries ++ [(tag, factory)] ++ entries := by
      rw [List.append_assoc, List.singleton_append]
    have hfree : tag ∉ Named.names b.entries := by
      rw [Named.names, List.map_append, List.map_cons] at h
      exact fun hm => (List.nodup_append.mp h).2.2 tag hm tag List.mem_cons_self rfl
    rw [registerAll, register_of_not_mem hfree, hassoc]
    exact ih (b := ⟨b.entries ++ [(tag, factory)]⟩) (hassoc ▸ h)

/-- The first registration of a tag that is not free fails, whatever comes after it. -/
theorem registerAll_of_repeated {before after : Named Factory} {tag : String} {factory : Factory}
    (hbefore : (Named.names (b.entries ++ before)).Nodup)
    (hmem : tag ∈ Named.names (b.entries ++ before)) :
    registerAll (before ++ (tag, factory) :: after) b = .error (.duplicateType tag) := by
  rw [registerAll_append, registerAll_of_nodup hbefore]
  change registerAll ((tag, factory) :: after) ⟨b.entries ++ before⟩ = _
  rw [registerAll, register_of_mem hmem]
  rfl

end BuilderOf

/-- The registry that steps give when they start with nothing. -/
def assemble (own : Kind → Factory) (steps : List (Step Factory)) :
    Except SceneError (Registry.Of Factory) := do
  (← BuilderOf.performAll own steps .empty).build

/-- A list in which a name stands twice has a first place where a name comes again. -/
theorem exists_first_repeated {entries : Named Factory} (h : ¬ (Named.names entries).Nodup) :
    ∃ before tag factory after, entries = before ++ (tag, factory) :: after ∧
      (Named.names before).Nodup ∧ tag ∈ Named.names before := by
  -- from the back: either it comes earlier, or the last entry is the first one that comes again
  induction entries using List.reverseRecOn with
  | nil => exact absurd List.nodup_nil h
  | append_singleton entries e ih =>
    by_cases hentries : (Named.names entries).Nodup
    · obtain ⟨tag, factory⟩ := e
      have hmem : tag ∈ Named.names entries := Classical.byContradiction fun hmem =>
        h (Named.set_of_not_mem hmem factory ▸ Named.nodup_names_set tag factory hentries)
      exact ⟨entries, tag, factory, [], rfl, hentries, hmem⟩
    · obtain ⟨before, tag, factory, after, rfl, hbefore, hmem⟩ := ih hentries
      refine ⟨before, tag, factory, after ++ [e], ?_, hbefore, hmem⟩
      rw [List.append_assoc, List.cons_append]

/-! ### Finished registries -/

/-- What a registry does for registrations: it calls for each tag the factory that was registered
under it, it knows no other tags, and it lists the tags in increasing order. -/
structure Answers (registry : Registry.Of Factory) (entries : Named Factory) : Prop where
  /-- The factory of a tag is called, whatever factories make. -/
  createBy_of_mem : ∀ {tag : String} {factory : Factory}, (tag, factory) ∈ entries →
    ∀ {α : Type} (call : Factory → Draws SceneError α), registry.createBy call tag = call factory
  /-- Other tags are unknown. -/
  createBy_of_not_mem : ∀ {tag : String}, tag ∉ Named.names entries →
    ∀ {α : Type} (call : Factory → Draws SceneError α),
      registry.createBy call tag = throw (.unknownType tag)
  /-- The tags that were registered are there. -/
  contains_iff : ∀ tag, registry.contains tag = true ↔ tag ∈ Named.names entries
  /-- They are the ones that are listed. -/
  mem_tags_iff : ∀ tag, tag ∈ registry.tags ↔ tag ∈ Named.names entries
  /-- Each comes before those that are larger. -/
  increasing : registry.tags.Pairwise (· < ·)

/-- **A registry in which no tag stands twice answers for its entries.** -/
theorem answers_of_nodup {entries : Named Factory} (h : (Named.names entries).Nodup) :
    Answers ⟨entries⟩ entries where
  createBy_of_mem := fun hmem _ call => by
    rw [Of.createBy, Of.find?, Named.get?_of_mem hmem h]
  createBy_of_not_mem := fun hmem _ call => by
    rw [Of.createBy, Of.find?, Named.get?_eq_none hmem]
  contains_iff := fun tag => Named.contains_iff tag entries
  mem_tags_iff := fun tag => (List.mergeSort_perm _ _).mem_iff
  increasing := by
    have hsorted : (Of.tags ⟨entries⟩).Pairwise fun a b => (!decide (b < a)) = true := by
      refine List.pairwise_mergeSort (fun a b c hab hbc => ?_) (fun a b => ?_) _
      · simp only [Bool.not_eq_true', decide_eq_false_iff_not, String.not_lt] at *
        exact String.le_trans hab hbc
      · simp only [Bool.or_eq_true, Bool.not_eq_true', decide_eq_false_iff_not, String.not_lt]
        exact String.le_total a b
    have hdistinct : (Of.tags ⟨entries⟩).Nodup := (List.mergeSort_perm _ _).nodup_iff.mpr h
    refine (hsorted.and hdistinct).imp fun {a b} ⟨hle, hne⟩ => ?_
    simp only [Bool.not_eq_true', decide_eq_false_iff_not] at hle
    exact Classical.byContradiction fun hlt => hne (String.le_antisymm hle hlt)

/-- How putting a registry together ends, by the registrations in their order. -/
inductive Ends (entries : Named Factory) : Except SceneError (Registry.Of Factory) → Prop
  /-- A tag is registered that is already there; no tag before it was. -/
  | duplicate {before after : Named Factory} {tag : String} {factory : Factory} :
    entries = before ++ (tag, factory) :: after → (Named.names before).Nodup →
      tag ∈ Named.names before → Ends entries (.error (.duplicateType tag))
  /-- All registrations succeed, and the tag of a kind is not there; those of the kinds before it
  are. -/
  | missing {past future : List Kind} {kind : Kind} : (Named.names entries).Nodup →
    Kind.all = past ++ kind :: future → (∀ k ∈ past, k.tag ∈ Named.names entries) →
      kind.tag ∉ Named.names entries → Ends entries (.error (.missingType kind.tag))
  /-- All registrations succeed, and the tags of all kinds are there. -/
  | built {registry : Registry.Of Factory} : (Named.names entries).Nodup →
    (∀ kind ∈ Kind.all, kind.tag ∈ Named.names entries) → Answers registry entries →
      Ends entries (.ok registry)

/-- Once all registrations have succeeded, only a kind without a tag can be in the way. -/
theorem ends_build {entries : Named Factory} (h : (Named.names entries).Nodup) :
    Ends entries (BuilderOf.build ⟨entries⟩) := by
  have hcontains : ∀ kind : Kind, (!(BuilderOf.contains ⟨entries⟩ kind.tag)) = false ↔
      kind.tag ∈ Named.names entries := fun kind => by
    rw [Bool.not_eq_false', BuilderOf.contains, Named.contains_iff]
  rw [BuilderOf.build]
  split
  · next kind hfound =>
    obtain ⟨hmissing, past, future, hsplit, hpast⟩ := List.find?_eq_some_iff_append.mp hfound
    refine .missing h hsplit (fun k hk => (hcontains k).mp ?_) fun hmem => ?_
    · simpa using hpast k hk
    · rw [(hcontains kind).mpr hmem] at hmissing
      cases hmissing
  · next hnone =>
    refine .built h (fun kind hkind => (hcontains kind).mp ?_) (answers_of_nodup h)
    simpa using List.find?_eq_none.mp hnone kind hkind

theorem assemble_eq (own : Kind → Factory) (steps : List (Step Factory)) :
    assemble own steps =
      BuilderOf.registerAll (registrations own steps) .empty >>= BuilderOf.build := by
  rw [assemble, BuilderOf.performAll_eq]

/-- **How every sequence of steps ends.**  It fails with the first tag that is registered a second
time, else with the first kind that is left out, and else the registry answers for the
registrations.  So in a registry of kinds, which makes objects of records, a tag makes what its kind
makes. -/
theorem ends_of_registrations :
    (∀ {Factory : Type} (own : Kind → Factory) (steps : List (Step Factory)),
      Ends (registrations own steps) (assemble own steps)) ∧
    ∀ (steps : List (Step Kind)) (registry : Registry), assemble id steps = .ok registry →
      ∀ (library : Module.Library) (levels : Nat) (record : Json),
        (∀ tag kind, (tag, kind) ∈ registrations id steps →
          registry.create library levels tag record =
            make library (registry.builder library levels) record kind) ∧
        ∀ tag, tag ∉ Named.names (registrations id steps) →
          registry.create library levels tag record = throw (.unknownType tag) := by
  have hends : ∀ {Factory : Type} (own : Kind → Factory) (steps : List (Step Factory)),
      Ends (registrations own steps) (assemble own steps) := by
    intro Factory own steps
    rw [assemble_eq]
    by_cases hnodup : (Named.names (registrations own steps)).Nodup
    · rw [BuilderOf.registerAll_of_nodup hnodup]
      exact ends_build hnodup
    · obtain ⟨before, tag, factory, after, hsplit, hbefore, hmem⟩ :=
        exists_first_repeated hnodup
      rw [hsplit, BuilderOf.registerAll_of_repeated (b := .empty) hbefore hmem]
      exact .duplicate rfl hbefore hmem
  refine ⟨hends, fun steps registry hregistry library levels record => ?_⟩
  have hanswers : Answers registry (registrations id steps) := by
    have hsteps := hends id steps
    rw [hregistry] at hsteps
    cases hsteps with
    | built _ _ hanswers => exact hanswers
  exact ⟨fun tag kind hmem => hanswers.createBy_of_mem hmem _,
    fun tag hmem => hanswers.createBy_of_not_mem hmem _⟩

/-- A kind may be registered under another tag as well, before all kinds are registered. -/
theorem ends_of_registrations_alias :
    ∃ registry : Registry,
      assemble id [.register "Mirror" .mirror, .standard] = .ok registry ∧
      Ends (registrations id [.register "Mirror" .mirror, .standard]) (.ok registry) ∧
      ∀ (library : Module.Library) (levels : Nat) (record : Json),
        registry.create library levels "Mirror" record =
          make library (registry.builder library levels) record .mirror ∧
        registry.create library levels "Lens" record = throw (.unknownType "Lens") := by
  let steps : List (Step Kind) := [.register "Mirror" .mirror, .standard]
  have hregistry : assemble id steps = .ok ⟨registrations id steps⟩ := by decide
  refine ⟨_, hregistry, ?_, fun library levels record => ?_⟩
  · rw [← hregistry]
    exact ends_of_registrations.1 id steps
  · obtain ⟨hmember, hother⟩ := ends_of_registrations.2 steps _ hregistry library levels record
    exact ⟨hmember "Mirror" .mirror (by decide), hother "Lens" (by decide)⟩

end Registry

end OpticScene
