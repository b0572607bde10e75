import OpticScene.Proofs.Reload
import OpticScene.Scene.View

/-!
# Refreshing is canonical

A refresh takes the random stream back to its start and expands every instance anew.  It looks only
at the object types, at the modules, at the seed and at what the instances at the top level are made
from.  So two scenes that have these in common cannot be told apart afterwards, whatever was done to
them before, wherever their streams were, and however far their last expansions went.

## Main definitions

* `SceneObject.bare` — an object without what it expands to.
* `Scene.AgreesWith` — two scenes are the same but for their last expansions, their streams, their
  seeds and their grids.

## Main results

* `Registry.builder_congr` — at every depth, an expansion looks only at which kind a type stands for
  and which definition a module has.
* `Scene.mapInstances_refresh_bare` — it does not look at the expansion before it.
* `Scene.AgreesWith.refresh_canonical` — **a refresh brings scenes that agree to the same objects.**
-/

namespace OpticScene

open OpticScene.Random (Draws Stream)
open OpticScene.Module (Builder Instance Library)

/-! ### Bare objects -/

/-- The object without what it expands to. -/
def SceneObject.bare : SceneObject → SceneObject
  | .module inst => .module (inst.withObjects ([], none))
  | object => object

/-- An expansion leaves what an object is made from. -/
theorem SceneObject.bare_refresh (builder : Builder SceneObject) (object : SceneObject)
    (u : Stream) : (object.refresh builder u).1.bare = object.bare := by
  cases object with
  | module inst =>
    rw [refresh_module, Instance.refresh_eq]
    rfl
  | _ => rfl

/-- An expansion does not look at the one before it. -/
theorem SceneObject.refresh_bare (builder : Builder SceneObject) (object : SceneObject)
    (u : Stream) : object.bare.refresh builder u = object.refresh builder u := by
  cases object with
  | module inst => rw [bare, refresh_module, refresh_module, Instance.refresh_withObjects]
  | _ => rfl

/-! ### Builders -/

section

variable {library library' : Library} (hl : ∀ name, library.find? name = library'.find? name)

include hl

/-- Only the definition of its module matters to a record. -/
theorem Module.Instance.ofRecord_congr {Obj : Type} (builder : Module.Builder Obj) (record : Json) :
    ofRecord library builder record = ofRecord library' builder record := by
  have hfields : ∀ fields, (ofFields library fields : Except SceneError (Instance Obj)) =
      ofFields library' fields := by
    intro fields
    rw [ofFields_eq, ofFields_eq, hl]
  unfold ofRecord
  simp only [hfields]

namespace Registry

variable {registry registry' : Registry} (hr : ∀ tag, registry.find? tag = registry'.find? tag)

include hr

theorem instantiateWith_congr (builder : Module.Builder SceneObject) (record : Json) :
    registry.instantiateWith library builder record =
      registry'.instantiateWith library' builder record := by
  have hmake : ∀ kind, make library builder record kind = make library' builder record kind := by
    intro kind
    cases kind with
    | module => rw [make, make, Instance.ofRecord_congr hl]
    | _ => rfl
  unfold instantiateWith createWith Of.createBy
  simp only [hr, hmake]

/-- **At every depth, an expansion looks only at which kind a type stands for and which definition a
module has.** -/
theorem builder_congr : ∀ levels : Nat,
    registry.builder library levels = registry'.builder library' levels
  | 0 => rfl
  | levels + 1 => by
    rw [builder, builder, builder_congr levels]
    exact congrArg some (funext fun record => instantiateWith_congr hl hr _ record)

end Registry

end

namespace Scene

/-! ### All objects -/

/-- The expansions of all objects do not look at those before them. -/
theorem mapInstances_refresh_bare (builder : Builder SceneObject) (objects : List SceneObject) :
    ∀ u : Stream, mapInstances (·.refresh builder) (objects.map SceneObject.bare) u =
      mapInstances (·.refresh builder) objects u := by
  induction objects with
  | nil => exact fun _ => rfl
  | cons object objects ih =>
    intro u
    rw [List.map_cons, mapInstances_refresh_cons, mapInstances_refresh_cons,
      SceneObject.refresh_bare, ih]

theorem map_bare_mapInstances (builder : Builder SceneObject) (objects : List SceneObject) :
    ∀ u : Stream, (mapInstances (·.refresh builder) objects u).1.map SceneObject.bare =
      objects.map SceneObject.bare := by
  induction objects with
  | nil => exact fun _ => rfl
  | cons object objects ih =>
    intro u
    rw [mapInstances_refresh_cons, List.map_cons, List.map_cons, SceneObject.bare_refresh, ih]

/-! ### Scenes that agree -/

/-- Two scenes have the same types, the same modules, and the same objects up to what the instances
at the top level expand to. -/
structure AgreesWith (s t : Scene) : Prop where
  /-- Every type tag stands for the same kind. -/
  registry : ∀ tag, s.registry.find? tag = t.registry.find? tag
  /-- Every module has the same definition. -/
  library : ∀ name, s.library.find? name = t.library.find? name
  /-- The objects are made from the same. -/
  objects : s.objects.map SceneObject.bare = t.objects.map SceneObject.bare

variable {s t : Scene}

theorem AgreesWith.symm (h : s.AgreesWith t) : t.AgreesWith s where
  registry := fun tag => (h.registry tag).symm
  library := fun name => (h.library name).symm
  objects := h.objects.symm

theorem AgreesWith.builder_eq (h : s.AgreesWith t) : s.builder = t.builder :=
  Registry.builder_congr h.library h.registry Module.maxDepth

/-- **From the start of the same stream, scenes that agree get the same objects.** -/
theorem AgreesWith.refreshed (h : s.AgreesWith t) (seed : UInt64) :
    (s.refreshed seed).objects = (t.refreshed seed).objects ∧
      (s.refreshed seed).stream = (t.refreshed seed).stream := by
  have hrun : mapInstances (·.refresh s.builder) s.objects (.ofSeed seed) =
      mapInstances (·.refresh t.builder) t.objects (.ofSeed seed) := by
    -- both are the run over the bare objects, which are the same
    rw [← mapInstances_refresh_bare, h.builder_eq, h.objects, mapInstances_refresh_bare]
  exact ⟨congrArg Prod.fst hrun, congrArg Prod.snd hrun⟩

/-- A refresh keeps what the objects are made from. -/
theorem agreesWith_refreshed (s : Scene) (seed : UInt64) : (s.refreshed seed).AgreesWith s where
  registry := fun _ => rfl
  library := fun _ => rfl
  objects := map_bare_mapInstances _ s.objects _

/-- Of two refreshes, only the second one counts. -/
theorem refreshed_refreshed (s : Scene) (seed seed' : UInt64) :
    (s.refreshed seed).refreshed seed' = s.refreshed seed' := by
  obtain ⟨hobjects, hstream⟩ := (agreesWith_refreshed s seed).refreshed seed'
  -- a refresh sets the seed and leaves everything else
  have hparts : ∀ u : Scene, u.refreshed seed' =
      { u with
        seed := seed'
        objects := (u.refreshed seed').objects
        stream := (u.refreshed seed').stream } := fun _ => rfl
  rw [hparts (s.refreshed seed), hobjects, hstream]
  rfl

theorem seed_perform_reseed (s : Scene) (seed : UInt64) :
    (s.perform (.reseed seed)).seed = seed := by
  rw [perform_reseed]
  rfl

/-- New seeds keep what the objects are made from. -/
theorem agreesWith_reseeded (s : Scene) (seed seed' : UInt64) :
    s.AgreesWith ((s.perform (.reseed seed)).perform (.reseed seed')) := by
  rw [perform_reseed, perform_reseed, refreshed_refreshed]
  exact (agreesWith_refreshed s seed').symm

/-- **A refresh brings scenes that agree to the same objects**, with all that is inside them and all
their errors, and to the same place in the random stream.  A second refresh changes nothing, and a
new seed leaves no trace of the old ones. -/
theorem AgreesWith.refresh_canonical (h : s.AgreesWith t) :
    (s.seed = t.seed →
      (s.perform .refresh).objects = (t.perform .refresh).objects ∧
        (s.perform .refresh).stream = (t.perform .refresh).stream) ∧
    (s.perform .refresh).perform .refresh = s.perform .refresh ∧
    ∀ seed, (s.perform (.reseed seed)).objects = (t.perform (.reseed seed)).objects ∧
      (s.perform (.reseed seed)).stream = (t.perform (.reseed seed)).stream := by
  refine ⟨fun hseed => ?_, ?_, fun seed => ?_⟩
  · rw [perform_refresh, perform_refresh, hseed]
    exact h.refreshed t.seed
  · rw [perform_refresh, perform_refresh]
    exact refreshed_refreshed s s.seed s.seed
  · rw [perform_reseed, perform_reseed]
    exact h.refreshed seed

/-- A move gives a label that is put somewhere by chance a new place, and a new seed gives it yet
another one; a refresh does not tell them apart. -/
theorem refresh_canonical_after_randomLabel :
    let s := empty.after (randomLabel ++ [.translate 1 .zero])
    let t := (s.perform (.reseed 7)).perform (.reseed s.seed)
    s.AgreesWith t ∧ s.seed = t.seed ∧
      s.optical.map (·.toRecord.compact) ≠ t.optical.map (·.toRecord.compact) ∧
        (s.perform .refresh).objects = (t.perform .refresh).objects := by
  intro s t
  have hagrees : s.AgreesWith t := agreesWith_reseeded s 7 s.seed
  have hseed : s.seed = t.seed := (seed_perform_reseed (s.perform (.reseed 7)) s.seed).symm
  have hdiffer : s.optical.map (·.toRecord.compact) ≠ t.optical.map (·.toRecord.compact) := by
    decide +kernel
  exact ⟨hagrees, hseed, hdiffer, ((AgreesWith.refresh_canonical hagrees).1 hseed).1⟩

end Scene

end OpticScene
