import OpticScene.Proofs.Demodulization
import OpticScene.Proofs.FloatOrder
import OpticScene.Proofs.PlacementProtocol
import OpticScene.Proofs.Reports

/-!
# The nearest hit

What a ray meets first is found by one pass over the objects that light meets, those inside of
instances in the place of the instance.  The pass keeps a hit until a strictly nearer one comes, so
that of equally near hits it ends with the first.

## Main definitions

* `Scene.Nearer` — a hit lies nearer to the origin of the ray than another, by the total order on
  the squares of their distances.

## Main results

* `Scene.nearestFrom_split` — **the pass ends with the first of the nearest hits.**
* `Scene.nearest?_eq_none_iff`, `Scene.split_of_nearest?` — the same of the objects of a scene.
* `Scene.nearest_hit_is_first_closest` — **what a ray meets first.**
-/

namespace OpticScene

open OpticScene.Binary64 (Precedes)
open OpticScene.Module (Instance)

/-! ### Objects that light meets -/

/-- Light meets no instances, only what is inside of them. -/
theorem SceneObject.instance?_of_mem_optical {object : SceneObject} :
    ∀ o ∈ object.optical, o.instance? = none := by
  induction object using SceneObject.induct with
  | plain object hplain =>
    rw [optical_of_plain hplain]
    exact List.forall_mem_singleton.mpr hplain
  | module inst ih =>
    rw [optical_module]
    intro o ho
    obtain ⟨inner, hinner, ho⟩ := mem_opticalAll_iff.mp ho
    exact ih inner hinner o ho

namespace Scene

variable {s : Scene} {ray : Ray} {origin : Point}

/-- The first of two hits lies nearer to the origin than the second one. -/
def Nearer (origin : Point) (a b : Hit) : Prop :=
  Precedes (a.2.distanceSquared origin) (b.2.distanceSquared origin)

theorem isNearer_iff {a b : Hit} : isNearer origin a b = true ↔ Nearer origin a b :=
  decide_eq_true_iff

/-! ### The pass -/

/-- What is not nearer than a hit is farther than those that are nearer. -/
theorem Nearer.trans_not {a b c : Hit} (hab : Nearer origin a b) (hcb : ¬ Nearer origin c b) :
    Nearer origin a c := by
  unfold Nearer Precedes at *
  omega

theorem Nearer.trans {a b c : Hit} (hab : Nearer origin a b) (hbc : Nearer origin b c) :
    Nearer origin a c :=
  hab.trans_not (Precedes.asymm hbc)

/-- **The pass ends with the first of the nearest hits**: all hits before it are farther, and none
after it is nearer. -/
theorem nearestFrom_split (origin : Point) (hits : List Hit) : ∀ best : Hit, ∃ before after,
    best :: hits = before ++ nearestFrom origin best hits :: after ∧
      (∀ hit ∈ before, Nearer origin (nearestFrom origin best hits) hit) ∧
        ∀ hit ∈ after, ¬ Nearer origin hit (nearestFrom origin best hits) := by
  induction hits with
  | nil => exact fun best => ⟨[], [], rfl, List.forall_mem_nil _, List.forall_mem_nil _⟩
  | cons hit hits ih =>
    intro best
    rw [nearestFrom]
    split
    · next hnearer =>
      have hnearer := isNearer_iff.mp hnearer
      obtain ⟨before, after, hsplit, hbefore, hafter⟩ := ih hit
      generalize nearestFrom origin hit hits = nearest at *
      refine ⟨best :: before, after, congrArg (best :: ·) hsplit, ?_, hafter⟩
      refine List.forall_mem_cons.mpr ⟨?_, hbefore⟩
      cases before with
      | nil =>
        obtain ⟨rfl, -⟩ := List.cons.inj hsplit
        exact hnearer
      | cons first before =>
        obtain ⟨rfl, -⟩ := List.cons.inj hsplit
        exact (hbefore hit List.mem_cons_self).trans hnearer
    · next hnot =>
      have hnot : ¬ Nearer origin hit best := fun h => hnot (isNearer_iff.mpr h)
      obtain ⟨before, after, hsplit, hbefore, hafter⟩ := ih best
      generalize nearestFrom origin best hits = nearest at *
      cases before with
      | nil =>
        obtain ⟨rfl, rfl⟩ := List.cons.inj hsplit
        exact ⟨[], hit :: hits, rfl, List.forall_mem_nil _, List.forall_mem_cons.mpr ⟨hnot, hafter⟩⟩
      | cons first before =>
        obtain ⟨rfl, rfl⟩ := List.cons.inj hsplit
        obtain ⟨hfirst, hbefore⟩ := List.forall_mem_cons.mp hbefore
        refine ⟨best :: hit :: before, after, rfl, ?_, hafter⟩
        exact List.forall_mem_cons.mpr ⟨hfirst, List.forall_mem_cons.mpr
          ⟨hfirst.trans_not hnot, hbefore⟩⟩

/-! ### Hits of objects -/

theorem mem_hits_iff {objects : List SceneObject} {o : SceneObject} {place : Point} :
    (o, place) ∈ hits ray objects ↔ o ∈ objects ∧ o.hit? ray = some place := by
  unfold hits
  rw [List.mem_filterMap]
  constructor
  · rintro ⟨o', ho, hhit⟩
    obtain ⟨place', hplace, heq⟩ := Option.map_eq_some_iff.mp hhit
    cases heq
    exact ⟨ho, hplace⟩
  · rintro ⟨ho, hplace⟩
    exact ⟨o, ho, by rw [hplace]; rfl⟩

/-- The objects before and after a hit object have the hits before and after it. -/
theorem split_of_hits {objects : List SceneObject} {hit : Hit} {before after : List Hit}
    (h : hits ray objects = before ++ hit :: after) :
    ∃ before' after', objects = before' ++ hit.1 :: after' ∧ hits ray before' = before ∧
      hits ray after' = after := by
  obtain ⟨front, back, rfl, hfront, hback⟩ := List.filterMap_eq_append_iff.mp h
  obtain ⟨missed, object, after', rfl, hmissed, hobject, hafter⟩ :=
    List.filterMap_eq_cons_iff.mp hback
  obtain ⟨place, -, rfl⟩ := Option.map_eq_some_iff.mp hobject
  refine ⟨front ++ missed, after', by rw [List.append_assoc], ?_, hafter⟩
  have hnone : hits ray missed = [] := List.filterMap_eq_nil_iff.mpr hmissed
  have hboth : hits ray (front ++ missed) = hits ray front ++ hits ray missed :=
    List.filterMap_append
  rw [hboth, hnone, List.append_nil]
  exact hfront

/-- **Nothing is met when all objects are missed.** -/
theorem nearest?_eq_none_iff :
    s.nearest? ray = none ↔ ∀ o ∈ s.optical, o.hit? ray = none := by
  have hnone : nearestOf ray.origin (hits ray s.optical) = none ↔ hits ray s.optical = [] := by
    cases hits ray s.optical <;> simp [nearestOf]
  rw [nearest?, hnone, hits, List.filterMap_eq_nil_iff]
  simp only [Option.map_eq_none_iff]

/-- **What is met is the first of the nearest objects**: all others are missed, or they are farther,
or they come later and are equally far. -/
theorem split_of_nearest? {object : SceneObject} {place : Point}
    (h : s.nearest? ray = some (object, place)) :
    object.hit? ray = some place ∧ ∃ before after, s.optical = before ++ object :: after ∧
      (∀ o ∈ before, ∀ q, o.hit? ray = some q → Nearer ray.origin (object, place) (o, q)) ∧
        ∀ o ∈ after, ∀ q, o.hit? ray = some q → ¬ Nearer ray.origin (o, q) (object, place) := by
  rw [nearest?] at h
  cases hhits : hits ray s.optical with
  | nil =>
    rw [hhits] at h
    cases h
  | cons best rest =>
    rw [hhits] at h
    obtain ⟨before, after, hsplit, hbefore, hafter⟩ := nearestFrom_split ray.origin rest best
    rw [Option.some.inj h] at hsplit hbefore hafter
    have hmem : (object, place) ∈ hits ray s.optical := by
      rw [hhits, hsplit]
      exact List.mem_append_right _ List.mem_cons_self
    obtain ⟨front, back, hobjects, rfl, rfl⟩ := split_of_hits (hhits.trans hsplit)
    refine ⟨(mem_hits_iff.mp hmem).2, front, back, hobjects, ?_, ?_⟩
    · exact fun o ho q hq => hbefore _ (mem_hits_iff.mpr ⟨ho, hq⟩)
    · exact fun o ho q hq => hafter _ (mem_hits_iff.mpr ⟨ho, hq⟩)

/-- Nothing that the ray meets is nearer. -/
theorem not_nearer_of_nearest? {object : SceneObject} {place : Point}
    (h : s.nearest? ray = some (object, place)) :
    ∀ o ∈ s.optical, ∀ q, o.hit? ray = some q → ¬ Nearer ray.origin (o, q) (object, place) := by
  obtain ⟨hhit, before, after, hsplit, hbefore, hafter⟩ := split_of_nearest? h
  intro o ho q hq
  rw [hsplit] at ho
  rcases List.mem_append.mp ho with ho | ho
  · exact Precedes.asymm (hbefore o ho q hq)
  rcases List.mem_cons.mp ho with rfl | ho
  · cases hhit.symm.trans hq
    exact fun hself => Precedes.asymm hself hself
  · exact hafter o ho q hq

/-- **What a ray meets first.**  Nothing is met when all objects that light meets are missed.
Otherwise an object is met, and never an instance, at its own place; every object before it is
missed or farther, every one after it is missed, equally far or farther, and none at all is nearer,
neither in the total order nor by number.  This holds of every scene.  In those that can be
attained, there is nothing to meet in instances that miss control points, at any depth. -/
theorem nearest_hit_is_first_closest (s : Scene) (ray : Ray) :
    (s.nearest? ray = none ↔ ∀ o ∈ s.optical, o.hit? ray = none) ∧
    (∀ object place, s.nearest? ray = some (object, place) →
      object.instance? = none ∧ object.hit? ray = some place ∧
      (∃ before after, s.optical = before ++ object :: after ∧
        (∀ o ∈ before, ∀ q, o.hit? ray = some q → Nearer ray.origin (object, place) (o, q)) ∧
        ∀ o ∈ after, ∀ q, o.hit? ray = some q →
          place.distanceSquared ray.origin = q.distanceSquared ray.origin ∨
            Nearer ray.origin (object, place) (o, q)) ∧
      ∀ o ∈ s.optical, ∀ q, o.hit? ray = some q →
        ¬ Nearer ray.origin (o, q) (object, place) ∧
          ¬ q.distanceSquared ray.origin < place.distanceSquared ray.origin) ∧
    (Attainable s → ∀ inst depth, SceneObject.Occurs inst depth s.objects →
      inst.placement = .collecting → SceneObject.optical (.module inst) = []) := by
  refine ⟨nearest?_eq_none_iff, fun object place hnearest => ?_, fun h inst depth hi hp => ?_⟩
  · obtain ⟨hhit, before, after, hsplit, hbefore, hafter⟩ := split_of_nearest? hnearest
    have hnone := not_nearer_of_nearest? hnearest
    have hmem : object ∈ s.optical := by
      rw [hsplit]
      exact List.mem_append_right _ List.mem_cons_self
    obtain ⟨top, -, hinside⟩ := SceneObject.mem_opticalAll_iff.mp hmem
    refine ⟨SceneObject.instance?_of_mem_optical object hinside, hhit,
      ⟨before, after, hsplit, hbefore, fun o ho q hq => ?_⟩, fun o ho q hq => ?_⟩
    · exact Binary64.eq_or_precedes_of_not_precedes (hafter o ho q hq)
    · exact ⟨hnone o ho q hq, fun hlt => hnone o ho q hq (.of_lt hlt)⟩
  · obtain ⟨hobjects, -⟩ := (h.isPlaced.instances inst depth hi).tidy hp
    rw [SceneObject.optical_module, hobjects, SceneObject.opticalAll]

/-- A run that puts a blocker far away, a module with a nearer one that still misses its point, a
module with a blocker between both, and another blocker on top of that one. -/
def panes : List Operation :=
  let blocker (x : Float) : Json :=
    .object
      [("type", .string "Blocker"), ("p1", Record.ofPoint ⟨x, -1.0⟩),
        ("p2", Record.ofPoint ⟨x, 1.0⟩)]
  [.define "shutter" (.object [("numPoints", .ofNat 1), ("objs", .array [blocker 1.0])]),
    .define "pane" (.object [("objs", .array [blocker 2.0])]),
    .add (blocker 3.0), .beginPlacement "shutter",
    .add (.object [("type", .string "ModuleObj"), ("module", .string "pane")]),
    .add (blocker 2.0)]

/-- The ray passes the module that misses its point, and of the two blockers at one place it meets
the first. -/
theorem nearest_hit_is_first_closest_of_panes :
    let s := empty.after panes
    let ray : Ray := ⟨.zero, ⟨1.0, 0.0⟩, 1.0, 0.0, none⟩
    Attainable s ∧ s.optical.length = 3 ∧
    (∃ inst, .module inst ∈ s.objects ∧ inst.placement = .collecting ∧
      SceneObject.optical (.module inst) = []) ∧
    ∃ object place, s.nearest? ray = some (object, place) ∧
      (place.distanceSquared ray.origin == 4.0) = true ∧ object.instance? = none ∧
      ∃ before after, s.optical = before ++ object :: after ∧
        ∀ o ∈ before, ∀ q, o.hit? ray = some q → Nearer ray.origin (object, place) (o, q) := by
  intro s ray
  have hattainable : Attainable s := ((Reachable.start (.empty .standard 0)).after _).attainable
  obtain ⟨-, hfirst, hcollecting⟩ := nearest_hit_is_first_closest s ray
  have hinst : (s.objects[1]?.bind SceneObject.instance?).map Instance.placement =
      some .collecting := by
    decide +kernel
  have hhit : (s.nearest? ray).any (fun hit => hit.2.distanceSquared ray.origin == 4.0) =
      true := by
    decide +kernel
  obtain ⟨inst, hi, hp⟩ := Option.map_eq_some_iff.mp hinst
  have hi := List.mem_of_getElem? (SceneObject.bind_instance?_eq_some_iff.mp hi)
  obtain ⟨⟨object, place⟩, hnearest, hplace⟩ := (Option.any_eq_true _ _).mp hhit
  obtain ⟨hplain, -, ⟨before, after, hsplit, hbefore, -⟩, -⟩ := hfirst object place hnearest
  have hnothing := hcollecting hattainable inst 0 (.top hi) hp
  exact ⟨hattainable, by decide +kernel, ⟨inst, hi, hp, hnothing⟩, object, place, hnearest,
    hplace, hplain, before, after, hsplit, hbefore⟩

end Scene

end OpticScene
