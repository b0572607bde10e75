import OpticScene.Proofs.Origin

/-!
# Control points of instances

A complete instance has as many control points as its definition asks for, and one that is still
being placed has fewer.  A record with another number of points is refused, and a new definition
cuts the points off or fills them up.

## Main definitions

* `Instance.HasPoints` — an instance has the control points that belong to its placement.

## Main results

* `Scene.Reachable.hasPoints` — **every instance of a scene that can be reached has its points**, at
  any depth.
-/

namespace OpticScene

open OpticScene.Random (Stream)
open OpticScene.Module (Builder Definition Instance Library)

namespace Module.Instance

variable {Obj : Type}

/-- A complete instance has all its control points, and no other one has. -/
structure HasPoints (inst : Instance Obj) : Prop where
  /-- A complete instance has as many as its definition asks for. -/
  complete : inst.placement = .complete → inst.points.length = inst.definition.numPoints
  /-- Points are missing while they are placed. -/
  collecting : inst.placement = .collecting → inst.points.length < inst.definition.numPoints

/-- Only the number of points matters. -/
theorem HasPoints.of_length {inst core : Instance Obj} (h : inst.HasPoints)
    (hpoints : core.points.length = inst.points.length) (hd : core.definition = inst.definition)
    (hp : core.placement = inst.placement) : core.HasPoints where
  complete := by
    rw [hpoints, hd, hp]
    exact h.complete
  collecting := by
    rw [hpoints, hd, hp]
    exact h.collecting

theorem HasPoints.refresh {core : Instance Obj} (h : core.HasPoints) (builder : Builder Obj)
    (s : Stream) : (core.refresh builder s).1.HasPoints :=
  h.of_length (by rw [points_refresh]) (definition_refresh ..) (placement_refresh ..)

theorem hasPoints_core {fields : Fields} {d : Definition} (h : fields.Fits d) :
    (fields.core d : Instance Obj).HasPoints := by
  unfold Fields.Fits at h
  cases hdone : fields.notDone
  · rw [hdone, if_neg Bool.false_ne_true] at h
    exact ⟨fun _ => h, fun hp => by simp [Fields.core, hdone] at hp⟩
  · rw [hdone, if_pos rfl] at h
    exact ⟨fun hp => by simp [Fields.core, hdone] at hp, fun _ => h⟩

/-- An instance with its points has a record with as many as are needed. -/
theorem HasPoints.fits {inst : Instance Obj} (h : inst.HasPoints) {fields : Fields}
    (hpoints : fields.points = some inst.points)
    (hdone : fields.notDone = decide (inst.placement = .collecting)) :
    fields.Fits inst.definition := by
  unfold Fields.Fits Fields.pointsFor
  rw [hpoints, hdone]
  cases hp : inst.placement with
  | collecting => exact h.collecting hp
  | complete => exact h.complete hp

theorem hasPoints_begun (name : String) (d : Definition) :
    (begun name d : Instance Obj).HasPoints := by
  by_cases h : d.numPoints = 0
  · exact ⟨fun _ => h.symm, fun hp => by simp [begun, h] at hp⟩
  · exact ⟨fun hp => by simp [begun, h] at hp, fun _ => Nat.pos_of_ne_zero h⟩

theorem length_resizePoints (n : Nat) (ps : List Point) : (resizePoints n ps).length = n := by
  simp only [resizePoints, List.length_append, List.length_take, List.length_replicate]
  omega

theorem hasPoints_rebound (d : Definition) (inst : Instance Obj) : (inst.rebound d).HasPoints := by
  cases hp : inst.placement with
  | complete =>
    refine ⟨fun _ => ?_, fun h => by simp [rebound, hp] at h⟩
    simp only [rebound, hp]
    exact length_resizePoints d.numPoints inst.points
  | collecting =>
    -- if the points suffice for the new definition, the instance becomes complete
    have hle : (inst.points.take d.numPoints).length ≤ d.numPoints := by
      rw [List.length_take]
      exact Nat.min_le_left _ _
    have hpoints : (inst.rebound d).points = inst.points.take d.numPoints := by
      simp only [rebound, hp]
    by_cases hl : (inst.points.take d.numPoints).length = d.numPoints
    · have hplacement : (inst.rebound d).placement = .complete :=
        if_neg fun h => h.2 hl
      refine ⟨fun _ => hpoints ▸ hl, fun h => ?_⟩
      rw [hplacement] at h
      cases h
    · have hplacement : (inst.rebound d).placement = .collecting := if_pos ⟨hp, hl⟩
      refine ⟨fun h => ?_, fun _ => hpoints ▸ Nat.lt_of_le_of_ne hle hl⟩
      rw [hplacement] at h
      cases h

/-- The last point completes an instance, and no other one does. -/
theorem HasPoints.placed {inst : Instance Obj} (h : inst.HasPoints)
    (hp : inst.placement = .collecting) (p : Point) : (inst.placed p).HasPoints := by
  have hlt := h.collecting hp
  have hlength : (inst.placed p).points.length = inst.points.length + 1 := List.length_append
  by_cases hl : inst.lacksOne
  · refine ⟨fun _ => ?_, fun h => by simp [Instance.placed, hl] at h⟩
    rw [hlength]
    exact Nat.le_antisymm hlt hl
  · refine ⟨fun h => by simp [Instance.placed, hl] at h, fun _ => ?_⟩
    rw [hlength]
    exact Nat.lt_of_not_le hl

theorem HasPoints.of_change {inst core : Instance Obj} {edit : Edit} (h : inst.HasPoints)
    (hc : edit.change inst = .ok core) : core.HasPoints := by
  rcases Edit.cases_of_change hc with ⟨p, -, hp, rfl⟩ | ⟨delta, -, rfl⟩ | ⟨index, p, -, -, rfl⟩ |
    ⟨name, x, -, -, rfl⟩
  · exact h.placed hp p
  · exact h.of_length (List.length_map _) rfl rfl
  · exact h.of_length List.length_set rfl rfl
  · exact ⟨h.complete, h.collecting⟩

end Module.Instance

theorem Registry.Makes.hasPoints {registry : Registry} {library : Library} {levels : Nat}
    {inst : Instance SceneObject} (h : registry.Makes library levels inst) : inst.HasPoints := by
  obtain ⟨fields, core, s, hcore, rfl⟩ := h
  obtain ⟨d, -, hfits, rfl⟩ := Instance.ofFields_eq_ok.mp hcore
  exact (Instance.hasPoints_core hfits).refresh _ s

namespace Scene

variable {s : Scene}

theorem Origin.hasPoints {op : Operation} {library : Library} {core : Instance SceneObject}
    (h : Origin s op library core) (hs : ∀ inst, .module inst ∈ s.objects → inst.HasPoints) :
    core.HasPoints := by
  cases h with
  | define => exact Instance.hasPoints_rebound _ _
  | add hcore =>
    obtain ⟨d, -, hfits, rfl⟩ := Instance.ofFields_eq_ok.mp hcore
    exact Instance.hasPoints_core hfits
  | beginPlacement => exact Instance.hasPoints_begun _ _
  | edit _ ho hc => exact (hs _ (List.mem_of_getElem? ho)).of_change hc
  | refresh ho => exact hs _ ho

/-- **Every instance of a scene that can be reached has its points**, at any depth. -/
theorem Reachable.hasPoints (h : Reachable s) {inst : Instance SceneObject} {depth : Nat}
    (hi : SceneObject.Occurs inst depth s.objects) : inst.HasPoints := by
  have hinside : ∀ {s : Scene}, Reachable s → ∀ {outer inst : Instance SceneObject} {depth : Nat},
      .module outer ∈ s.objects → SceneObject.Occurs inst depth outer.objects →
        inst.HasPoints := by
    intro s h outer inst depth ho hi
    obtain ⟨library, levels, -, -, hmade⟩ := (h.expanded_true outer ho).makes_of_occurs hi
    exact hmade.hasPoints
  have htop : ∀ inst, .module inst ∈ s.objects → inst.HasPoints := by
    refine Reachable.induct (Q := fun s => ∀ inst, .module inst ∈ s.objects → inst.HasPoints)
      ?_ ?_ h
    · intro s ho _ inst hi
      rw [ho] at hi
      exact absurd hi List.not_mem_nil
    · intro s op t hr hs he inst hi
      rcases he.mem_cases hi with ⟨hi, -⟩ | ⟨index, outer, -, ho, hi⟩ | ⟨core, u, horigin, rfl⟩
      · exact hs inst hi
      · exact hinside hr (List.mem_of_getElem? ho) (.top hi)
      · exact (horigin.hasPoints hs).refresh _ u
  cases hi with
  | top hi => exact htop inst hi
  | inside ho hi => exact hinside h ho hi

end Scene

end OpticScene
