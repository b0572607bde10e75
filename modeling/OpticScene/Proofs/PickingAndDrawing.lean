import OpticScene.Scene.View

/-!
# Picking and drawing

A scene is drawn by a sort of its objects by layer, and an object is picked by a scan that keeps
the best one so far.  Both follow the same order of the objects: by layer, and in each layer by
index.  So what is picked is what has been drawn last among the objects near the point.

## Main definitions

* `Scene.Below` — one of two objects with their indices lies below the other.
* `Scene.painted` — the objects with their indices, in the order in which they are drawn.
* `Scene.IsTopmost` — the outcome of a scan for the topmost object near a point.

## Main results

* `Scene.painted_perm`, `Scene.pairwise_painted` — **every object is drawn once, and above those
  that are drawn before it.**
* `Scene.IsTopmost.pickFrom` — **the scan finds the topmost object near the point.**
* `Scene.picking_agrees_with_drawing` — what is picked is what is drawn last of all that is near.
-/

namespace OpticScene

/-- Objects are drawn one after the other. -/
theorem SceneObject.figuresAll_eq_flatMap (objects : List SceneObject) :
    figuresAll objects = objects.flatMap figures := by
  induction objects with
  | nil => rfl
  | cons object objects ih => rw [figuresAll, ih, List.flatMap_cons]

namespace Scene

/-- The first of two objects with their indices lies below the second one. -/
def Below (a b : SceneObject × Nat) : Prop :=
  a.1.zIndex < b.1.zIndex ∨ a.1.zIndex = b.1.zIndex ∧ a.2 < b.2

theorem Below.asymm {a b : SceneObject × Nat} (h : Below a b) : ¬ Below b a := by
  unfold Below at *
  omega

/-! ### Drawing -/

/-- The objects with their indices, in the order in which they are drawn. -/
def painted (scene : Scene) : List (SceneObject × Nat) :=
  scene.objects.zipIdx.mergeSort (List.zipIdxLE fun a b => decide (a.zIndex ≤ b.zIndex))

variable {s : Scene}

/-- Every object is drawn once. -/
theorem painted_perm (s : Scene) : s.painted.Perm s.objects.zipIdx := List.mergeSort_perm _ _

theorem nodup_map_snd_painted (s : Scene) : (s.painted.map Prod.snd).Nodup := by
  rw [((painted_perm s).map Prod.snd).nodup_iff, List.zipIdx_map_snd]
  exact List.nodup_range'

/-- Without their indices, these are the objects as the scene is drawn. -/
theorem map_fst_painted (s : Scene) : s.painted.map Prod.fst = drawingOrder s.objects :=
  List.mergeSort_zipIdx

/-- **Every object is drawn above those that are drawn before it.** -/
theorem pairwise_painted (s : Scene) : s.painted.Pairwise Below := by
  have hsorted : s.painted.Pairwise fun a b =>
      List.zipIdxLE (fun a b => decide (a.zIndex ≤ b.zIndex)) a b = true := by
    refine List.pairwise_mergeSort (List.zipIdxLE_trans ?_) (List.zipIdxLE_total ?_) _
    · intro a b c hab hbc
      simp only [decide_eq_true_eq] at *
      omega
    · intro a b
      simp only [Bool.or_eq_true, decide_eq_true_eq]
      omega
  have hdistinct : s.painted.Pairwise fun a b => a.2 ≠ b.2 :=
    List.pairwise_map.mp (nodup_map_snd_painted s)
  refine (hsorted.and hdistinct).imp fun {a b} ⟨hle, hne⟩ => ?_
  unfold Below
  simp only [List.zipIdxLE, decide_eq_true_eq] at hle
  split at hle
  · split at hle
    · have hindex := of_decide_eq_true hle
      omega
    · omega
  · cases hle

/-! ### Picking -/

theorem pickFrom_cons (p : Point) (tolerance : Float) (index : Nat) (best : Option (Nat × Nat))
    (object : SceneObject) (objects : List SceneObject) :
    pickFrom p tolerance index best (object :: objects) =
      pickFrom p tolerance (index + 1)
        (if object.isNear p tolerance &&
            (match best with
            | some (z, _) => decide (z ≤ object.zIndex)
            | none => true) then
          some (object.zIndex, index)
        else best) objects := rfl

/-- A scan of some objects with their indices for the topmost one near a point has this outcome. -/
def IsTopmost (p : Point) (tolerance : Float) (seen : List (SceneObject × Nat)) :
    Option (Nat × Nat) → Prop
  | none => ∀ e ∈ seen, e.1.isNear p tolerance = false
  | some (z, index) => ∃ object, (object, index) ∈ seen ∧ object.isNear p tolerance = true ∧
      object.zIndex = z ∧ ∀ e ∈ seen, e.1.isNear p tolerance = true → ¬ Below (object, index) e

namespace IsTopmost

variable {p : Point} {tolerance : Float} {seen : List (SceneObject × Nat)}
  {best : Option (Nat × Nat)} {top : Nat × Nat} {object : SceneObject} {index : Nat}

/-- An object that is not near the point is passed over. -/
theorem append_far (h : IsTopmost p tolerance seen best)
    (hfar : object.isNear p tolerance = false) :
    IsTopmost p tolerance (seen ++ [(object, index)]) best := by
  cases best with
  | none => exact List.forall_mem_append.mpr ⟨h, List.forall_mem_singleton.mpr hfar⟩
  | some top =>
    obtain ⟨topmost, hmem, hnear, hz, hrest⟩ := h
    refine ⟨topmost, List.mem_append_left _ hmem, hnear, hz, ?_⟩
    refine List.forall_mem_append.mpr ⟨hrest, List.forall_mem_singleton.mpr fun hself => ?_⟩
    cases hfar.symm.trans hself

/-- The first object that is near the point is the topmost one so far. -/
theorem append_first (h : IsTopmost p tolerance seen none)
    (hnear : object.isNear p tolerance = true) :
    IsTopmost p tolerance (seen ++ [(object, index)]) (some (object.zIndex, index)) := by
  refine ⟨object, List.mem_append_right _ List.mem_cons_self, hnear, rfl, ?_⟩
  refine List.forall_mem_append.mpr ⟨fun e he henear => ?_, List.forall_mem_singleton.mpr ?_⟩
  · cases (h e he).symm.trans henear
  · exact fun _ hself => hself.asymm hself

/-- A later object of no lower layer is above the topmost one so far. -/
theorem append_above (h : IsTopmost p tolerance seen (some top))
    (hindex : ∀ e ∈ seen, e.2 < index) (hnear : object.isNear p tolerance = true)
    (habove : top.1 ≤ object.zIndex) :
    IsTopmost p tolerance (seen ++ [(object, index)]) (some (object.zIndex, index)) := by
  obtain ⟨topmost, -, -, hz, hrest⟩ := h
  refine ⟨object, List.mem_append_right _ List.mem_cons_self, hnear, rfl, ?_⟩
  refine List.forall_mem_append.mpr ⟨fun e he henear => ?_, List.forall_mem_singleton.mpr ?_⟩
  · have hbefore := hindex e he
    have hnot := hrest e he henear
    unfold Below at hnot ⊢
    dsimp only at hnot ⊢
    omega
  · exact fun _ hself => hself.asymm hself

/-- A later object of a lower layer is below the topmost one so far. -/
theorem append_below (h : IsTopmost p tolerance seen (some top)) (hbelow : object.zIndex < top.1) :
    IsTopmost p tolerance (seen ++ [(object, index)]) (some top) := by
  obtain ⟨topmost, hmem, hnear, hz, hrest⟩ := h
  refine ⟨topmost, List.mem_append_left _ hmem, hnear, hz, ?_⟩
  refine List.forall_mem_append.mpr ⟨hrest, List.forall_mem_singleton.mpr fun _ => ?_⟩
  unfold Below
  dsimp only
  omega

/-- **The scan finds the topmost object near the point**, if it goes on from the topmost of the
objects before. -/
theorem pickFrom {objects : List SceneObject} : ∀ {seen : List (SceneObject × Nat)}
    {best : Option (Nat × Nat)} {index : Nat}, IsTopmost p tolerance seen best →
      (∀ e ∈ seen, e.2 < index) →
        IsTopmost p tolerance (seen ++ objects.zipIdx index)
          (Scene.pickFrom p tolerance index best objects) := by
  induction objects with
  | nil =>
    intro seen best index h _
    rw [List.zipIdx_nil, List.append_nil]
    exact h
  | cons object objects ih =>
    intro seen best index h hindex
    have hnext : ∀ e ∈ seen ++ [(object, index)], e.2 < index + 1 :=
      List.forall_mem_append.mpr ⟨fun e he => Nat.lt_succ_of_lt (hindex e he),
        List.forall_mem_singleton.mpr (Nat.lt_succ_self index)⟩
    rw [List.zipIdx_cons, List.append_cons, pickFrom_cons]
    refine ih ?_ hnext
    cases hnear : object.isNear p tolerance with
    | false => exact h.append_far hnear
    | true =>
      cases best with
      | none => exact h.append_first hnear
      | some top =>
        obtain ⟨z, i⟩ := top
        rw [Bool.true_and]
        by_cases habove : z ≤ object.zIndex
        · rw [if_pos (decide_eq_true habove)]
          exact h.append_above hindex hnear habove
        · rw [if_neg fun hle => habove (of_decide_eq_true hle)]
          exact h.append_below (Nat.not_le.mp habove)

end IsTopmost

/-- What the scan of all objects finds. -/
theorem isTopmost_pickFrom (p : Point) (tolerance : Float) (objects : List SceneObject) :
    IsTopmost p tolerance objects.zipIdx (pickFrom p tolerance 0 none objects) := by
  have hstart : IsTopmost p tolerance [] none := List.forall_mem_nil _
  exact hstart.pickFrom (List.forall_mem_nil _)

/-! ### Picking what is drawn last -/

/-- The topmost object near a point is drawn last of all that is near it. -/
theorem IsTopmost.getLast?_painted {p : Point} {tolerance : Float} {best : Option (Nat × Nat)}
    (h : IsTopmost p tolerance s.objects.zipIdx best) :
    (s.painted.filter (·.1.isNear p tolerance)).getLast?.map Prod.snd = best.map Prod.snd := by
  cases best with
  | none =>
    have hfar : s.painted.filter (·.1.isNear p tolerance) = [] :=
      List.filter_eq_nil_iff.mpr fun e he => by
        rw [h e ((painted_perm s).mem_iff.mp he)]
        exact Bool.false_ne_true
    rw [hfar]
    rfl
  | some top =>
    obtain ⟨object, hmem, hnear, -, hrest⟩ := h
    have hnearby : (object, top.2) ∈ s.painted.filter (·.1.isNear p tolerance) :=
      List.mem_filter.mpr ⟨(painted_perm s).mem_iff.mpr hmem, hnear⟩
    obtain ⟨before, after, hsplit⟩ := List.append_of_mem hnearby
    -- what is drawn later would be above the topmost object
    have hafter : after = [] := by
      rw [List.eq_nil_iff_forall_not_mem]
      intro e he
      have hpainted : (s.painted.filter (·.1.isNear p tolerance)).Pairwise Below :=
        (pairwise_painted s).filter _
      have hlater : e ∈ s.painted.filter (·.1.isNear p tolerance) := by
        rw [hsplit]
        exact List.mem_append_right _ (List.mem_cons_of_mem _ he)
      obtain ⟨hdrawn, henear⟩ := List.mem_filter.mp hlater
      rw [hsplit] at hpainted
      have habove := (List.pairwise_cons.mp (List.pairwise_append.mp hpainted).2.1).1 e he
      exact hrest e ((painted_perm s).mem_iff.mp hdrawn) henear habove
    rw [hsplit, hafter, List.getLast?_concat]
    rfl

theorem pick?_eq_none_iff {p : Point} {tolerance : Float} :
    s.pick? p tolerance = none ↔ ∀ object ∈ s.objects, object.isNear p tolerance = false := by
  have hscan := isTopmost_pickFrom p tolerance s.objects
  rw [pick?, Option.map_eq_none_iff]
  constructor
  · intro hnone object ho
    rw [hnone] at hscan
    obtain ⟨i, hi⟩ := List.getElem?_of_mem ho
    exact hscan (object, i) (List.mem_zipIdx_iff_getElem?.mpr hi)
  · intro hfar
    rcases hbest : pickFrom p tolerance 0 none s.objects with _ | top
    · rfl
    · rw [hbest] at hscan
      obtain ⟨object, hmem, hnear, -⟩ := hscan
      cases (hfar object (List.mem_of_getElem? (List.mem_zipIdx_iff_getElem?.mp hmem))).symm.trans
        hnear

/-- **Picking agrees with drawing.**  Every object is drawn once, and above those that are drawn
before it: those of a lower layer, and those of its own layer with a lower index.  Nothing is picked
when no object is near the point, and otherwise it is what is drawn last of all that is near. -/
theorem picking_agrees_with_drawing (s : Scene) :
    s.painted.Perm s.objects.zipIdx ∧ s.painted.Pairwise Below ∧
    s.figures = s.painted.flatMap (·.1.figures) ∧
    ∀ p tolerance,
      (s.pick? p tolerance = none ↔ ∀ object ∈ s.objects, object.isNear p tolerance = false) ∧
      s.pick? p tolerance =
        (s.painted.filter (·.1.isNear p tolerance)).getLast?.map Prod.snd := by
  refine ⟨painted_perm s, pairwise_painted s, ?_, fun p tolerance => ⟨pick?_eq_none_iff, ?_⟩⟩
  · rw [figures, ← map_fst_painted, SceneObject.figuresAll_eq_flatMap, List.flatMap_map]
  · exact (isTopmost_pickFrom p tolerance s.objects).getLast?_painted.symm

/-- A label lies above what comes after it, and of two blockers the second one is on top. -/
example :
    let label : SceneObject := .label ⟨1.0, 0.0, "top", 24.0⟩
    let blocker : SceneObject := .blocker ⟨⟨0.0, 0.0⟩, ⟨2.0, 0.0⟩⟩
    let p : Point := ⟨1.0, 0.0⟩
    ({ empty with objects := [label, blocker, blocker] } : Scene).pick? p 0.5 = some 0 ∧
      ({ empty with objects := [blocker, blocker] } : Scene).pick? p 0.5 = some 1 := by
  decide +kernel

end Scene

end OpticScene
