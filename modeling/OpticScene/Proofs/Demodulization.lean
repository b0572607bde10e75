import OpticScene.Proofs.Nesting
import OpticScene.Scene.View

/-!
# Taking instances apart

An instance that is taken apart leaves its objects in its place.  Light meets these and never the
instance, so it does not notice.  Some of them may be instances again, which were inside before and
can be taken apart now.  Each step takes one instance away for good, so it does not matter in which
order they go: after as many steps as there are instances at all depths, the objects that light
meets are all that is left.

## Main definitions

* `SceneObject.instanceCount`, `Scene.instanceCount` — the number of instances at all depths.
* `Scene.spliced` — a scene with other objects in the place of one of its own.
* `Scene.Demodulizes` — taking instances apart one after the other.

## Main results

* `Scene.run_demodulize_eq_ok` — which instances can be taken apart, and what this does.
* `Scene.Demodulizes.instanceCount_add` — **each step takes one instance away.**
* `Scene.demodulization_ends` — taking instances apart in any order ends with the objects that light
  meets.
-/

namespace OpticScene

open OpticScene.Module (Instance)

/-! ### Counting instances -/

namespace SceneObject

mutual

/-- The number of module instances in an object, at all depths. -/
def instanceCount : SceneObject → Nat
  | .mirror _ => 0
  | .blocker _ => 0
  | .label _ => 0
  | .module ⟨_, _, _, _, objects, _, _⟩ => instanceCountAll objects + 1

/-- The number of module instances in some objects, at all depths. -/
def instanceCountAll : List SceneObject → Nat
  | [] => 0
  | object :: objects => instanceCount object + instanceCountAll objects

end

theorem instanceCount_module (inst : Instance SceneObject) :
    instanceCount (.module inst) = instanceCountAll inst.objects + 1 := by
  cases inst
  rw [instanceCount]

theorem instanceCountAll_cons (object : SceneObject) (objects : List SceneObject) :
    instanceCountAll (object :: objects) = instanceCount object + instanceCountAll objects := by
  rw [instanceCountAll]

theorem instanceCountAll_append (objects objects' : List SceneObject) :
    instanceCountAll (objects ++ objects') =
      instanceCountAll objects + instanceCountAll objects' := by
  induction objects with
  | nil => rw [List.nil_append, instanceCountAll, Nat.zero_add]
  | cons object objects ih =>
    rw [List.cons_append, instanceCountAll_cons, instanceCountAll_cons, ih, Nat.add_assoc]

theorem instanceCount_of_plain {object : SceneObject} (h : object.instance? = none) :
    instanceCount object = 0 := by
  cases object with
  | module => cases h
  | _ => rw [instanceCount]

/-- There are no instances at all when there are none at the top level. -/
theorem instanceCountAll_eq_zero_iff {objects : List SceneObject} :
    instanceCountAll objects = 0 ↔ ∀ inst, .module inst ∉ objects := by
  induction objects with
  | nil => simp [instanceCountAll]
  | cons object objects ih =>
    rw [instanceCountAll_cons, Nat.add_eq_zero_iff, ih]
    rcases ho : object.instance? with _ | inst
    · have hne : ∀ inst, SceneObject.module inst ≠ object := by
        rintro inst rfl
        cases ho
      simp only [instanceCount_of_plain ho, true_and, List.mem_cons, hne, false_or]
    · obtain rfl := instance?_eq_some_iff.mp ho
      refine iff_of_false (fun h => ?_) fun h => h inst List.mem_cons_self
      rw [instanceCount_module] at h
      cases h.1

/-! ### Light -/

theorem optical_module (inst : Instance SceneObject) :
    optical (.module inst) = opticalAll inst.objects := by
  cases inst
  rw [optical]

theorem opticalAll_cons (object : SceneObject) (objects : List SceneObject) :
    opticalAll (object :: objects) = optical object ++ opticalAll objects := by
  rw [opticalAll]

theorem opticalAll_append (objects objects' : List SceneObject) :
    opticalAll (objects ++ objects') = opticalAll objects ++ opticalAll objects' := by
  induction objects with
  | nil => rw [List.nil_append, opticalAll, List.nil_append]
  | cons object objects ih =>
    rw [List.cons_append, opticalAll_cons, opticalAll_cons, ih, List.append_assoc]

theorem optical_of_plain {object : SceneObject} (h : object.instance? = none) :
    optical object = [object] := by
  cases object with
  | module => cases h
  | _ => rw [optical]

/-- Light meets all objects if there is no instance among them. -/
theorem opticalAll_of_plain {objects : List SceneObject} (h : ∀ inst, .module inst ∉ objects) :
    opticalAll objects = objects := by
  induction objects with
  | nil => rw [opticalAll]
  | cons object objects ih =>
    have hplain : object.instance? = none := by
      rcases ho : object.instance? with _ | inst
      · rfl
      · exact absurd (instance?_eq_some_iff.mp ho ▸ List.mem_cons_self) (h inst)
    have hrest : ∀ inst, .module inst ∉ objects :=
      fun inst hi => h inst (List.mem_cons_of_mem _ hi)
    rw [opticalAll_cons, optical_of_plain hplain, ih hrest, List.singleton_append]

end SceneObject

/-! ### One step -/

namespace Scene

open SceneObject

/-- The number of module instances in a scene, at all depths. -/
def instanceCount (s : Scene) : Nat := instanceCountAll s.objects

/-- The scene with other objects in the place of the one at an index. -/
def spliced (s : Scene) (index : Nat) (objects : List SceneObject) : Scene :=
  { s with objects := s.objects.take index ++ objects ++ s.objects.drop (index + 1) }

variable {s t u : Scene} {index n m : Nat} {inst : Instance SceneObject}

theorem objects_eq_of_getElem? (h : s.objects[index]? = some (.module inst)) :
    s.objects = s.objects.take index ++ .module inst :: s.objects.drop (index + 1) := by
  obtain ⟨hlt, hget⟩ := List.getElem?_eq_some_iff.mp h
  rw [← hget, List.getElem_cons_drop, List.take_append_drop]

/-- **Light does not notice when an instance gives way to its objects.** -/
theorem optical_spliced (h : s.objects[index]? = some (.module inst)) :
    (s.spliced index inst.objects).optical = s.optical := by
  unfold optical
  rw [objects_eq_of_getElem? h, opticalAll_append, opticalAll_cons, optical_module, spliced,
    opticalAll_append, opticalAll_append, List.append_assoc]

/-- **There is one instance less when an instance gives way to its objects.** -/
theorem instanceCount_spliced (h : s.objects[index]? = some (.module inst)) :
    (s.spliced index inst.objects).instanceCount + 1 = s.instanceCount := by
  unfold instanceCount
  rw [objects_eq_of_getElem? h, instanceCountAll_append, instanceCountAll_cons,
    instanceCount_module, spliced, instanceCountAll_append, instanceCountAll_append]
  omega

theorem run_demodulize_of_some (h : s.objects[index]? = some (.module inst)) :
    s.run (demodulize index) = (.ok inst.objects.length, s.spliced index inst.objects) := by
  change ExceptT.run (demodulize index) s = _
  rw [demodulize, run_bind_of_ok (run_instanceAt_of_some h)]
  rfl

/-- **Exactly the instances can be taken apart.** -/
theorem run_demodulize_eq_ok {k : Nat} :
    s.run (demodulize index) = (.ok k, t) ↔
      ∃ inst, s.objects[index]? = some (.module inst) ∧ k = inst.objects.length ∧
        t = s.spliced index inst.objects := by
  constructor
  · intro hrun
    by_cases h : ∃ inst, s.objects[index]? = some (.module inst)
    · obtain ⟨inst, h⟩ := h
      rw [run_demodulize_of_some h] at hrun
      cases hrun
      exact ⟨inst, h, rfl, rfl⟩
    · obtain ⟨e, he⟩ := run_instanceAt_of_ne (not_exists.mp h)
      have herror : s.run (demodulize index) = (.error e, s) := run_bind_of_error he
      rw [herror] at hrun
      cases hrun
  · rintro ⟨inst, h, rfl, rfl⟩
    exact run_demodulize_of_some h

/-! ### Many steps -/

/-- `Demodulizes n s t` says that taking apart `n` instances one after the other, in some order,
leads from `s` to `t`. -/
inductive Demodulizes : Nat → Scene → Scene → Prop
  /-- Nothing is taken apart. -/
  | nil (s : Scene) : Demodulizes 0 s s
  /-- First one instance is taken apart, then the others. -/
  | cons {n index k : Nat} {s t u : Scene} : s.run (demodulize index) = (.ok k, t) →
    Demodulizes n t u → Demodulizes (n + 1) s u

namespace Demodulizes

theorem optical_eq (h : Demodulizes n s t) : t.optical = s.optical := by
  induction h with
  | nil => rfl
  | cons hrun _ ih =>
    obtain ⟨inst, hi, -, rfl⟩ := run_demodulize_eq_ok.mp hrun
    rw [ih, optical_spliced hi]

/-- **Each step takes one instance away.** -/
theorem instanceCount_add (h : Demodulizes n s t) : t.instanceCount + n = s.instanceCount := by
  induction h with
  | nil => rfl
  | cons hrun _ ih =>
    obtain ⟨inst, hi, -, rfl⟩ := run_demodulize_eq_ok.mp hrun
    have hstep := instanceCount_spliced hi
    omega

theorem trans (h : Demodulizes n s t) (h' : Demodulizes m t u) : Demodulizes (n + m) s u := by
  induction h with
  | nil => rwa [Nat.zero_add]
  | cons hrun _ ih =>
    rw [Nat.add_right_comm]
    exact .cons hrun (ih h')

end Demodulizes

/-- There is a next step as long as an instance is left. -/
theorem exists_demodulizes (s : Scene) : ∃ t, Demodulizes s.instanceCount s t := by
  induction hn : s.instanceCount generalizing s with
  | zero => exact ⟨s, .nil s⟩
  | succ n ih =>
    have hsome : ∃ inst, .module inst ∈ s.objects := by
      refine Classical.byContradiction fun hnone => ?_
      have hzero := instanceCountAll_eq_zero_iff.mpr (not_exists.mp hnone)
      exact Nat.succ_ne_zero n (hn.symm.trans hzero)
    obtain ⟨inst, hi⟩ := hsome
    obtain ⟨index, hindex⟩ := List.mem_iff_getElem?.mp hi
    have hstep := instanceCount_spliced hindex
    obtain ⟨t, ht⟩ := ih (s.spliced index inst.objects) (by omega)
    exact ⟨t, .cons (run_demodulize_of_some hindex) ht⟩

/-- **Taking instances apart in any order ends with the objects that light meets.**  A step puts the
objects of an instance in its place and changes nothing else.  However many steps have been made,
light meets the same objects, and the steps go on until there have been as many as there were
instances at all depths; then and only then no instance is left. -/
theorem demodulization_ends (s : Scene) :
    (∀ index inst, s.objects[index]? = some (.module inst) →
      s.run (demodulize index) = (.ok inst.objects.length, s.spliced index inst.objects) ∧
        (s.spliced index inst.objects).optical = s.optical) ∧
    ∀ n t, Demodulizes n s t →
      t.optical = s.optical ∧
      n ≤ s.instanceCount ∧
      ((∀ inst, .module inst ∉ t.objects) ↔ n = s.instanceCount) ∧
      (n = s.instanceCount → t.objects = s.optical) ∧
      ∃ m u, Demodulizes m t u ∧ n + m = s.instanceCount := by
  refine ⟨fun index inst h => ⟨run_demodulize_of_some h, optical_spliced h⟩, fun n t h => ?_⟩
  have hcount := h.instanceCount_add
  have hends : (∀ inst, .module inst ∉ t.objects) ↔ n = s.instanceCount := by
    rw [← instanceCountAll_eq_zero_iff]
    change t.instanceCount = 0 ↔ _
    omega
  obtain ⟨u, hu⟩ := exists_demodulizes t
  refine ⟨h.optical_eq, by omega, hends, fun hn => ?_, t.instanceCount, u, hu, by omega⟩
  rw [← h.optical_eq]
  exact (opticalAll_of_plain (hends.mpr hn)).symm

/-- Two instances, one inside the other, are taken apart in two steps, and the label inside is
left. -/
theorem demodulization_ends_after_redefinition :
    let s := empty.after (redefinition ++ [.refresh])
    s.instanceCount = 2 ∧ s.optical.map SceneObject.tag = ["TextLabel"] ∧
      ∃ t, Demodulizes 2 s t ∧ t.objects = s.optical := by
  intro s
  have hcount : s.instanceCount = 2 := by decide +kernel
  have hoptical : s.optical.map SceneObject.tag = ["TextLabel"] := by decide +kernel
  obtain ⟨t, ht⟩ := exists_demodulizes s
  rw [hcount] at ht
  obtain ⟨-, -, -, hobjects, -⟩ := (demodulization_ends s).2 2 t ht
  exact ⟨hcount, hoptical, t, ht, hobjects hcount.symm⟩

end Scene

end OpticScene
