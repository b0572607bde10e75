import OpticScene.Proofs.Origin

/-!
# Current definitions

A module that is defined anew gives its definition to the instances at the top level.  Those inside
other instances keep the definition that they were expanded with until the instance around them is
expanded again; taking that instance apart puts them at the top level as they are.  This is the only
way in which an instance at the top level can have a definition that its module no longer has.

## Main definitions

* `Scene.IsCurrent` — the instances at the top level have the definitions of the library.
* `Scene.SplicesOutdated` — an operation takes an instance apart, and one of those inside has not
  the definition of the library.

## Main results

* `Scene.Effect.isCurrent_iff` — **one step keeps the definitions current unless it splices an
  outdated instance.**
* `Scene.not_splicesOutdated_refreshed` — after a refresh, no instance is outdated inside another.
* `Scene.isCurrent_along_run_iff` — the definitions are current all along a run exactly when no
  outdated instance is spliced.
-/

namespace OpticScene.Scene

open OpticScene.Module (Instance Library)

/-- The instances at the top level have the definitions that the library holds. -/
def IsCurrent (s : Scene) : Prop :=
  ∀ inst, .module inst ∈ s.objects → s.library.find? inst.moduleName = some inst.definition

/-- The operation takes an instance apart, and one that stands directly inside has not the
definition that the library holds. -/
def SplicesOutdated (s : Scene) (op : Operation) : Prop :=
  ∃ index outer inst, op = .demodulize index ∧ s.objects[index]? = some (.module outer) ∧
    .module inst ∈ outer.objects ∧ s.library.find? inst.moduleName ≠ some inst.definition

variable {s t : Scene} {op : Operation}

theorem not_splicesOutdated_of_ne (h : ∀ index, op ≠ .demodulize index) :
    ¬ SplicesOutdated s op := by
  rintro ⟨index, -, -, hop, -⟩
  exact h index hop

theorem Effect.isCurrent (h : Effect s op t) (hs : s.IsCurrent) (hop : ¬ SplicesOutdated s op) :
    t.IsCurrent := by
  intro inst hi
  rcases h.mem_cases hi with ⟨hi, hl⟩ | ⟨index, outer, rfl, ho, hi⟩ | ⟨core, u, horigin, rfl⟩
  · rw [hl]
    exact hs inst hi
  · have hlibrary : t.library = s.library := by
      rcases h.library_cases with hl | ⟨_, _, _, _, hdefine, -⟩
      · exact hl
      · cases hdefine
    rw [hlibrary]
    -- an instance that is lifted keeps its definition, whatever the library holds
    by_cases hd : s.library.find? inst.moduleName = some inst.definition
    · exact hd
    · exact absurd ⟨index, outer, inst, rfl, ho, hi, hd⟩ hop
  · rw [Instance.moduleName_refresh, Instance.definition_refresh]
    rcases horigin.find?_or_eq with hd | ⟨hl, old, ho, hname, hd⟩
    · exact hd
    · rw [hl, hname, hd]
      exact hs old ho

/-- An outdated instance that is spliced is outdated at the top level. -/
theorem not_isCurrent_of_splicesOutdated (h : SplicesOutdated s op) :
    ¬ (s.perform op).IsCurrent := by
  obtain ⟨index, outer, inst, rfl, ho, hi, hd⟩ := h
  rw [perform_demodulize_of_some ho]
  intro hcurrent
  exact hd (hcurrent inst (List.mem_append_left _ (List.mem_append_right _ hi)))

/-- **One step keeps the definitions current unless it splices an outdated instance.** -/
theorem Effect.isCurrent_iff (h : Effect s op (s.perform op)) (hs : s.IsCurrent) :
    (s.perform op).IsCurrent ↔ ¬ SplicesOutdated s op :=
  ⟨fun hcurrent hop => not_isCurrent_of_splicesOutdated hop hcurrent, h.isCurrent hs⟩

theorem IsStart.isCurrent (h : IsStart s) : s.IsCurrent := by
  refine h.of_loads (Q := IsCurrent) ?_ ?_
  · intro s ho _ inst hi
    rw [ho] at hi
    exact absurd hi List.not_mem_nil
  · intro s op hr hs hop
    refine (hr.effect op).isCurrent hs (not_splicesOutdated_of_ne fun index hdemodulize => ?_)
    rw [hdemodulize] at hop
    cases hop

/-- The definitions stay current as long as nothing is taken apart. -/
theorem IsCurrent.after (hr : Reachable s) (hs : s.IsCurrent) {ops : List Operation}
    (hops : ∀ op ∈ ops, ∀ index, op ≠ .demodulize index) : (s.after ops).IsCurrent := by
  induction ops generalizing s with
  | nil => exact hs
  | cons op ops ih =>
    rw [List.forall_mem_cons] at hops
    have hnext := (hr.effect op).isCurrent hs (not_splicesOutdated_of_ne hops.1)
    exact ih (.step op hr) hnext hops.2

/-- After a refresh, the instances inside others have the definitions of the library. -/
theorem find?_of_occurs_refreshed {seed : UInt64} {inst : Instance SceneObject} {depth : Nat}
    (h : SceneObject.Occurs inst (depth + 1) (s.refreshed seed).objects) :
    s.library.find? inst.moduleName = some inst.definition := by
  obtain ⟨outer, ho, hi⟩ := SceneObject.occurs_succ_iff.mp h
  obtain ⟨old, u, -, rfl⟩ := exists_of_mem_mapInstances ho
  obtain ⟨rest, -, hmade⟩ := Registry.makes_of_occurs hi
  exact hmade.find?

/-- **An instance that was just expanded can be taken apart safely.** -/
theorem not_splicesOutdated_refreshed (s : Scene) (seed : UInt64) (op : Operation) :
    ¬ SplicesOutdated (s.refreshed seed) op := by
  rintro ⟨index, outer, inst, -, ho, hi, hd⟩
  have hocc : SceneObject.Occurs inst 1 (s.refreshed seed).objects :=
    .inside (List.mem_of_getElem? ho) (.top hi)
  have hcurrent := find?_of_occurs_refreshed hocc
  exact hd hcurrent

/-- **The definitions are current all along a run exactly when no outdated instance is spliced.** -/
theorem isCurrent_along_run_iff (h : IsStart s) (ops : List Operation) :
    (∀ t ∈ s.moments ops, t.IsCurrent) ↔ ∀ p ∈ s.steps ops, ¬ SplicesOutdated p.1 p.2 :=
  forall_moments_iff (fun _ op hr hs => (hr.effect op).isCurrent_iff hs) ops (.start h) h.isCurrent

theorem isCurrent_along_redefinition :
    IsStart empty ∧ ∀ t ∈ empty.moments redefinition, t.IsCurrent := by
  have hstart : IsStart empty := .empty .standard 0
  refine ⟨hstart, (isCurrent_along_run_iff hstart redefinition).mpr fun p hp => ?_⟩
  refine not_splicesOutdated_of_ne fun index hop => ?_
  simp only [redefinition, steps, List.mem_cons, List.not_mem_nil, or_false] at hp
  rcases hp with rfl | rfl | rfl | rfl <;> cases hop

/-- Taking the instance apart after the run leaves an outdated one at the top level. -/
theorem not_forall_reachable_isCurrent : ¬ ∀ s, Reachable s → s.IsCurrent := by
  intro hall
  let s := empty.after (redefinition ++ [.demodulize 0])
  have hreachable : Reachable s := (Reachable.start (.empty .standard 0)).after _
  have hspliced : (s.objects[0]?.bind SceneObject.instance?).map
      (fun inst => (inst.moduleName, inst.definition.objs.length)) = some ("inner", 0) := by
    decide +kernel
  have hdefined : (s.library.find? "inner").map (fun d => d.objs.length) = some 1 := by
    decide +kernel
  obtain ⟨inst, hinst, hpair⟩ := Option.map_eq_some_iff.mp hspliced
  have ho := SceneObject.bind_instance?_eq_some_iff.mp hinst
  obtain ⟨hname, hlength⟩ := Prod.mk.inj hpair
  have hcurrent := hall s hreachable inst (List.mem_of_getElem? ho)
  rw [hname] at hcurrent
  rw [hcurrent, Option.map_some, hlength] at hdefined
  cases hdefined

end OpticScene.Scene
