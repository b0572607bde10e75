import OpticScene.Proofs.InstanceRecord
import OpticScene.Proofs.LoadedScene

/-!
# Modules that are defined anew

When a module gets another definition, its instances at the top level go on with the new one.  They
keep what still belongs to them: the values of the parameters that are still declared, and the
control points as far as there are any now.  A definition with fewer points may complete an instance
whose points were being placed; one with more points does not take a complete instance back, but
puts the points that are missing at the origin.

## Main definitions

* `Instance.GoesOn` — what an instance becomes with another definition.

## Main results

* `Instance.goesOn_rebound` — an instance with another definition keeps what belongs to it.
* `Instance.GoesOn.eq_rebound` — there is nothing else that it could become.
* `Scene.define_rebinds` — **a module that is defined anew changes its own instances and nothing
  else.**
-/

namespace OpticScene

open OpticScene.Random (Stream)
open OpticScene.Module (Definition Instance Library Placement)

/-- There are only two states of a placement. -/
theorem Module.Placement.eq_of_complete_iff {p q : Placement}
    (h : p = .complete ↔ q = .complete) : p = q := by
  cases p <;> cases q <;> simp only [reduceCtorEq, iff_true, iff_false, not_true] at h ⊢

namespace Module.Instance

variable {Obj : Type} {d : Definition} {inst inst' : Instance Obj}

/-! ### What is kept -/

/-- What an instance becomes with another definition. -/
structure GoesOn (d : Definition) (inst inst' : Instance Obj) : Prop where
  /-- It stays an instance of its module. -/
  moduleName : inst'.moduleName = inst.moduleName
  /-- It has the new definition. -/
  definition : inst'.definition = d
  /-- Its parameters are the declared ones, in the order of their declarations. -/
  names : Named.names inst'.params = d.declared
  /-- They keep their values, and new ones have their defaults. -/
  values : ∀ name, Named.get? name inst'.params =
    (Named.get? name d.defaults).map fun default => (Named.get? name inst.params).getD default
  /-- A complete instance stays complete.  Points that are too many go, and new ones are put at the
  origin. -/
  complete : inst.placement = .complete → inst'.placement = .complete ∧
    inst'.points.length = d.numPoints ∧
      ∀ i < d.numPoints, inst'.points[i]? = some (inst.points[i]?.getD .zero)
  /-- An instance that misses points keeps the first ones, and is complete if these are enough. -/
  collecting : inst.placement = .collecting →
    inst'.points = inst.points.take (min inst.points.length d.numPoints) ∧
      (inst'.placement = .complete ↔ min inst.points.length d.numPoints = d.numPoints)

theorem getElem?_resizePoints {n i : Nat} (h : i < n) (ps : List Point) :
    (resizePoints n ps)[i]? = some (ps[i]?.getD .zero) := by
  unfold resizePoints
  by_cases hi : i < ps.length
  · rw [List.getElem?_append_left (by rw [List.length_take]; omega), List.getElem?_take_of_lt h,
      List.getElem?_eq_getElem hi, Option.getD_some]
  · rw [List.getElem?_append_right (by rw [List.length_take]; omega),
      List.getElem?_replicate_of_lt (by rw [List.length_take]; omega),
      List.getElem?_eq_none (Nat.le_of_not_lt hi), Option.getD_none]

/-- **An instance with another definition keeps what belongs to it.** -/
theorem goesOn_rebound (hd : d.IsRead) (inst : Instance Obj) : GoesOn d inst (inst.rebound d) where
  moduleName := rfl
  definition := rfl
  names := (names_resolveParams d inst.params).trans hd.names_defaults
  values := get?_resolveParams d inst.params
  complete := by
    intro hp
    have hpoints : (inst.rebound d).points = resizePoints d.numPoints inst.points := by
      simp only [rebound, hp]
    refine ⟨if_neg fun h => ?_, ?_, fun i hi => ?_⟩
    · rw [hp] at h
      cases h.1
    · rw [hpoints, length_resizePoints]
    · rw [hpoints, getElem?_resizePoints hi]
  collecting := by
    intro hp
    have hlength : (inst.points.take d.numPoints).length = min inst.points.length d.numPoints := by
      rw [List.length_take, Nat.min_comm]
    constructor
    · simp only [rebound, hp]
      rw [← List.take_length (l := inst.points), List.take_take, List.take_length, Nat.min_comm]
    · rw [← hlength]
      simp [rebound, hp]

/-- An expansion changes only what follows from the rest. -/
theorem GoesOn.refresh (h : GoesOn d inst inst') (builder : Builder Obj) (s : Stream) :
    GoesOn d inst (inst'.refresh builder s).1 where
  moduleName := by rw [moduleName_refresh, h.moduleName]
  definition := by rw [definition_refresh, h.definition]
  names := by rw [params_refresh, h.names]
  values := by rw [params_refresh]; exact h.values
  complete := by rw [placement_refresh, points_refresh]; exact h.complete
  collecting := by rw [placement_refresh, points_refresh]; exact h.collecting

/-- **There is nothing else that it could become**, apart from its objects. -/
theorem GoesOn.eq_rebound (hd : d.IsRead) (h : GoesOn d inst inst') :
    inst' = (inst.rebound d).withObjects (inst'.objects, inst'.lastError) := by
  have hr := goesOn_rebound hd inst
  have hparams : inst'.params = (inst.rebound d).params := by
    refine Named.ext_get? (h.names.trans hr.names.symm) ?_ fun name => ?_
    · rw [h.names]
      exact hd.nodup_declared
    · rw [h.values, hr.values]
  have hrest : inst'.points = (inst.rebound d).points ∧
      inst'.placement = (inst.rebound d).placement := by
    cases hp : inst.placement with
    | collecting =>
      obtain ⟨hpoints, hplacement⟩ := h.collecting hp
      obtain ⟨hpoints', hplacement'⟩ := hr.collecting hp
      exact ⟨hpoints.trans hpoints'.symm,
        Placement.eq_of_complete_iff (hplacement.trans hplacement'.symm)⟩
    | complete =>
      obtain ⟨hplacement, hlength, hpoints⟩ := h.complete hp
      obtain ⟨hplacement', hlength', hpoints'⟩ := hr.complete hp
      refine ⟨List.ext_getElem? fun i => ?_, hplacement.trans hplacement'.symm⟩
      by_cases hi : i < d.numPoints
      · rw [hpoints i hi, hpoints' i hi]
      · rw [List.getElem?_eq_none (hlength ▸ Nat.le_of_not_lt hi),
          List.getElem?_eq_none (hlength' ▸ Nat.le_of_not_lt hi)]
  obtain ⟨name, definition, points, params, objects, lastError, placement⟩ := inst'
  obtain ⟨hpoints, hplacement⟩ := hrest
  obtain ⟨rfl, rfl⟩ : name = inst.moduleName ∧ definition = d := ⟨h.moduleName, h.definition⟩
  dsimp only at hparams hpoints hplacement
  rw [hparams, hpoints, hplacement]
  rfl

end Module.Instance

namespace Scene

/-! ### Scenes -/

theorem rebindNamed_of_eq {name : String} {inst : Instance SceneObject}
    (h : inst.moduleName = name) (d : Definition) (s : Scene) :
    rebindNamed name d s inst = (inst.rebound d).refresh s.builder := by
  rw [rebindNamed, if_pos h]
  exact funext fun u => Instance.rebind_eq _ d inst u

theorem rebindNamed_of_ne {name : String} {inst : Instance SceneObject}
    (h : inst.moduleName ≠ name) (d : Definition) (s : Scene) :
    rebindNamed name d s inst = pure inst := by
  rw [rebindNamed, if_neg h]

/-- **A module that is defined anew changes its own instances and nothing else.**  All other modules
and objects stay, and so do the types, the seed and the grid.  Each instance of the module at the
top level goes on with the new definition and is expanded with the new library, one after the
other. -/
theorem define_rebinds {s t : Scene} {name : String} {json : Json} {d : Definition}
    (h : s.run (define name json) = (.ok d, t)) :
    (∀ k, t.library.find? k = if k = name then some d else s.library.find? k) ∧
    t.library.names =
      (if name ∈ s.library.names then s.library.names else s.library.names ++ [name]) ∧
    t.registry = s.registry ∧ t.seed = s.seed ∧ t.gridSize = s.gridSize ∧
    t.objects.length = s.objects.length ∧
    ∃ u : Nat → Stream,
      ExceptT.run (Definition.ofRecord json) s.stream = (.ok d, u 0) ∧
      t.stream = u s.objects.length ∧
      ∀ i object, s.objects[i]? = some object →
        (∀ inst, object = .module inst → inst.moduleName = name →
          ∃ inst', t.objects[i]? = some (.module inst') ∧ inst.GoesOn d inst' ∧
            inst'.refresh t.builder (u i) = (inst', u (i + 1))) ∧
        ((∀ inst, object = .module inst → inst.moduleName ≠ name) →
          t.objects[i]? = some object ∧ u (i + 1) = u i) := by
  obtain ⟨v, hread, rfl⟩ := exists_of_run_define_eq_ok h
  have hd : d.IsRead := Definition.isRead_of_run hread
  let change := rebindNamed name d { s with library := s.library.insert name d, stream := v }
  refine ⟨fun k => ?_, Named.names_set .., rfl, rfl, rfl, length_mapInstances change s.objects v,
    streamAfter change s.objects v, hread, (streamAfter_length change s.objects v).symm, ?_⟩
  · exact (Library.find?_insert s.library name k d).trans (if_congr eq_comm rfl rfl)
  intro i object hi
  refine ⟨fun inst hobject hname => ?_, fun hother => ?_⟩
  · rw [hobject] at hi
    have hrebound : change inst = (inst.rebound d).refresh (s.defined name d v).builder :=
      rebindNamed_of_eq hname d _
    obtain ⟨hnew, hnext⟩ := getElem?_mapInstances (s := v) change hi
    rw [hrebound] at hnew hnext
    refine ⟨_, hnew, (Instance.goesOn_rebound hd inst).refresh _ _, ?_⟩
    rw [hnext]
    exact Instance.refresh_refresh ..
  · rcases ho : object.instance? with _ | inst
    · exact getElem?_mapInstances_plain change ho hi
    · obtain rfl := SceneObject.instance?_eq_some_iff.mp ho
      have hkept : change inst = pure inst := rebindNamed_of_ne (hother inst rfl) d _
      obtain ⟨hnew, hnext⟩ := getElem?_mapInstances (s := v) change hi
      rw [hkept] at hnew hnext
      exact ⟨hnew, hnext⟩

/-- A record that takes one parameter of a module away, and adds another one and a point. -/
def replacement : Json :=
  .object [("numPoints", .ofNat 2), ("params", .array [.string "b=0:1:9", .string "c=0:1:9"])]

/-- A complete instance stays complete when its module is given another point. -/
theorem define_rebinds_placement :
    ∃ d t inst', (empty.after (placement [.setParam 0 "b" 5.0])).run (define "m" replacement) =
        (.ok d, t) ∧
      t.objects[0]? = some (.module inst') ∧ inst'.definition = d ∧
      Named.names inst'.params = d.declared ∧ inst'.placement = .complete ∧
      inst'.points.length = d.numPoints := by
  have hread : (match (empty.after (placement [.setParam 0 "b" 5.0])).run
        (define "m" replacement) with
      | (.ok _, _) => true
      | (.error _, _) => false) = true := by
    decide +kernel
  have hplaced : ((empty.after (placement [.setParam 0 "b" 5.0])).objects[0]?.bind
      SceneObject.instance?).map (fun inst => (inst.moduleName, inst.placement)) =
        some ("m", .complete) := by
    decide +kernel
  rcases hrun : (empty.after (placement [.setParam 0 "b" 5.0])).run (define "m" replacement) with
    ⟨e | d, t⟩
  · rw [hrun] at hread
    cases hread
  obtain ⟨inst, hinst, hparts⟩ := Option.map_eq_some_iff.mp hplaced
  obtain ⟨object, hobject, hmodule⟩ := Option.bind_eq_some_iff.mp hinst
  obtain rfl := SceneObject.instance?_eq_some_iff.mp hmodule
  obtain ⟨hname, hcomplete⟩ := Prod.mk.inj hparts
  obtain ⟨-, -, -, -, -, -, u, -, -, hu⟩ := define_rebinds hrun
  obtain ⟨inst', hnew, hgoes, -⟩ := (hu 0 _ hobject).1 inst rfl hname
  obtain ⟨hdone, hlength, -⟩ := hgoes.complete hcomplete
  exact ⟨d, t, inst', rfl, hnew, hgoes.definition, hgoes.names, hdone, hlength⟩

end Scene

end OpticScene
