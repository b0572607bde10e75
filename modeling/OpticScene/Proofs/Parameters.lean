import OpticScene.Proofs.Definition

/-!
# Parameters of instances

An instance that has all its control points is expanded with its parameters, and these should be the
ones that its definition declares.  Records, new definitions and edits of complete instances keep to
this.  The end of a placement does not: it gives an instance the defaults only if no parameter at
all has been set before.

## Main definitions

* `Instance.HasParams` — a complete instance has the parameters that its definition declares.
* `Scene.CompletesPartly` — an operation completes an instance of which some parameters have been
  set and others have not.

## Main results

* `Scene.Origin.hasParams` — **one step gives complete instances their parameters unless it
  completes an instance in part.**
* `Scene.hasParams_along_run_iff` — the same for a whole run, at any depth.
-/

namespace OpticScene

open OpticScene.Random (Stream)
open OpticScene.Module (Definition Instance Library)

namespace Module.Instance

/-- A complete instance has the parameters that its definition declares, each once and in order, and
all of them are bound where its templates are expanded. -/
structure HasParams (inst : Instance SceneObject) : Prop where
  /-- The parameters are the declared ones, in the order of their declarations. -/
  names_eq : inst.placement = .complete → Named.names inst.params = inst.definition.declared
  /-- None stands twice. -/
  nodup : inst.placement = .complete → (Named.names inst.params).Nodup
  /-- None is unbound. -/
  bound : inst.placement = .complete →
    ∀ name ∈ inst.definition.declared, (inst.bindings.get? name).isSome = true

/-- The parameters of an instance are bound. -/
theorem isSome_get?_bindings {Obj : Type} {inst : Instance Obj} {name : String}
    (h : name ∈ Named.names inst.params) : (inst.bindings.get? name).isSome = true := by
  have hnames := Named.names_map (fun _ x => Json.ofFloat x) inst.params
  refine (Bindings.isSome_get?_insertAll _ _ _).mpr (.inr ?_)
  refine (Bindings.isSome_get?_insertAll _ _ _).mpr (.inl ?_)
  rw [hnames]
  exact h

theorem HasParams.of_names {inst : Instance SceneObject} (hd : inst.definition.IsRead)
    (h : inst.placement = .complete → Named.names inst.params = inst.definition.declared) :
    inst.HasParams where
  names_eq := h
  nodup := fun hp => h hp ▸ hd.nodup_declared
  bound := fun hp _ hname => isSome_get?_bindings (h hp ▸ hname)

theorem HasParams.refresh {core : Instance SceneObject} (h : core.HasParams)
    (builder : Builder SceneObject) (s : Stream) : (core.refresh builder s).1.HasParams := by
  rw [refresh_eq]
  exact ⟨h.names_eq, h.nodup, h.bound⟩

theorem names_resolveParams (d : Definition) (given : Params) :
    Named.names (resolveParams d given) = Named.names d.defaults :=
  Named.names_map (fun name default => (Named.get? name given).getD default) d.defaults

theorem hasParams_core (fields : Fields) {d : Definition} (hd : d.IsRead) :
    (fields.core d : Instance SceneObject).HasParams := by
  refine .of_names hd fun hp => ?_
  have hdone : fields.notDone = false := by
    cases h : fields.notDone
    · rfl
    · simp [Fields.core, h] at hp
  change Named.names (fields.paramsFor d) = d.declared
  rw [← hd.names_defaults]
  unfold Fields.paramsFor
  split
  · exact names_resolveParams d _
  · rw [if_neg (by simp [hdone])]

theorem hasParams_begun (name : String) {d : Definition} (hd : d.IsRead) :
    (begun name d : Instance SceneObject).HasParams := by
  refine .of_names hd fun hp => ?_
  by_cases h : d.numPoints = 0
  · simp only [begun, h, if_true]
    exact hd.names_defaults
  · simp [begun, h] at hp

theorem hasParams_rebound {d : Definition} (hd : d.IsRead) (inst : Instance SceneObject) :
    (inst.rebound d).HasParams :=
  .of_names hd fun _ => (names_resolveParams d inst.params).trans hd.names_defaults

/-- A complete instance keeps its parameters when one of them gets another value. -/
theorem names_set_params {inst : Instance SceneObject} (h : inst.HasParams)
    (hd : inst.definition.IsRead) {name : String} (hname : inst.definition.declares name = true)
    (hp : inst.placement = .complete) (x : Float) :
    Named.names (Named.set name x inst.params) = inst.definition.declared := by
  have hmem := (hd.declares_iff name).mp hname
  rw [Named.names_set, h.names_eq hp, if_pos hmem]

end Module.Instance

theorem Registry.Makes.hasParams {registry : Registry} {library : Library}
    (hall : library.All Definition.IsRead) {levels : Nat} {inst : Instance SceneObject}
    (h : registry.Makes library levels inst) : inst.HasParams := by
  obtain ⟨fields, core, s, hcore, rfl⟩ := h
  obtain ⟨d, hd, -, rfl⟩ := Instance.ofFields_eq_ok.mp hcore
  exact (Instance.hasParams_core fields (hall _ _ hd)).refresh _ s

namespace Scene

/-- The complete instances have their parameters, at any depth. -/
def HasParams (s : Scene) : Prop :=
  ∀ inst depth, SceneObject.Occurs inst depth s.objects → inst.HasParams

/-- The operation places the last point of an instance, and some but not all of its parameters have
been set. -/
def CompletesPartly (s : Scene) (op : Operation) : Prop :=
  ∃ index p inst, op = .place index p ∧ s.objects[index]? = some (.module inst) ∧
    inst.placement = .collecting ∧ inst.lacksOne ∧ inst.params ≠ [] ∧
      Named.names inst.params ≠ inst.definition.declared

/-- The instance that an operation places a point of. -/
def placedInstance? (s : Scene) : Operation → Option (Instance SceneObject)
  | .place index _ => s.objects[index]?.bind SceneObject.instance?
  | _ => none

theorem completesPartly_iff (s : Scene) (op : Operation) :
    CompletesPartly s op ↔
      ((s.placedInstance? op).any fun inst =>
        inst.placement = .collecting ∧ inst.lacksOne ∧ Named.names inst.params ≠ [] ∧
          Named.names inst.params ≠ inst.definition.declared) = true := by
  simp only [Option.any_eq_true, decide_eq_true_eq, Named.names, ne_eq, List.map_eq_nil_iff]
  constructor
  · rintro ⟨index, p, inst, rfl, ho, h⟩
    exact ⟨inst, SceneObject.bind_instance?_eq_some_iff.mpr ho, h⟩
  · rintro ⟨inst, hinst, h⟩
    cases op with
    | place index p =>
      exact ⟨index, p, inst, rfl, SceneObject.bind_instance?_eq_some_iff.mp hinst, h⟩
    | _ => cases hinst

instance (s : Scene) (op : Operation) : Decidable (CompletesPartly s op) :=
  decidable_of_iff' _ (completesPartly_iff s op)

/-- Inside others there are only instances of records, so it is enough to look at the top level. -/
theorem Reachable.hasParams_iff {s : Scene} (h : Reachable s) :
    s.HasParams ↔ ∀ inst, .module inst ∈ s.objects → inst.HasParams := by
  constructor
  · intro hs inst hi
    exact hs inst 0 (.top hi)
  · intro hs inst depth hi
    cases hi with
    | top hi => exact hs inst hi
    | inside ho hi =>
      obtain ⟨library, levels, hall, -, hmade⟩ := (h.read.2 _ ho).makes_of_occurs hi
      exact hmade.hasParams hall

variable {s t : Scene} {op : Operation}

theorem hasParams_of_change {index : Nat} {edit : Instance.Edit}
    {old core : Instance SceneObject} (hop : op.editOf? s = some (index, edit))
    (ho : s.objects[index]? = some (.module old)) (hc : edit.change old = .ok core)
    (hd : old.definition.IsRead) (hs : old.HasParams) (hpartly : ¬ CompletesPartly s op) :
    core.HasParams := by
  rcases Instance.Edit.cases_of_change hc with ⟨p, rfl, hcollecting, rfl⟩ | ⟨delta, -, rfl⟩ |
    ⟨index, p, -, -, rfl⟩ | ⟨name, x, -, hname, rfl⟩
  · refine .of_names hd fun hp => ?_
    have hlast : old.lacksOne := by
      by_cases h : old.lacksOne
      · exact h
      · simp [Instance.placed, h] at hp
    -- the defaults are given only to an instance without any parameter
    change Named.names (if old.lacksOne ∧ old.params = [] then _ else _) = old.definition.declared
    by_cases hempty : old.params = []
    · rw [if_pos ⟨hlast, hempty⟩]
      exact hd.names_defaults
    · rw [if_neg fun h => hempty h.2]
      by_cases hnames : Named.names old.params = old.definition.declared
      · exact hnames
      · refine absurd ?_ hpartly
        cases op <;> cases hop
        exact ⟨_, _, old, rfl, ho, hcollecting, hlast, hempty, hnames⟩
  · exact .of_names hd hs.names_eq
  · exact .of_names hd hs.names_eq
  · exact .of_names hd fun hp => Instance.names_set_params hs hd hname hp x

/-- **One step gives complete instances their parameters unless it completes an instance in
part.** -/
theorem Origin.hasParams {library : Library} {core : Instance SceneObject}
    (h : Origin s op library core) (hr : Reachable s) (hs : s.HasParams)
    (hpartly : ¬ CompletesPartly s op) : core.HasParams := by
  obtain ⟨hall, hexpanded⟩ := hr.read
  cases h with
  | define hd => exact Instance.hasParams_rebound (Module.Definition.isRead_of_run hd) _
  | add hcore =>
    obtain ⟨d, hd, -, rfl⟩ := Instance.ofFields_eq_ok.mp hcore
    exact Instance.hasParams_core _ (hall _ _ hd)
  | beginPlacement hd => exact Instance.hasParams_begun _ (hall _ _ hd)
  | edit hop ho hc =>
    have hmem := List.mem_of_getElem? ho
    exact hasParams_of_change hop ho hc (hexpanded _ hmem).definition (hs _ 0 (.top hmem)) hpartly
  | refresh ho => exact hs _ 0 (.top ho)

theorem Reachable.hasParams_perform (h : Reachable s) (hs : s.HasParams)
    (hpartly : ¬ CompletesPartly s op) : (s.perform op).HasParams := by
  refine (Reachable.step op h).hasParams_iff.mpr fun inst hi => ?_
  rcases (h.effect op).mem_cases hi with ⟨hi, -⟩ | ⟨index, outer, -, ho, hi⟩ |
    ⟨core, u, horigin, rfl⟩
  · exact hs inst 0 (.top hi)
  · exact hs inst 1 (.inside (List.mem_of_getElem? ho) (.top hi))
  · exact (horigin.hasParams h hs hpartly).refresh _ u

/-- An instance that is completed in part stays without some of its parameters. -/
theorem Reachable.not_hasParams_of_completesPartly (h : Reachable s)
    (hpartly : CompletesPartly s op) : ¬ (s.perform op).HasParams := by
  obtain ⟨index, p, inst, rfl, ho, hcollecting, hlast, hempty, hnames⟩ := hpartly
  have hchange : (Instance.Edit.place (s.snapped p)).change inst =
      .ok (inst.placed (s.snapped p)) := by
    simp only [Instance.Edit.change, hcollecting]
  rw [perform_editOf_of_ok rfl ho (h.tidy inst (List.mem_of_getElem? ho)) hchange]
  intro hs
  have hlt : index < s.objects.length := (List.getElem?_eq_some_iff.mp ho).1
  have hparams := hs _ 0 (.top (List.mem_set hlt _))
  have hwrong := hparams.names_eq (by simp [Instance.placed, hlast])
  rw [Instance.params_refresh, Instance.definition_refresh] at hwrong
  -- some parameters were set, so the last point has not given the defaults
  simp only [Instance.placed, hempty, and_false, if_false] at hwrong
  exact hnames hwrong

theorem IsStart.hasParams (h : IsStart s) : s.HasParams := by
  refine h.of_loads (Q := HasParams) ?_ ?_
  · intro s ho _ inst depth hi
    rw [ho] at hi
    exact absurd hi SceneObject.not_occurs_nil
  · intro s op hr hs hop
    refine hr.hasParams_perform hs ?_
    rintro ⟨index, p, inst, rfl, -⟩
    cases hop

/-- **All along a run, complete instances have the parameters that they declare exactly when no
placement ends with only some of them set.** -/
theorem hasParams_along_run_iff (h : IsStart s) (ops : List Operation) :
    (∀ t ∈ s.moments ops, t.HasParams) ↔ ∀ p ∈ s.steps ops, ¬ CompletesPartly p.1 p.2 := by
  refine forall_moments_iff (fun s op hr hs => ?_) ops (.start h) h.hasParams
  constructor
  · intro hnext hpartly
    exact hr.not_hasParams_of_completesPartly hpartly hnext
  · exact hr.hasParams_perform hs

theorem hasParams_along_placement :
    IsStart empty ∧
      ∀ t ∈ empty.moments (placement [] ++ [.setParam 0 "b" 5.0]), t.HasParams := by
  have hstart : IsStart empty := .empty .standard 0
  exact ⟨hstart, (hasParams_along_run_iff hstart _).mpr (by decide +kernel)⟩

/-- Setting one of two parameters before the point is placed leaves the other one without a
value. -/
theorem not_forall_reachable_hasParams : ¬ ∀ s, Reachable s → s.HasParams := by
  intro hall
  let s := empty.after (placement [.setParam 0 "b" 5.0])
  have hreachable : Reachable s := (Reachable.start (.empty .standard 0)).after _
  have hplaced : (s.objects[0]?.bind SceneObject.instance?).map
      (fun inst => (inst.placement, Named.names inst.params, inst.definition.declared)) =
        some (.complete, ["b"], ["a", "b"]) := by
    decide +kernel
  obtain ⟨inst, hinst, hfields⟩ := Option.map_eq_some_iff.mp hplaced
  have ho := SceneObject.bind_instance?_eq_some_iff.mp hinst
  obtain ⟨hcomplete, hnames⟩ := Prod.mk.inj hfields
  obtain ⟨hparams, hdeclared⟩ := Prod.mk.inj hnames
  have heq := (hall s hreachable inst 0 (.top (List.mem_of_getElem? ho))).names_eq hcomplete
  rw [hparams, hdeclared] at heq
  exact absurd heq (by decide)

end Scene

end OpticScene
