import OpticScene.Proofs.IndependentEdits
import OpticScene.Proofs.InstanceRecord
import OpticScene.Proofs.NestedExpansion
import OpticScene.Proofs.Reports

/-!
# Two ways to place an instance

An instance can be placed by hand: its placement begins, its control points are placed one after the
other, the last of them completes it, and then its parameters are set one after the other.  Or it is
added as a whole, by a record with its points and with the values of its parameters.  The first way
expands the instance many times and from other places of the random stream, and it gives the
parameters their defaults before it changes them, while the second one fills up what the record does
not say.  After a refresh the two cannot be told apart.

Both ways only put one more instance at the end of the scene.  So what is kept along the way is how
that instance is made, and the refresh does not look at anything else.

## Main definitions

* `Instance.withPoints` — an instance after some of its control points have been placed.
* `Scene.Gains` — a scene is another one with one more instance.
* `Scene.placeByHand`, `Scene.placeByRecord` — the two ways.

## Main results

* `Scene.Gains.run_change` — an edit of the new instance changes how it is made.
* `Scene.Gains.refreshed_eq` — how the new instance is made decides what a refresh makes of it.
* `Scene.placeByHand_eq_placeByRecord` — **the two ways lead to the same scene**, and with another
  number of points the command that goes the first way fails.
-/

namespace OpticScene

open OpticScene.Random (Draws Stream)
open OpticScene.Module (Definition Instance Library Params Placement)

/-! ### Parameters -/

namespace Module.Instance

/-- **Of several values that a parameter is given, the last one counts.** -/
theorem get?_assigned (name : String) (values given : Params) :
    Named.get? name (assigned given values) =
      (Named.get? name values.reverse).or (Named.get? name given) := by
  induction values generalizing given with
  | nil => rfl
  | cons e values ih =>
    obtain ⟨k, x⟩ := e
    have hset : assigned given ((k, x) :: values) = assigned (Named.set k x given) values := rfl
    rw [hset, ih, Named.get?_set, List.reverse_cons, Named.get?_append, Option.or_assoc,
      Named.get?_cons, Named.get?_nil]
    split <;> rfl

/-- Parameters that have a value already keep their places. -/
theorem names_assigned {values given : Params}
    (h : ∀ e ∈ values, e.1 ∈ Named.names given) :
    Named.names (assigned given values) = Named.names given := by
  induction values generalizing given with
  | nil => rfl
  | cons e values ih =>
    rw [List.forall_mem_cons] at h
    have hset : Named.names (Named.set e.1 e.2 given) = Named.names given := by
      rw [Named.names_set, if_pos h.1]
    exact (ih (fun e' he' => hset ▸ h.2 e' he')).trans hset

/-- **Giving parameters their defaults and then other values is filling up what is given.** -/
theorem assigned_defaults {d : Definition} (hd : d.IsRead) {values given : Params}
    (hdeclared : ∀ e ∈ values, e.1 ∈ d.declared)
    (hgiven : ∀ name, Named.get? name given = Named.get? name values.reverse) :
    assigned d.defaults values = resolveParams d given := by
  have hnames : Named.names (assigned d.defaults values) = d.declared :=
    (names_assigned (hd.names_defaults.symm ▸ hdeclared)).trans hd.names_defaults
  refine Named.ext_get? ?_ (hnames ▸ hd.nodup_declared) fun name => ?_
  · rw [hnames, names_resolveParams, hd.names_defaults]
  rw [get?_assigned, get?_resolveParams, hgiven]
  rcases hvalue : Named.get? name values.reverse with _ | x
  · simp
  -- a parameter with a value is declared, so it has a default
  · have hmem := hdeclared _ (List.mem_reverse.mp (Named.mem_of_get?_eq_some hvalue))
    rw [← hd.names_defaults] at hmem
    obtain ⟨default, hdefault⟩ := Named.exists_get?_eq_some hmem
    rw [hdefault]
    rfl

/-! ### Control points -/

variable {Obj : Type} {name : String} {d : Definition} {ps : List Point}

/-- An instance of which some control points have been placed, and nothing else. -/
def withPoints (name : String) (d : Definition) (ps : List Point) : Instance Obj where
  moduleName := name
  definition := d
  points := ps
  params := if d.numPoints ≤ ps.length then d.defaults else []
  objects := []
  lastError := none
  placement := if d.numPoints ≤ ps.length then .complete else .collecting

theorem begun_eq_withPoints (name : String) (d : Definition) :
    (begun name d : Instance Obj) = withPoints name d [] := by
  simp only [begun, withPoints, List.length_nil, Nat.le_zero]

/-- Points can be placed as long as some are missing. -/
theorem change_place_withPoints (h : ps.length < d.numPoints) (p : Point) :
    Edit.change (withPoints name d ps : Instance Obj) (.place p) =
      .ok (withPoints name d (ps ++ [p])) := by
  have hmissing : ¬ d.numPoints ≤ ps.length := Nat.not_le_of_lt h
  simp [Edit.change, withPoints, placed, lacksOne, hmissing]

theorem change_place_withPoints_of_le (h : d.numPoints ≤ ps.length) (p : Point) :
    Edit.change (withPoints name d ps : Instance Obj) (.place p) = .error .placementComplete := by
  simp [Edit.change, withPoints, h]

end Module.Instance

namespace Scene

/-! ### One more instance -/

/-- The second scene is the first one with an instance at the end that is made like this.  What the
instance has been expanded to does not matter, nor do the draws for it. -/
def Gains (s : Scene) (core : Instance SceneObject) (t : Scene) : Prop :=
  ∃ found u, t = { s with objects := s.objects ++ [.module (core.withObjects found)], stream := u }

namespace Gains

variable {s t : Scene} {core core' : Instance SceneObject} {edit : Instance.Edit}

theorem of_refresh (s : Scene) (core : Instance SceneObject) (u : Stream) :
    s.Gains core { s with
      objects := s.objects ++ [.module (core.refresh s.builder u).1]
      stream := (core.refresh s.builder u).2 } := by
  rw [Instance.refresh_eq]
  exact ⟨_, _, rfl⟩

theorem exists_getElem? (h : s.Gains core t) :
    ∃ found, t.objects[s.objects.length]? = some (.module (core.withObjects found)) := by
  obtain ⟨found, u, rfl⟩ := h
  exact ⟨found, List.getElem?_concat_length⟩

theorem snapped_eq (h : s.Gains core t) (p : Point) : t.snapped p = s.snapped p := by
  obtain ⟨found, u, rfl⟩ := h
  rfl

/-- **An edit of the new instance changes how it is made.** -/
theorem run_change (h : s.Gains core t) (hc : edit.change core = .ok core')
    (change : Scene → Instance SceneObject → Draws SceneError (Instance SceneObject))
    (hchange : ∀ inst, change t inst = edit.apply t.builder inst) :
    ∃ inst t', ExceptT.run (changeInstance s.objects.length change) t = (.ok inst, t') ∧
      s.Gains core' t' := by
  obtain ⟨found, hi⟩ := h.exists_getElem?
  obtain ⟨_, u, rfl⟩ := h
  have hmade : edit.change (core.withObjects found) = .ok (core'.withObjects found) := by
    rw [Instance.change_withObjects, hc]
    rfl
  obtain ⟨found', v, hrun⟩ := Instance.exists_run_apply _ hmade u
  rw [← hchange] at hrun
  refine ⟨_, _, run_changeInstance_of_ok hi hrun, found', v, ?_⟩
  simp

/-- An edit that is refused leaves the scene alone. -/
theorem run_change_of_error (h : s.Gains core t) {e : SceneError}
    (hc : edit.change core = .error e)
    (change : Scene → Instance SceneObject → Draws SceneError (Instance SceneObject))
    (hchange : ∀ inst, change t inst = edit.apply t.builder inst) :
    ExceptT.run (changeInstance s.objects.length change) t = (.error e, t) := by
  obtain ⟨found, hi⟩ := h.exists_getElem?
  have hmade : edit.change (core.withObjects found) = .error e := by
    rw [Instance.change_withObjects, hc]
    rfl
  have hrun := Instance.run_apply_of_error t.builder hmade t.stream
  rw [← hchange] at hrun
  exact run_changeInstance_of_error hi hrun

/-- **How the new instance is made decides what a refresh makes of it.** -/
theorem refreshed_eq (h : s.Gains core t) :
    t.refreshed t.seed =
      ({ s with objects := s.objects ++ [.module core] } : Scene).refreshed s.seed := by
  obtain ⟨found, u, rfl⟩ := h
  have hagrees : AgreesWith
      { s with objects := s.objects ++ [.module (core.withObjects found)], stream := u }
      { s with objects := s.objects ++ [.module core] } :=
    ⟨fun _ => rfl, fun _ => rfl, by rw [List.map_append, List.map_append]; rfl⟩
  obtain ⟨hobjects, hstream⟩ := hagrees.refreshed s.seed
  exact congrArg₂ (fun objects stream => ({ s with objects, stream } : Scene)) hobjects hstream

/-! ### Placing by hand -/

variable {name : String} {d : Definition} {ps : List Point}

/-- No more points than are missing are placed one after the other. -/
theorem run_placeAll (h : s.Gains (Instance.withPoints name d ps) t) (qs : List Point)
    (hle : ps.length + qs.length ≤ d.numPoints) :
    ∃ t', ExceptT.run (CommandLine.placeAll s.objects.length qs) t = (.ok (), t') ∧
      s.Gains (Instance.withPoints name d (ps ++ qs.map s.snapped)) t' := by
  induction qs generalizing ps t with
  | nil => exact ⟨t, rfl, by rwa [List.map_nil, List.append_nil]⟩
  | cons q qs ih =>
    rw [List.length_cons] at hle
    obtain ⟨inst, t', hrun, hnext⟩ := h.run_change
      (Instance.change_place_withPoints (by omega) (t.snapped q))
      (fun t inst => inst.place t.builder (t.snapped q)) fun _ => rfl
    rw [h.snapped_eq] at hnext
    obtain ⟨t'', hrest, hlast⟩ := ih hnext (by simp; omega)
    have hplace : ExceptT.run (Scene.place s.objects.length q) t = (.ok inst.placement, t') :=
      run_bind_of_ok hrun
    refine ⟨t'', (run_bind_of_ok hplace).trans hrest, ?_⟩
    rwa [List.map_cons, ← List.singleton_append, ← List.append_assoc]

/-- A point too many is refused. -/
theorem run_placeAll_of_lt (h : s.Gains (Instance.withPoints name d ps) t) (qs : List Point)
    (hlt : d.numPoints < ps.length + qs.length) (hle : ps.length ≤ d.numPoints) :
    ∃ t', ExceptT.run (CommandLine.placeAll s.objects.length qs) t =
      (.error .placementComplete, t') := by
  induction qs generalizing ps t with
  | nil => exact absurd hlt (Nat.not_lt_of_le hle)
  | cons q qs ih =>
    rw [List.length_cons] at hlt
    rcases Nat.lt_or_ge ps.length d.numPoints with hmissing | hcomplete
    · obtain ⟨inst, t', hrun, hnext⟩ := h.run_change
        (Instance.change_place_withPoints hmissing (t.snapped q))
        (fun t inst => inst.place t.builder (t.snapped q)) fun _ => rfl
      obtain ⟨t'', hrest⟩ := ih hnext (by simp; omega) (by simp; omega)
      have hplace : ExceptT.run (Scene.place s.objects.length q) t = (.ok inst.placement, t') :=
        run_bind_of_ok hrun
      exact ⟨t'', (run_bind_of_ok hplace).trans hrest⟩
    · have hrun := h.run_change_of_error
        (Instance.change_place_withPoints_of_le hcomplete (t.snapped q))
        (fun t inst => inst.place t.builder (t.snapped q)) fun _ => rfl
      exact ⟨t, run_bind_of_error (run_bind_of_error hrun)⟩

/-- Declared parameters are set one after the other, and any other one is refused. -/
theorem run_setAll (h : s.Gains core t) (values : Params) :
    (∃ t', (∀ e ∈ values, core.definition.declares e.1 = true) ∧
      ExceptT.run (CommandLine.setAll s.objects.length values) t = (.ok (), t') ∧
        s.Gains { core with params := Instance.assigned core.params values } t') ∨
    ∃ e t', (∃ e ∈ values, core.definition.declares e.1 ≠ true) ∧
      ExceptT.run (CommandLine.setAll s.objects.length values) t = (.error e, t') := by
  induction values generalizing core t with
  | nil => exact .inl ⟨t, List.forall_mem_nil _, rfl, h⟩
  | cons entry values ih =>
    obtain ⟨k, x⟩ := entry
    by_cases hk : core.definition.declares k = true
    · have hc : Instance.Edit.change core (.setParam k x) =
          .ok { core with params := Named.set k x core.params } := if_pos hk
      obtain ⟨inst, t', hrun, hnext⟩ := h.run_change hc
        (fun t inst => inst.setParam t.builder k x) fun _ => rfl
      have hset : ExceptT.run (Scene.setParam s.objects.length k x) t = (.ok (), t') :=
        run_bind_of_ok hrun
      rcases ih hnext with ⟨t'', hall, hrest, hlast⟩ | ⟨e, t'', ⟨e', he', hnot⟩, hrest⟩
      · exact .inl ⟨t'', List.forall_mem_cons.mpr ⟨hk, hall⟩, (run_bind_of_ok hset).trans hrest,
          hlast⟩
      · exact .inr ⟨e, t'', ⟨e', List.mem_cons_of_mem _ he', hnot⟩,
          (run_bind_of_ok hset).trans hrest⟩
    · have hc : Instance.Edit.change core (.setParam k x) =
          .error (.unknownParameter core.moduleName k) := if_neg hk
      have hrun := h.run_change_of_error hc
        (fun t inst => inst.setParam t.builder k x) fun _ => rfl
      exact .inr ⟨_, t, ⟨(k, x), List.mem_cons_self, hk⟩,
        run_bind_of_error (run_bind_of_error hrun)⟩

/-- A refresh expands the new instance. -/
theorem exists_getElem?_refreshed (h : s.Gains core t) :
    ∃ u, (t.refreshed t.seed).objects[s.objects.length]? =
      some (.module (core.refresh s.builder u).1) := by
  rw [h.refreshed_eq]
  exact exists_getElem?_mapInstances List.getElem?_concat_length

end Gains

/-! ### The two ways -/

/-- Places an instance point by point, sets its parameters, and refreshes the scene. -/
def placeByHand (name : String) (points : List Point) (values : Params) : Edit Nat := do
  let index ← beginPlacement name
  CommandLine.placeAll index points
  CommandLine.setAll index values
  refresh
  return index

/-- Adds an instance by its record, and refreshes the scene. -/
def placeByRecord (record : Json) : Edit Nat := do
  let index ← add record
  refresh
  return index

/-- The record of an instance with all its points. -/
def placementRecord (name : String) (points : List Point) (given : Params) : Json :=
  Record.tagged Instance.tag
    [("module", .string name), ("points", .array (points.map Record.ofPoint)),
      ("params", .object (given.map fun (k, x) => (k, .ofFloat x)))]

variable {s t : Scene} {name : String} {d : Definition} {points : List Point}
  {values given : Params}

/-- A new instance begins without points. -/
theorem exists_run_beginPlacement (hfind : s.library.find? name = some d) :
    ∃ t, ExceptT.run (beginPlacement name) s = (.ok s.objects.length, t) ∧
      s.Gains (Instance.withPoints name d []) t := by
  refine ⟨_, run_beginPlacement_of_some hfind, ?_⟩
  rw [Instance.begun_eq_withPoints]
  exact .of_refresh s _ s.stream

/-- **An instance that is placed by hand has all that it was given.** -/
theorem exists_run_placeByHand (hd : d.IsRead) (hfind : s.library.find? name = some d)
    (hlength : points.length = d.numPoints) (hdeclared : ∀ e ∈ values, e.1 ∈ d.declared) :
    ∃ t, ExceptT.run (placeByHand name points values) s =
        (.ok s.objects.length, t.refreshed t.seed) ∧
      s.Gains { Instance.withPoints name d (points.map s.snapped) with
        params := Instance.assigned d.defaults values } t := by
  obtain ⟨t₁, hbegin, hgains⟩ := exists_run_beginPlacement hfind
  obtain ⟨t₂, hplace, hgains⟩ := hgains.run_placeAll points (by simp [hlength])
  obtain ⟨t₃, -, hset, hgains⟩ := (hgains.run_setAll values).resolve_right (by
    rintro ⟨_, _, ⟨e, he, hnot⟩, -⟩
    exact hnot ((hd.declares_iff e.1).mpr (hdeclared e he)))
  refine ⟨t₃, ?_, ?_⟩
  · rw [placeByHand, run_bind_of_ok hbegin, run_bind_of_ok hplace, run_bind_of_ok hset,
      run_bind_of_ok (run_refresh t₃)]
    rfl
  -- the last point has given the parameters their defaults
  · have hparams : (Instance.withPoints name d ([] ++ points.map s.snapped) :
        Instance SceneObject).params = d.defaults :=
      if_pos (by simp [hlength])
    rwa [hparams, List.nil_append] at hgains

/-- An instance that is added has its points and what is given of its parameters. -/
theorem exists_run_add (htag : s.registry.find? Instance.tag = some .module)
    (hfind : s.library.find? name = some d) (hlength : points.length = d.numPoints)
    (hpoints : ∀ p ∈ points, p.isFinite = true) (hgiven : ∀ e ∈ given, e.2.isFinite = true) :
    ∃ t, ExceptT.run (add (placementRecord name points given)) s = (.ok s.objects.length, t) ∧
      s.Gains { Instance.withPoints name d points with params := Instance.resolveParams d given }
        t := by
  let saved : Instance SceneObject := ⟨name, d, points, given, [], none, .complete⟩
  have hfinite : saved.isFinite = true :=
    Bool.and_eq_true_iff.mpr ⟨List.all_eq_true.mpr hpoints, List.all_eq_true.mpr hgiven⟩
  have hplaced : saved.HasPoints := ⟨fun _ => hlength, fun h => nomatch h⟩
  have hfields : (Instance.ofFields s.library saved.fields :
      Except SceneError (Instance SceneObject)) = .ok (saved.fields.core d) :=
    Instance.ofFields_eq_ok.mpr ⟨d, hfind, hplaced.fits rfl rfl, rfl⟩
  have hcore : (saved.fields.core d : Instance SceneObject) =
      { Instance.withPoints name d points with params := Instance.resolveParams d given } := by
    simp only [Instance.withPoints, hlength, Nat.le_refl, if_true]
    rfl
  have hmade : ExceptT.run
      (s.registry.instantiate s.library Module.maxDepth (placementRecord name points given))
        s.stream = (.ok (.module ((saved.fields.core d).refresh s.builder s.stream).1),
          ((saved.fields.core d).refresh s.builder s.stream).2) := by
    have hrecord : placementRecord name points given = saved.toRecord := rfl
    rw [hrecord, Registry.instantiate_of_tag rfl htag,
      Registry.run_make_module (Instance.decode_toRecord hfinite), Registry.ofReadFields, hfields]
    rfl
  refine ⟨_, run_add_of_ok hmade, ?_⟩
  rw [← hcore]
  exact .of_refresh s _ s.stream

/-- **An instance that is added has all that was given for it**, and its defaults for the rest. -/
theorem exists_run_placeByRecord (htag : s.registry.find? Instance.tag = some .module)
    (hfind : s.library.find? name = some d) (hlength : points.length = d.numPoints)
    (hpoints : ∀ p ∈ points, p.isFinite = true) (hgiven : ∀ e ∈ given, e.2.isFinite = true) :
    ∃ t, ExceptT.run (placeByRecord (placementRecord name points given)) s =
        (.ok s.objects.length, t.refreshed t.seed) ∧
      s.Gains { Instance.withPoints name d points with params := Instance.resolveParams d given }
        t := by
  obtain ⟨t, hadd, hgains⟩ := exists_run_add htag hfind hlength hpoints hgiven
  refine ⟨t, ?_, hgains⟩
  rw [placeByRecord, run_bind_of_ok hadd, run_bind_of_ok (run_refresh t)]
  rfl

end Scene

/-! ### The command -/

namespace CommandLine

variable {options : ExpandOptions} {name : String} {json : Json} {d : Definition} {u : Stream}

/-- The command places an instance by hand. -/
theorem placeModule_eq (options : ExpandOptions) (name : String) (json : Json) :
    placeModule options name json = (do
      Scene.setGrid options.grid
      let _ ← Scene.define name json
      let index ← Scene.placeByHand name options.points options.params
      Scene.instanceAt index) := by
  simp [placeModule, Scene.placeByHand]

/-- An instance is not completed by another number of points than its module has. -/
theorem placement_of_run_placeByHand {s t : Scene} {index : Nat}
    {points : List Point} {values : Params} (hfind : s.library.find? name = some d)
    (hne : points.length ≠ d.numPoints)
    (h : ExceptT.run (Scene.placeByHand name points values) s = (.ok index, t)) :
    ∃ inst, t.objects[index]? = some (.module inst) ∧ inst.placement = .collecting := by
  obtain ⟨t₁, hbegin, hgains⟩ := Scene.exists_run_beginPlacement hfind
  rw [Scene.placeByHand, run_bind_of_ok hbegin] at h
  rcases Nat.lt_or_gt_of_ne hne with hlt | hgt
  · obtain ⟨t₂, hplace, hgains⟩ := hgains.run_placeAll points (by simp; omega)
    rw [run_bind_of_ok hplace] at h
    rcases hgains.run_setAll values with ⟨t₃, -, hset, hgains⟩ | ⟨e, t₃, -, hset⟩
    · rw [run_bind_of_ok hset, run_bind_of_ok (Scene.run_refresh t₃)] at h
      cases h
      obtain ⟨v, hobject⟩ := hgains.exists_getElem?_refreshed
      refine ⟨_, hobject, ?_⟩
      rw [Instance.placement_refresh]
      simp [Instance.withPoints, hlt]
    · rw [run_bind_of_error hset] at h
      cases h
  · obtain ⟨t₂, hplace⟩ := hgains.run_placeAll_of_lt points (by simp; omega) (Nat.zero_le _)
    rw [run_bind_of_error hplace] at h
    cases h

/-- With another number of points than the module has, there are no records. -/
theorem expandedRecords_of_length_ne
    (hread : ExceptT.run (Definition.ofRecord json) (.ofSeed options.seed) = (.ok d, u))
    (hne : options.points.length ≠ d.numPoints) :
    ∃ failure, expandedRecords options name json = .error failure := by
  rw [expandedRecords]
  rcases hrun : (Scene.withSeed options.seed).run (placeModule options name json) with ⟨e | inst, t⟩
  · exact ⟨_, rfl⟩
  change ExceptT.run (placeModule options name json) (Scene.withSeed options.seed) = _ at hrun
  rw [placeModule_eq, Scene.setGrid, run_bind_of_ok (run_modify _ _),
    run_bind_of_ok (Scene.run_define_of_ok hread name)] at hrun
  obtain ⟨index, t', hplaced, hlast⟩ := run_bind_eq_ok.mp hrun
  obtain ⟨inst', hobject, hcollecting⟩ :=
    placement_of_run_placeByHand (Library.find?_insert_self _ name d) hne hplaced
  rw [Scene.run_instanceAt_of_some hobject] at hlast
  cases hlast
  simp only [instanceRecords, hcollecting]
  exact ⟨_, rfl⟩

/-- Without records, the command prints nothing but an error. -/
theorem outcome_expandPlan_of_error {read : String → Except FileError String}
    (write : String → String → Except FileError Unit) {contents : String}
    (hfile : read options.modulePath = .ok contents) (hparse : Json.parse contents = .ok json)
    (h : ∀ name, ∃ failure, expandedRecords options name json = .error failure) :
    ∃ failure, (expandPlan options).outcome read write = .ofText (.error failure) := by
  unfold expandPlan readJson
  rcases options.name.or (moduleName? options.modulePath) with _ | name
  · exact ⟨_, rfl⟩
  · obtain ⟨failure, hfailure⟩ := h name
    refine ⟨failure, ?_⟩
    simp only [Plan.outcome, hfile, hparse, hfailure]
    rfl

end CommandLine

namespace Scene

variable {s : Scene} {name : String} {d : Definition} {points : List Point}
  {values given : Params}

/-- **Placing an instance by hand is adding it by its record.**  If as many points are placed as the
module has, and declared parameters are set to finite numbers, then both ways lead to the same scene
after a refresh: with the same instance, the same objects inside it at every depth, and the same
error if there is one.  Each parameter has the last value that was assigned to it, or its default.
The command that expands a module goes the first way, and with any other number of points it prints
no records. -/
theorem placeByHand_eq_placeByRecord :
    (∀ {s : Scene} {name : String} {d : Definition} {points : List Point} {values given : Params},
      s.registry.find? Instance.tag = some .module → s.library.find? name = some d → d.IsRead →
      points.length = d.numPoints → (∀ p ∈ points, (s.snapped p).isFinite = true) →
      (∀ e ∈ values, e.1 ∈ d.declared ∧ e.2.isFinite = true) → (Named.names given).Nodup →
      (∀ k, Named.get? k given = Named.get? k values.reverse) →
      ∃ t, s.run (placeByHand name points values) = (.ok s.objects.length, t) ∧
        s.run (placeByRecord (placementRecord name (points.map s.snapped) given)) =
          (.ok s.objects.length, t) ∧
        ∃ inst, t.objects[s.objects.length]? = some (.module inst) ∧
          inst.moduleName = name ∧ inst.definition = d ∧ inst.placement = .complete ∧
          inst.points = points.map s.snapped ∧ Named.names inst.params = d.declared ∧
          ∀ k, Named.get? k inst.params =
            (Named.get? k d.defaults).map fun default =>
              (Named.get? k values.reverse).getD default) ∧
    ∀ (options : CommandLine.ExpandOptions) (json : Json),
      (∀ name, CommandLine.placeModule options name json = do
        setGrid options.grid
        let _ ← define name json
        let index ← placeByHand name options.points options.params
        instanceAt index) ∧
      ∀ (d : Definition) (u : Stream),
        ExceptT.run (Definition.ofRecord json) (.ofSeed options.seed) = (.ok d, u) →
        options.points.length ≠ d.numPoints → ∀ read write contents,
          read options.modulePath = .ok contents → Json.parse contents = .ok json →
            ((CommandLine.expandPlan options).outcome read write).code = 1 ∧
              ((CommandLine.expandPlan options).outcome read write).stdout = "" := by
  constructor
  · intro s name d points values given htag hfind hd hlength hpoints hvalues hnodup hgiven
    have hdeclared : ∀ e ∈ values, e.1 ∈ d.declared := fun e he => (hvalues e he).1
    have hfinite : ∀ e ∈ given, e.2.isFinite = true := by
      rintro ⟨k, x⟩ he
      have hlast := (hgiven k).symm.trans (Named.get?_of_mem he hnodup)
      exact (hvalues _ (List.mem_reverse.mp (Named.mem_of_get?_eq_some hlast))).2
    obtain ⟨t, hhand, hgains⟩ := exists_run_placeByHand hd hfind hlength hdeclared
    obtain ⟨t', hrecord, hgains'⟩ := exists_run_placeByRecord htag hfind
      (by rw [List.length_map, hlength]) (List.forall_mem_map.mpr hpoints) hfinite
    -- in the end the new instance is made in the same way
    rw [Instance.assigned_defaults hd hdeclared hgiven] at hgains
    have hsame : t.refreshed t.seed = t'.refreshed t'.seed :=
      hgains.refreshed_eq.trans hgains'.refreshed_eq.symm
    rw [← hsame] at hrecord
    obtain ⟨u, hobject⟩ := hgains.exists_getElem?_refreshed
    refine ⟨_, hhand, hrecord, _, hobject, ?_⟩
    rw [Instance.moduleName_refresh, Instance.definition_refresh, Instance.placement_refresh,
      Instance.points_refresh, Instance.params_refresh]
    refine ⟨rfl, rfl, if_pos (by simp [hlength]), rfl, ?_, fun k => ?_⟩
    · exact (Instance.names_resolveParams d given).trans hd.names_defaults
    · rw [Instance.get?_resolveParams, hgiven]
  · intro options json
    refine ⟨fun name => CommandLine.placeModule_eq options name json, ?_⟩
    intro d u hread hne read write contents hfile hparse
    obtain ⟨failure, houtcome⟩ := CommandLine.outcome_expandPlan_of_error write hfile hparse
      fun _ => CommandLine.expandedRecords_of_length_ne hread hne
    rw [houtcome]
    exact ⟨rfl, rfl⟩

/-- A module with a label whose place depends on the control point and on two parameters. -/
def labelled : Json :=
  .object
    [("numPoints", .ofNat 1), ("params", .array [.string "a=1:1:9", .string "b=0:1:9"]),
      ("objs",
        .array
          [.object
            [("type", .string "TextLabel"), ("x", .string "\x60x_1 + a\x60"),
              ("y", .string "\x60y_1 * b\x60")]])]

/-- A scene with a grid and with that module. -/
def gridded : Scene := (empty.perform (.setGrid (some 0.5))).perform (.define "m" labelled)

/-- The command to expand that module with a point too many. -/
def onePointTooMany : CommandLine.ExpandOptions :=
  ⟨"m.json", none, [⟨1, 2⟩, ⟨3, 4⟩], [("b", 5)], 0, some 0.5, false⟩

theorem snapped_gridded : gridded.snapped ⟨1.2, 2.6⟩ = ⟨1, 2.5⟩ := by
  have hx : (gridded.snapped ⟨1.2, 2.6⟩).x = 1 := by decide +kernel
  have hy : (gridded.snapped ⟨1.2, 2.6⟩).y = 2.5 := by decide +kernel
  generalize gridded.snapped ⟨1.2, 2.6⟩ = p at hx hy ⊢
  exact congrArg₂ Point.mk hx hy

theorem exists_find?_gridded :
    ∃ d, gridded.library.find? "m" = some d ∧ d.IsRead ∧ d.numPoints = 1 ∧
      d.declared = ["a", "b"] := by
  have hchecks : (ExceptT.run (Definition.ofRecord labelled) (.ofSeed 0)).1.toOption.any
      (fun d => decide (d.numPoints = 1 ∧ d.declared = ["a", "b"])) = true := by
    decide +kernel
  obtain ⟨d, hrun, hd⟩ := exists_run_of_any hchecks
  have hdefined : gridded = (empty.perform (.setGrid (some 0.5))).defined "m" d _ :=
    perform_define_of_ok (s := empty.perform (.setGrid (some 0.5))) hrun "m"
  refine ⟨d, ?_, Definition.isRead_of_run hrun, of_decide_eq_true hd⟩
  rw [hdefined]
  exact Library.find?_insert_self Library.empty "m" d

/-- The text of the module is read as one that has one control point. -/
theorem exists_parse_labelled :
    ∃ json d u, Json.parse labelled.compact = .ok json ∧
      ExceptT.run (Definition.ofRecord json) (.ofSeed 0) = (.ok d, u) ∧ d.numPoints = 1 := by
  have hread : (Json.parse labelled.compact).toOption.any (fun json =>
      (ExceptT.run (Definition.ofRecord json) (.ofSeed 0)).1.toOption.any fun d =>
        decide (d.numPoints = 1)) = true := by
    decide +kernel
  rcases hparse : Json.parse labelled.compact with e | json
  · rw [hparse] at hread
    cases hread
  rw [hparse] at hread
  obtain ⟨d, hrun, hpoints⟩ := exists_run_of_any hread
  exact ⟨json, d, _, rfl, hrun, of_decide_eq_true hpoints⟩

/-- The point snaps to a grid, one of two parameters is set twice, and the label stands where they
say.  With a second point the command fails. -/
theorem placeByHand_eq_placeByRecord_onGrid :
    (∃ t, gridded.run (placeByHand "m" [⟨1.2, 2.6⟩] [("b", 4), ("b", 5)]) = (.ok 0, t) ∧
      gridded.run (placeByRecord (placementRecord "m" [⟨1, 2.5⟩] [("b", 5)])) = (.ok 0, t) ∧
      (t.objects.flatMap inside).map labelPosition? = [some (2, 12.5)]) ∧
    let outcome := (CommandLine.expandPlan onePointTooMany).outcome
      (fun _ => .ok labelled.compact) fun _ _ => .ok ()
    outcome.code = 1 ∧ outcome.stdout = "" := by
  obtain ⟨hroutes, hcommand⟩ := placeByHand_eq_placeByRecord
  constructor
  · obtain ⟨d, hfind, hd, hpoints, hdeclared⟩ := exists_find?_gridded
    have htag : gridded.registry.find? Instance.tag = some .module := by decide +kernel
    have hlength : [(⟨1.2, 2.6⟩ : Point)].length = d.numPoints := hpoints.symm
    have hfinite : ∀ p ∈ [(⟨1.2, 2.6⟩ : Point)], (gridded.snapped p).isFinite = true := by
      rw [List.forall_mem_singleton, snapped_gridded]
      decide +kernel
    have hvalues : ∀ e ∈ [("b", (4 : Float)), ("b", 5)],
        e.1 ∈ d.declared ∧ e.2.isFinite = true := by
      rw [hdeclared]
      decide +kernel
    have hnodup : (Named.names [("b", (5 : Float))]).Nodup := List.nodup_singleton "b"
    have hlast : ∀ k, Named.get? k [("b", (5 : Float))] =
        Named.get? k [("b", (4 : Float)), ("b", 5)].reverse := by
      intro k
      by_cases hk : "b" = k <;> simp [Named.get?, hk]
    obtain ⟨t, hhand, hrecord, -⟩ := hroutes htag hfind hd hlength hfinite hvalues hnodup hlast
    have hempty : gridded.objects.length = 0 := by decide +kernel
    rw [List.map_singleton, snapped_gridded, hempty] at hrecord
    rw [hempty] at hhand
    have hlabels : ((gridded.run (placeByHand "m" [⟨1.2, 2.6⟩]
        [("b", 4), ("b", 5)])).2.objects.flatMap inside).map labelPosition? =
          [some (2, 12.5)] := by
      decide +kernel
    rw [hhand] at hlabels
    exact ⟨t, hhand, hrecord, hlabels⟩
  · obtain ⟨json, d, u, hparse, hrun, hpoints⟩ := exists_parse_labelled
    have hne : onePointTooMany.points.length ≠ d.numPoints := by
      rw [hpoints]
      decide
    exact (hcommand onePointTooMany json).2 d u hrun hne _ _ _ rfl hparse

end Scene

end OpticScene
