import OpticScene.Proofs.ControlPoints
import OpticScene.Proofs.CurrentDefinitions
import OpticScene.Proofs.Definition
import OpticScene.Proofs.RecordRoundTrip
import OpticScene.Proofs.SteadyExpression

/-!
# Saving and loading

A document does not keep what the modules expand to, so loading it expands every instance.  This
starts from the seed, and so does a refresh; when reading the definitions draws nothing, the
instances come to the same places of the random stream in both cases, and the templates may draw as
they like.

## Main definitions

* `Definition.HasSteadyParams` — reading a definition draws nothing.
* `Scene.IsSettled` — the records of the objects say all that there is to say about them.

## Main results

* `Registry.run_instantiate_toRecord` — **an object comes back from its record as a refresh leaves
  it.**
* `Scene.ofDocument_toDocument` — saving and loading a settled scene is refreshing it.
-/

namespace OpticScene

open OpticScene.Random (Draws Steady Stream)
open OpticScene.Module (Builder Definition Instance Library)

/-! ### Definitions -/

namespace Module

/-- The random stream does not matter to the defaults of the parameters. -/
def Definition.HasSteadyParams (d : Definition) : Prop :=
  Steady (ExceptT.run (resolveDefaults [] d.params))

theorem steady_resolveDefaults : ∀ {descriptors : List String} (before : Params),
    (∀ e ∈ descriptors.flatMap Range.used, Expression.IsSteady e) →
      Steady (ExceptT.run (resolveDefaults before descriptors)) := by
  intro descriptors
  induction descriptors with
  | nil => intro before _; exact Random.steady_run_pure _
  | cons descriptor descriptors ih =>
    intro before h
    rw [List.flatMap_cons, List.forall_mem_append] at h
    refine ((Range.steady_parse _ h.1).adapt _).bind fun range => ?_
    split
    · exact (Random.steady_run_throw _).bind fun _ => ih _ h.2
    · exact ih _ h.2

/-- A definition whose descriptors have no calls is read without draws. -/
theorem Definition.hasSteadyParams_of_isArithmetic {d : Definition}
    (h : (d.params.flatMap Range.used).all Expression.isArithmetic = true) : d.HasSteadyParams :=
  steady_resolveDefaults [] fun e he =>
    Expression.isSteady_of_isArithmetic (List.all_eq_true.mp h e he)

/-- **A definition that was read comes back from its record**, at any place of the stream. -/
theorem Definition.IsRead.run_ofRecord_source {d : Definition} (h : d.IsRead)
    (hsteady : d.HasSteadyParams) (u : Stream) :
    ExceptT.run (ofRecord d.source) u = (.ok d, u) := by
  obtain ⟨s, t, hrun⟩ := h
  obtain ⟨record, hdecode, hloop, hdefaults, hrest⟩ := run_ofRecord_eq_ok.mp hrun
  have hparams : d.params = record.params := hrest.2.2.2.1
  unfold HasSteadyParams at hsteady
  rw [hparams] at hsteady
  exact run_ofRecord_eq_ok.mpr ⟨record, hdecode, hloop, hsteady.run_eq hdefaults u, hrest⟩

end Module

/-! ### Objects -/

/-- The object as a refresh leaves it. -/
def SceneObject.refresh (builder : Builder SceneObject) :
    SceneObject → StateM Stream SceneObject
  | .module inst => return .module (← inst.refresh builder)
  | object => return object

theorem SceneObject.refresh_module (builder : Builder SceneObject) (inst : Instance SceneObject)
    (s : Stream) :
    (SceneObject.module inst).refresh builder s =
      (.module (inst.refresh builder s).1, (inst.refresh builder s).2) := rfl

/-- The objects inside an instance do not show in its record. -/
theorem SceneObject.toRecord_refresh (builder : Builder SceneObject) (object : SceneObject)
    (s : Stream) : (object.refresh builder s).1.toRecord = object.toRecord := by
  cases object with
  | module inst =>
    rw [refresh_module, Instance.refresh_eq]
    rfl
  | _ => rfl

namespace Registry

theorem instantiate_tagged (library : Library) (levels : Nat) (kind : SceneObject.Kind)
    (fields : Record.Fields) :
    standard.instantiate library levels (Record.tagged kind.tag fields) =
      make library (standard.builder library levels) (Record.tagged kind.tag fields) kind := by
  cases kind <;> rfl

theorem run_instantiate_toRecord_module {library : Library} {inst : Instance SceneObject}
    (hfinite : inst.isFinite = true) (hpoints : inst.HasPoints)
    (hd : library.find? inst.moduleName = some inst.definition) (hread : inst.definition.IsRead)
    (hparams : Named.names inst.params = inst.definition.declared) (levels : Nat) (s : Stream) :
    ExceptT.run (standard.instantiate library levels inst.toRecord) s =
      (.ok (.module (inst.refresh (standard.builder library levels) s).1),
        (inst.refresh (standard.builder library levels) s).2) := by
  have hcore : (Instance.ofFields library inst.fields : Except SceneError (Instance SceneObject)) =
      .ok (inst.withObjects ([], none)) := by
    refine Instance.ofFields_eq_ok.mpr ⟨inst.definition, hd, hpoints.fits rfl rfl, ?_⟩
    refine (Instance.core_fields (hparams.trans hread.names_defaults.symm) ?_).symm
    rw [hparams]
    exact hread.nodup_declared
  have hmake : standard.instantiate library levels inst.toRecord =
      make library (standard.builder library levels) inst.toRecord .module :=
    instantiate_tagged library levels .module _
  rw [hmake, run_make_module (Instance.decode_toRecord hfinite)]
  unfold ofReadFields
  rw [hcore]
  dsimp only
  rw [Instance.refresh_withObjects]

/-- **An object comes back from its record as a refresh leaves it.** -/
theorem run_instantiate_toRecord {library : Library} {object : SceneObject}
    (hfinite : object.isFinite = true)
    (hmodule : ∀ inst, object = .module inst → inst.HasPoints ∧ inst.definition.IsRead ∧
      library.find? inst.moduleName = some inst.definition ∧
        Named.names inst.params = inst.definition.declared) (levels : Nat) (s : Stream) :
    ExceptT.run (standard.instantiate library levels object.toRecord) s =
      (.ok (object.refresh (standard.builder library levels) s).1,
        (object.refresh (standard.builder library levels) s).2) := by
  cases object with
  | mirror m =>
    rw [SceneObject.toRecord, instantiate_tagged, make, Mirror.ofRecord_tagged _ hfinite]
    rfl
  | blocker b =>
    rw [SceneObject.toRecord, instantiate_tagged, make, Blocker.ofRecord_tagged _ hfinite]
    rfl
  | label l =>
    rw [SceneObject.toRecord, instantiate_tagged, make, Label.ofRecord_tagged _ hfinite]
    rfl
  | module inst =>
    obtain ⟨hpoints, hread, hd, hparams⟩ := hmodule inst rfl
    exact run_instantiate_toRecord_module hfinite hpoints hd hread hparams levels s

end Registry

namespace Scene

variable {s : Scene}

/-! ### Documents -/

theorem mapInstances_refresh_cons (builder : Builder SceneObject) (object : SceneObject)
    (objects : List SceneObject) (t : Stream) :
    mapInstances (·.refresh builder) (object :: objects) t =
      ((object.refresh builder t).1 ::
          (mapInstances (·.refresh builder) objects (object.refresh builder t).2).1,
        (mapInstances (·.refresh builder) objects (object.refresh builder t).2).2) := by
  cases object <;> rfl

theorem defined_of_objects_eq_nil (h : s.objects = []) (name : String) (d : Definition)
    (t : Stream) :
    s.defined name d t = { s with library := s.library.insert name d, stream := t } := by
  obtain ⟨objects, library, registry, stream, seed, gridSize⟩ := s
  cases h
  rfl

/-- The definitions of a library come back in their order. -/
theorem run_defineAll : ∀ {entries : Named Definition} (u : Scene),
    (∀ e ∈ entries, e.2.IsRead ∧ e.2.HasSteadyParams) → u.objects = [] →
      (Named.names (u.library.entries ++ entries)).Nodup →
        ExceptT.run (defineAll (entries.map fun (name, d) => (name, d.source))) u =
          (.ok (), { u with library := ⟨u.library.entries ++ entries⟩ }) := by
  intro entries
  induction entries with
  | nil =>
    intro u _ _ _
    rw [List.append_nil]
    rfl
  | cons entry entries ih =>
    intro u h hobjects hnodup
    obtain ⟨name, d⟩ := entry
    rw [List.forall_mem_cons] at h
    have hnew : name ∉ Named.names u.library.entries := by
      intro hmem
      rw [Named.names, List.map_append, List.nodup_append] at hnodup
      exact hnodup.2.2 name hmem name List.mem_cons_self rfl
    have hinsert : u.library.insert name d = ⟨u.library.entries ++ [(name, d)]⟩ :=
      congrArg Library.mk (Named.set_of_not_mem hnew d)
    have hdefine := run_define_of_ok (h.1.1.run_ofRecord_source h.1.2 u.stream) name
    rw [defined_of_objects_eq_nil hobjects, hinsert] at hdefine
    rw [List.map_cons, defineAll, run_bind_of_ok hdefine]
    have hassoc : u.library.entries ++ [(name, d)] ++ entries =
        u.library.entries ++ (name, d) :: entries := List.append_assoc ..
    have hrest := ih { u with library := ⟨u.library.entries ++ [(name, d)]⟩ } h.2 hobjects
    dsimp only at hrest
    rw [hassoc] at hrest
    exact hrest hnodup

/-- Objects that come back from their records in some way come back one after the other. -/
theorem run_addAll_of {f : SceneObject → StateM Stream SceneObject} :
    ∀ {objects : List SceneObject} (u : Scene), u.registry = .standard →
      (∀ object ∈ objects, ∀ t,
        ExceptT.run (Registry.standard.instantiate u.library Module.maxDepth object.toRecord) t =
          (.ok (f object t).1, (f object t).2)) →
        ExceptT.run (addAll (objects.map SceneObject.toRecord)) u =
          (.ok (), { u with
            objects := u.objects ++ (objects.mapM f u.stream).1
            stream := (objects.mapM f u.stream).2 }) := by
  intro objects
  induction objects with
  | nil =>
    intro u _ _
    change _ = (_, { u with objects := u.objects ++ [], stream := u.stream })
    rw [List.append_nil]
    rfl
  | cons object objects ih =>
    intro u hregistry h
    rw [List.forall_mem_cons] at h
    have hadd := h.1 u.stream
    rw [← hregistry] at hadd
    rw [List.map_cons, addAll, run_bind_of_ok (run_add_of_ok hadd)]
    have hrest := ih
      { u with
        objects := u.objects ++ [(f object u.stream).1]
        stream := (f object u.stream).2 } hregistry h.2
    dsimp only at hrest
    rw [List.append_assoc, List.singleton_append] at hrest
    rw [List.mapM_cons]
    exact hrest

theorem mapM_refresh (builder : Builder SceneObject) (objects : List SceneObject) :
    objects.mapM (SceneObject.refresh builder) = mapInstances (·.refresh builder) objects := by
  induction objects with
  | nil => rfl
  | cons object objects ih =>
    funext t
    rw [mapInstances_refresh_cons, List.mapM_cons, ih]
    rfl

/-- The objects of a scene come back one after the other, as a refresh leaves them. -/
theorem run_addAll {objects : List SceneObject} (u : Scene) (hregistry : u.registry = .standard)
    (h : ∀ object ∈ objects, ∀ t,
      ExceptT.run (Registry.standard.instantiate u.library Module.maxDepth object.toRecord) t =
        (.ok (object.refresh u.builder t).1, (object.refresh u.builder t).2)) :
    ExceptT.run (addAll (objects.map SceneObject.toRecord)) u =
      (.ok (), { u with
        objects := u.objects ++ (mapInstances (·.refresh u.builder) objects u.stream).1
        stream := (mapInstances (·.refresh u.builder) objects u.stream).2 }) := by
  rw [← mapM_refresh]
  exact run_addAll_of u hregistry h

theorem Reachable.nodup_names (h : Reachable s) : (Named.names s.library.entries).Nodup := by
  refine Reachable.induct (Q := fun s => (Named.names s.library.entries).Nodup) ?_ ?_ h
  · intro s _ hl
    rw [hl]
    exact List.nodup_nil
  · intro s op t _ hs he
    rcases he.library_cases with hl | ⟨name, json, d, u, -, -, hl⟩
    · rw [hl]
      exact hs
    · rw [hl]
      exact Named.nodup_names_set name d hs

/-- The records of the objects say all that there is to say about them: numbers are finite,
instances have the definitions of the library and all parameters that these declare. -/
structure IsSettled (s : Scene) : Prop where
  /-- Numbers that are not finite are lost in records. -/
  finite : ∀ object ∈ s.objects, object.isFinite = true
  /-- Records name the module of an instance, but not its definition. -/
  current : s.IsCurrent
  /-- Reading a record adds the parameters that it lacks. -/
  params : ∀ inst, .module inst ∈ s.objects →
    Named.names inst.params = inst.definition.declared

theorem IsSettled.run_instantiate (h : s.IsSettled) (hr : Reachable s) {object : SceneObject}
    (ho : object ∈ s.objects) (t : Stream) :
    ExceptT.run (Registry.standard.instantiate s.library Module.maxDepth object.toRecord) t =
      (.ok (object.refresh (Registry.standard.builder s.library Module.maxDepth) t).1,
        (object.refresh (Registry.standard.builder s.library Module.maxDepth) t).2) := by
  refine Registry.run_instantiate_toRecord (h.finite object ho) (fun inst hinst => ?_) _ t
  subst hinst
  have hread := (hr.read.2 inst ho).definition
  exact ⟨hr.hasPoints (.top ho), hread, h.current inst ho, h.params inst ho⟩

theorem toRecord_mapInstances_refresh (builder : Builder SceneObject) :
    ∀ (objects : List SceneObject) (t : Stream),
      (mapInstances (·.refresh builder) objects t).1.map SceneObject.toRecord =
        objects.map SceneObject.toRecord := by
  intro objects
  induction objects with
  | nil => intro t; rfl
  | cons object objects ih =>
    intro t
    rw [mapInstances_refresh_cons, List.map_cons, List.map_cons, ih,
      SceneObject.toRecord_refresh]

/-- A refresh does not show in the document. -/
theorem toDocument_refreshed (s : Scene) : (s.refreshed s.seed).toDocument = s.toDocument := by
  have hobjects := toRecord_mapInstances_refresh s.builder s.objects (.ofSeed s.seed)
  unfold toDocument
  exact congrArg (fun objs => (⟨_, objs, _, _⟩ : Document)) hobjects

/-- **Saving and loading a settled scene is refreshing it.**  The modules, the seed and the grid are
those of the scene, and so is the document. -/
theorem ofDocument_toDocument (h : Reachable s) (hregistry : s.registry = .standard)
    (hsettled : s.IsSettled) (hsteady : s.library.All Definition.HasSteadyParams) :
    ofDocument s.toDocument = .ok (s.perform .refresh) ∧
      (s.perform .refresh).library = s.library ∧ (s.perform .refresh).seed = s.seed ∧
        (s.perform .refresh).gridSize = s.gridSize ∧
          (s.perform .refresh).toDocument = s.toDocument := by
  rw [perform_refresh]
  refine ⟨?_, rfl, rfl, rfl, toDocument_refreshed s⟩
  have hentries : ∀ e ∈ s.library.entries, e.2.IsRead ∧ e.2.HasSteadyParams := by
    intro e he
    have hfind : s.library.find? e.1 = some e.2 := Named.get?_of_mem he h.nodup_names
    exact ⟨h.read.1 _ _ hfind, hsteady _ _ hfind⟩
  -- the modules draw nothing, so that the objects are expanded from the start of the stream
  let start : Scene := { withSeed s.seed with gridSize := s.gridSize }
  have hmodules : ExceptT.run (defineAll s.toDocument.modules) start =
      (.ok (), { start with library := s.library }) :=
    run_defineAll start hentries rfl h.nodup_names
  have hobjects := run_addAll { start with library := s.library } rfl
    fun object ho t => hsettled.run_instantiate h ho t
  let load : Edit Unit := do
    defineAll s.toDocument.modules
    addAll s.toDocument.objs
  have hload : start.run load = (.ok (), s.refreshed s.seed) := by
    refine (run_bind_of_ok hmodules).trans (hobjects.trans ?_)
    unfold refreshed changed builder
    dsimp only
    rw [hregistry]
    rfl
  change (start.run load).1.map (fun _ => (start.run load).2) = _
  rw [hload]
  rfl

/-- A run that adds a blocker and places an instance with a label that is put somewhere by
chance. -/
def randomLabel : List Operation :=
  [.define "m"
      (.object
        [("numPoints", .ofNat 1), ("params", .array [.string "a=0:1:9"]),
          ("objs",
            .array
              [.object
                [("type", .string "TextLabel"), ("x", .string "\x60a + random()\x60"),
                  ("y", .ofInt 0)]])]),
    .add
      (.object
        [("type", .string "Blocker"), ("p1", Record.ofPoint .zero),
          ("p2", Record.ofPoint ⟨1.0, 0.0⟩)]),
    .beginPlacement "m", .place 1 .zero]

theorem ofDocument_toDocument_after_randomLabel :
    ofDocument (empty.after randomLabel).toDocument =
      .ok ((empty.after randomLabel).perform .refresh) := by
  have hstart : IsStart empty := .empty .standard 0
  have hreachable : Reachable empty := .start hstart
  have hchecks : ((empty.after randomLabel).objects.all fun object =>
      object.isFinite && object.instance?.all fun inst =>
        Named.names inst.params = inst.definition.declared) = true ∧
      ((empty.after randomLabel).library.entries.all fun e =>
        (e.2.params.flatMap Range.used).all Expression.isArithmetic) = true := by
    decide +kernel
  have hobjects := List.all_eq_true.mp hchecks.1
  have hsettled : (empty.after randomLabel).IsSettled := by
    refine ⟨fun object ho => (Bool.and_eq_true_iff.mp (hobjects _ ho)).1, ?_, fun inst hi => ?_⟩
    · refine IsCurrent.after hreachable hstart.isCurrent ?_
      simp [randomLabel]
    · exact of_decide_eq_true (Bool.and_eq_true_iff.mp (hobjects _ hi)).2
  have hsteady : (empty.after randomLabel).library.All Definition.HasSteadyParams :=
    Library.all_of_forall_mem fun e he =>
      Module.Definition.hasSteadyParams_of_isArithmetic (List.all_eq_true.mp hchecks.2 e he)
  exact (ofDocument_toDocument (hreachable.after randomLabel)
    (hreachable.registry_after randomLabel) hsettled hsteady).1

end Scene

end OpticScene
