import OpticScene.Proofs.Reload
import OpticScene.Scene.View

/-!
# Loading and refreshing

Loading a document reads its modules and then expands its instances, all along one random stream.
A refresh expands the instances from the start of the stream.  The modules are not read again: where
a default of a parameter was drawn, the instances come to other places of the stream than they did
when the document was loaded, and so to other numbers.

## Main definitions

* `Scene.Document.modulesEnd` — the place of the stream at which the modules have been read.
* `Scene.expandedFrom` — a scene with its instances expanded from a place of the stream.

## Main results

* `Scene.ofDocument_eq_ok` — which documents can be loaded, and to what.
* `Scene.exists_of_run_addAll_eq_ok` — **adding objects expands them as a refresh does.**
* `Scene.sources_of_ofDocument` — where the modules and objects of a loaded scene come from.
* `Scene.refresh_of_ofDocument` — when a refresh changes a scene that was just loaded.
-/

namespace OpticScene

open OpticScene.Random (Draws Steady Stream)
open OpticScene.Module (Definition DefinitionRecord Instance resolveDefaults)

namespace Registry

/-- What was just made from a record is made in the same way by a refresh. -/
theorem refresh_of_run_instantiate {registry : Registry} {library : Module.Library} {levels : Nat}
    {record : Json} {object : SceneObject} {s t : Stream}
    (h : ExceptT.run (registry.instantiate library levels record) s = (.ok object, t)) :
    object.refresh (registry.builder library levels) s = (object, t) := by
  rcases run_instantiateWith_cases registry record with ⟨r, hr, hrun⟩ | ⟨fields, hrun⟩
  · have hmade := (hrun library (registry.builder library levels) s).symm.trans h
    obtain ⟨hobject, rfl⟩ := Prod.mk.inj hmade
    have hplain := hr.instance_eq_none object hobject
    cases object with
    | module => cases hplain
    | _ => rfl
  · have hread := (hrun library (registry.builder library levels) s).symm.trans h
    unfold ofReadFields at hread
    split at hread
    · cases hread
    · next core hcore =>
      cases hread
      rw [SceneObject.refresh_module, Instance.refresh_refresh]

end Registry

namespace Scene

variable {s m : Scene} {doc : Document}

/-! ### Loading -/

/-- The scene that the modules and the objects of a document are added to. -/
def Document.start (doc : Document) : Scene := { withSeed doc.seed with gridSize := doc.gridSize }

/-- The place of the random stream at which the modules of a document have been read. -/
def Document.modulesEnd (doc : Document) : Stream :=
  (doc.start.run (defineAll doc.modules)).2.stream

theorem modulesEnd_of_run (h : ExceptT.run (defineAll doc.modules) doc.start = (.ok (), m)) :
    doc.modulesEnd = m.stream :=
  congrArg (fun r : Except SceneError Unit × Scene => r.2.stream) h

/-- **Which documents can be loaded**: those of which all modules can be defined and then all
objects can be added. -/
theorem ofDocument_eq_ok :
    ofDocument doc = .ok s ↔ ∃ m, ExceptT.run (defineAll doc.modules) doc.start = (.ok (), m) ∧
      ExceptT.run (addAll doc.objs) m = (.ok (), s) := by
  have hload : ofDocument doc =
      (ExceptT.run (defineAll doc.modules >>= fun _ => addAll doc.objs) doc.start).1.map fun _ =>
        (ExceptT.run (defineAll doc.modules >>= fun _ => addAll doc.objs) doc.start).2 := rfl
  rw [hload]
  constructor
  · intro h
    rcases hrun : ExceptT.run (defineAll doc.modules >>= fun _ => addAll doc.objs) doc.start with
      ⟨e | a, t⟩
    · rw [hrun] at h
      cases h
    · rw [hrun] at h
      cases h
      obtain ⟨a, m, hm, hs⟩ := run_bind_eq_ok.mp hrun
      exact ⟨m, hm, hs⟩
  · rintro ⟨m, hm, hs⟩
    rw [run_bind_of_ok hm, hs]
    rfl

/-- Reading modules fills the library and draws from the stream, and does nothing else. -/
theorem eq_of_run_defineAll {modules : List (String × Json)} (hs : s.objects = [])
    (h : ExceptT.run (defineAll modules) s = (.ok (), m)) :
    m = { s with library := m.library, stream := m.stream } := by
  refine (of_run_defineAll (Q := fun t => t = { s with library := t.library, stream := t.stream })
    ?_ hs rfl h).2
  intro t name json ht hq
  rcases hd : ExceptT.run (Definition.ofRecord json) t.stream with ⟨e | d, u⟩
  · rw [perform_define_of_error hd, hq]
  · rw [perform_define_of_ok hd, defined_of_objects_eq_nil ht, hq]

/-! ### Expanding from a place of the stream -/

/-- The scene with every instance expanded anew from a place of the random stream. -/
def expandedFrom (s : Scene) (t : Stream) : Scene :=
  ({ s with stream := t } : Scene).changed (·.refresh s.builder)

theorem refreshed_eq_expandedFrom (s : Scene) :
    s.refreshed s.seed = s.expandedFrom (.ofSeed s.seed) := rfl

theorem exists_of_run_add_eq_ok {record : Json} {index : Nat}
    (h : ExceptT.run (add record) m = (.ok index, s)) :
    ∃ object t, ExceptT.run (m.registry.instantiate m.library Module.maxDepth record) m.stream =
        (.ok object, t) ∧ s = { m with objects := m.objects ++ [object], stream := t } := by
  rcases hrun : ExceptT.run (m.registry.instantiate m.library Module.maxDepth record) m.stream with
    ⟨e | object, t⟩
  · rw [add, run_bind_of_ok (run_get m), run_bind, run_drawing, hrun] at h
    cases h
  · rw [run_add_of_ok hrun] at h
    cases h
    exact ⟨object, t, rfl, rfl⟩

/-- **Adding objects expands them as a refresh does** that begins where their addition began. -/
theorem exists_of_run_addAll_eq_ok {records : List Json} :
    ∀ {m s : Scene}, ExceptT.run (addAll records) m = (.ok (), s) →
      ∃ objects, s = { m with objects := m.objects ++ objects, stream := s.stream } ∧
        mapInstances (·.refresh m.builder) objects m.stream = (objects, s.stream) := by
  induction records with
  | nil =>
    intro m s h
    cases h
    exact ⟨[], by rw [List.append_nil], rfl⟩
  | cons record records ih =>
    intro m s h
    obtain ⟨index, next, hadd, hrest⟩ := run_bind_eq_ok.mp h
    obtain ⟨object, t, hrun, rfl⟩ := exists_of_run_add_eq_ok hadd
    obtain ⟨objects, hs, hobjects⟩ := ih hrest
    refine ⟨object :: objects, ?_, ?_⟩
    · rw [hs, List.append_assoc, List.singleton_append]
    · have hobject : object.refresh m.builder m.stream = (object, t) :=
        Registry.refresh_of_run_instantiate hrun
      rw [mapInstances_refresh_cons, hobject]
      exact congrArg (fun r => (object :: r.1, r.2)) hobjects

/-- **A document is loaded by expanding its instances from where its modules have been read.** -/
theorem expandedFrom_modulesEnd (h : ofDocument doc = .ok s) :
    s.seed = doc.seed ∧ s.expandedFrom doc.modulesEnd = s := by
  obtain ⟨m, hmodules, hobjects⟩ := ofDocument_eq_ok.mp h
  have hm : m = { doc.start with library := m.library, stream := m.stream } :=
    eq_of_run_defineAll rfl hmodules
  have hempty : m.objects = [] := congrArg Scene.objects hm
  have hend := modulesEnd_of_run hmodules
  obtain ⟨objects, hs, hexpanded⟩ := exists_of_run_addAll_eq_ok hobjects
  rw [hempty, List.nil_append] at hs
  constructor
  · rw [hs, hm]
    rfl
  · -- only the objects and the stream are set, and to what they are already
    have hparts : s.expandedFrom m.stream =
        { s with
          objects := (mapInstances (·.refresh s.builder) s.objects m.stream).1
          stream := (mapInstances (·.refresh s.builder) s.objects m.stream).2 } := rfl
    have hbuilder : s.builder = m.builder := by
      rw [hs]
      rfl
    have hmade : s.objects = objects := congrArg Scene.objects hs
    rw [hend, hparts, hbuilder, hmade, hexpanded, ← hmade]

theorem exists_of_run_define_eq_ok {name : String} {json : Json} {d : Definition}
    (h : ExceptT.run (define name json) m = (.ok d, s)) :
    ∃ t, ExceptT.run (Definition.ofRecord json) m.stream = (.ok d, t) ∧ s = m.defined name d t := by
  rcases hd : ExceptT.run (Definition.ofRecord json) m.stream with ⟨e | d', t⟩
  · rw [define, run_bind, run_drawing, run_adapt, hd] at h
    cases h
  · rw [run_define_of_ok hd] at h
    cases h
    exact ⟨t, rfl, rfl⟩

/-! ### Where modules and objects come from -/

/-- A module that has been defined comes from one of the records. -/
theorem exists_entry_of_run_defineAll {modules : List (String × Json)} {name : String}
    {d : Definition} : ∀ {m s : Scene}, ExceptT.run (defineAll modules) m = (.ok (), s) →
      s.library.find? name = some d → m.library.find? name = some d ∨
        ∃ e ∈ modules, ∃ t u, ExceptT.run (Definition.ofRecord e.2) t = (.ok d, u) := by
  induction modules with
  | nil =>
    intro m s h hd
    cases h
    exact .inl hd
  | cons entry modules ih =>
    intro m s h hd
    obtain ⟨made, next, hdefine, hrest⟩ := run_bind_eq_ok.mp h
    obtain ⟨t, hmade, rfl⟩ := exists_of_run_define_eq_ok hdefine
    rcases ih hrest hd with hnext | ⟨e, he, hread⟩
    · have hfind : (m.library.insert entry.1 made).find? name = some d := hnext
      rw [Module.Library.find?_insert] at hfind
      split at hfind
      · cases hfind
        exact .inr ⟨entry, List.mem_cons_self, _, _, hmade⟩
      · exact .inl hfind
    · exact .inr ⟨e, List.mem_cons_of_mem _ he, hread⟩

/-- An object that has been added comes from one of the records. -/
theorem exists_record_of_run_addAll {records : List Json} {object : SceneObject} :
    ∀ {m s : Scene}, ExceptT.run (addAll records) m = (.ok (), s) → object ∈ s.objects →
      object ∈ m.objects ∨ ∃ record ∈ records, ∃ t u,
        ExceptT.run (m.registry.instantiate m.library Module.maxDepth record) t =
          (.ok object, u) := by
  induction records with
  | nil =>
    intro m s h ho
    cases h
    exact .inl ho
  | cons record records ih =>
    intro m s h ho
    obtain ⟨index, next, hadd, hrest⟩ := run_bind_eq_ok.mp h
    obtain ⟨made, t, hmade, rfl⟩ := exists_of_run_add_eq_ok hadd
    rcases ih hrest ho with hnext | ⟨record', hrecord, hread⟩
    · rcases List.mem_append.mp hnext with hold | hnew
      · exact .inl hold
      · rw [List.mem_singleton.mp hnew]
        exact .inr ⟨record, List.mem_cons_self, _, _, hmade⟩
    · exact .inr ⟨record', List.mem_cons_of_mem _ hrecord, hread⟩

/-- **What a loaded scene has comes from its document**: the registry is the standard one, every
module is one of the document, and every object is made from one of the records with the modules
that the scene has. -/
theorem sources_of_ofDocument (h : ofDocument doc = .ok s) :
    s.registry = .standard ∧
    (∀ name d, s.library.find? name = some d →
      ∃ e ∈ doc.modules, ∃ t u, ExceptT.run (Definition.ofRecord e.2) t = (.ok d, u)) ∧
    ∀ object ∈ s.objects, ∃ record ∈ doc.objs, ∃ t u,
      ExceptT.run (Registry.standard.instantiate s.library Module.maxDepth record) t =
        (.ok object, u) := by
  obtain ⟨m, hmodules, hobjects⟩ := ofDocument_eq_ok.mp h
  have hm : m = { doc.start with library := m.library, stream := m.stream } :=
    eq_of_run_defineAll rfl hmodules
  have hregistry : m.registry = .standard := congrArg Scene.registry hm
  have hempty : m.objects = [] := congrArg Scene.objects hm
  obtain ⟨objects, hs, -⟩ := exists_of_run_addAll_eq_ok hobjects
  have hlibrary : s.library = m.library := by rw [hs]
  have hkept : s.registry = m.registry := by rw [hs]
  refine ⟨hkept.trans hregistry, fun name d hd => ?_, fun object ho => ?_⟩
  · rw [hlibrary] at hd
    rcases exists_entry_of_run_defineAll hmodules hd with hstart | hentry
    · cases hstart
    · exact hentry
  · rw [hlibrary, ← hregistry]
    rcases exists_record_of_run_addAll hobjects ho with hstart | hrecord
    · rw [hempty] at hstart
      exact absurd hstart List.not_mem_nil
    · exact hrecord

/-! ### Modules without draws -/

/-- Reading modules draws nothing if their descriptors do not. -/
theorem stream_eq_of_run_defineAll {modules : List (String × Json)} :
    ∀ {s : Scene}, s.objects = [] →
      (∀ e ∈ modules, ∀ record, DefinitionRecord.decode e.2 = .ok record →
        Steady (ExceptT.run (resolveDefaults [] record.params))) →
      ExceptT.run (defineAll modules) s = (.ok (), m) → m.stream = s.stream := by
  induction modules with
  | nil =>
    intro s _ _ h
    cases h
    rfl
  | cons entry modules ih =>
    intro s hs hsteady h
    rw [List.forall_mem_cons] at hsteady
    obtain ⟨d, next, hdefine, hrest⟩ := run_bind_eq_ok.mp h
    obtain ⟨t, hd, rfl⟩ := exists_of_run_define_eq_ok hdefine
    obtain ⟨record, hdecode, -, hdefaults, -⟩ := Module.run_ofRecord_eq_ok.mp hd
    have hkept := (hsteady.1 record hdecode).run_eq hdefaults s.stream
    have ht : t = s.stream := congrArg Prod.snd (hdefaults.symm.trans hkept)
    rw [defined_of_objects_eq_nil hs] at hrest
    have hnext : ({ s with library := s.library.insert entry.1 d, stream := t } : Scene).objects =
        [] := hs
    exact (ih hnext hsteady.2 hrest).trans ht

/-- **Descriptors that draw nothing leave the stream at its start.** -/
theorem modulesEnd_eq_ofSeed (h : ofDocument doc = .ok s)
    (hsteady : ∀ e ∈ doc.modules, ∀ record, DefinitionRecord.decode e.2 = .ok record →
      Steady (ExceptT.run (resolveDefaults [] record.params))) :
    doc.modulesEnd = .ofSeed doc.seed := by
  obtain ⟨m, hmodules, -⟩ := ofDocument_eq_ok.mp h
  rw [modulesEnd_of_run hmodules]
  exact stream_eq_of_run_defineAll (s := doc.start) rfl hsteady hmodules

/-! ### Refreshing -/

/-- **When a refresh changes a scene that was just loaded.**  Loading leaves the instances as they
are expanded from the place at which the modules have been read, and a refresh leaves them as they
are expanded from the start of the stream.  So the objects stay the same exactly when both
expansions agree, and nothing at all changes if both places are the same. -/
theorem refresh_of_ofDocument (h : ofDocument doc = .ok s) :
    s.expandedFrom doc.modulesEnd = s ∧
    s.perform .refresh = s.expandedFrom (.ofSeed doc.seed) ∧
    s.perform (.reseed doc.seed) = s.perform .refresh ∧
    ((s.perform .refresh).objects = s.objects ↔
      (s.expandedFrom (.ofSeed doc.seed)).objects = (s.expandedFrom doc.modulesEnd).objects) ∧
    (doc.modulesEnd = .ofSeed doc.seed → s.perform .refresh = s) := by
  obtain ⟨hseed, hloaded⟩ := expandedFrom_modulesEnd h
  have hrefresh : s.perform .refresh = s.expandedFrom (.ofSeed doc.seed) := by
    rw [perform_refresh, refreshed_eq_expandedFrom, hseed]
  refine ⟨hloaded, hrefresh, ?_, ?_, fun hend => ?_⟩
  · rw [perform_reseed, perform_refresh, hseed]
  · rw [hrefresh, hloaded]
  · rw [hrefresh, ← hend, hloaded]

/-- A document with an instance of a module that puts a label somewhere by chance. -/
def scatter (params : List Json) : Document where
  modules :=
    [("m",
      .object
        [("params", .array params),
          ("objs",
            .array
              [.object
                [("type", .string "TextLabel"), ("x", .string "\x60random()\x60"),
                  ("y", .ofInt 0)]])])]
  objs := [.object [("type", .string "ModuleObj"), ("module", .string "m")]]
  seed := 0
  gridSize := none

theorem refresh_of_ofDocument_scatter :
    ∃ s, ofDocument (scatter []) = .ok s ∧ s.optical.length = 1 ∧ s.perform .refresh = s := by
  have hlabels : (ofDocument (scatter [])).toOption.map (fun s => s.optical.length) = some 1 := by
    decide +kernel
  rcases hload : ofDocument (scatter []) with e | s
  · rw [hload] at hlabels
    cases hlabels
  rw [hload] at hlabels
  have hend : (scatter []).modulesEnd = .ofSeed (scatter []).seed := by
    refine modulesEnd_eq_ofSeed hload fun e he record hrecord => ?_
    obtain rfl := List.mem_singleton.mp he
    cases hrecord
    exact Random.steady_run_pure []
  exact ⟨s, rfl, Option.some.inj hlabels, (refresh_of_ofDocument hload).2.2.2.2 hend⟩

/-- The default of a parameter that is drawn moves the label when the scene is refreshed. -/
theorem not_forall_objects_refresh_eq :
    ¬ ∀ doc s, ofDocument doc = .ok s → (s.perform .refresh).objects = s.objects := by
  intro hall
  have hdiffer : (ofDocument (scatter [.string "a=random():1:9"])).toOption.elim true (fun s =>
      (s.perform .refresh).objects.flatMap (fun o => o.optical.map (·.toRecord.compact)) =
        s.objects.flatMap (fun o => o.optical.map (·.toRecord.compact))) = false := by
    decide +kernel
  rcases hload : ofDocument (scatter [.string "a=random():1:9"]) with e | s
  · rw [hload] at hdiffer
    cases hdiffer
  · rw [hload] at hdiffer
    refine of_decide_eq_false hdiffer ?_
    rw [hall _ s hload]

end Scene

end OpticScene
