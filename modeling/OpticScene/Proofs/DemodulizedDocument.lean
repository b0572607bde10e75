import OpticScene.Proofs.Demodulization
import OpticScene.Proofs.FiniteObjects
import OpticScene.Proofs.Freshness
import OpticScene.Proofs.LoadedScene
import OpticScene.Proofs.Parameters
import OpticScene.Proofs.Reports

/-!
# Saving what was taken apart

The instances inside an instance that is taken apart come to the top level, are saved as records of
their own and are expanded one level higher when the document is loaded again.  The depth matters to
an expansion only where it is too deep, and this is reported.  So without reports, and without
chance, light meets the same objects in the loaded scene as before.

An instance inside another one may still miss control points, and then it may lack parameters too;
these are filled in when its record is read.  This is the one difference that there can be.

## Main definitions

* `SceneObject.reread` — the object that the record of an object describes.
* `Document.isFinite`, `Scene.FiniteDocument` — all numbers of a document are finite, and the
  documents of which this holds.

## Main results

* `Registry.Makes.isFresh` — **an expansion without errors is the same at any smaller depth.**
* `Registry.run_instantiate_reread` — an object comes back from its record.
* `Scene.optical_of_demodulized_document` — light does not notice when a scene is demodulized, saved
  and loaded.
-/

namespace OpticScene

open OpticScene.Random (Stream)
open OpticScene.Module (Definition Instance Library)

/-! ### Depth -/

namespace Registry

variable {registry : Registry} {library : Library}

theorem Makes.of_occurs {levels : Nat} {inst outer : Instance SceneObject} {depth : Nat}
    (h : registry.Makes library levels outer)
    (hi : SceneObject.Occurs inst depth [.module outer]) :
    ∃ rest, rest ≤ levels ∧ registry.Makes library rest inst := by
  cases hi with
  | top hi =>
    cases List.mem_singleton.mp hi
    exact ⟨levels, Nat.le_refl _, h⟩
  | inside ho hi =>
    cases List.mem_singleton.mp ho
    obtain ⟨fields, core, s, -, rfl⟩ := h
    obtain ⟨rest, hrest, hmade⟩ := makes_of_occurs hi
    exact ⟨rest, by omega, hmade⟩

/-- **An expansion without errors is the same at any smaller depth.** -/
theorem Makes.isFresh (hall : library.All Definition.IsSteady) {levels levels' : Nat}
    {inst : Instance SceneObject} (h : registry.Makes library levels inst)
    (herror : SceneObject.error? (.module inst) = none) (hle : levels ≤ levels')
    (hmax : levels' ≤ Module.maxDepth) : registry.IsFresh library levels' inst := by
  have hd : inst.definition.IsSteady := hall _ _ h.find?
  have hfresh : registry.IsFresh library levels inst := by
    obtain ⟨fields, core, s, -, rfl⟩ := h
    rw [Instance.definition_refresh] at hd
    exact isFresh_refresh hall hd s
  refine hfresh.of_isUpToDate hall hd hle (Nat.add_sub_of_le hmax) fun inner n hinner => ?_
  refine ⟨fun _ => ?_, fun e he => ?_⟩
  · obtain ⟨rest, -, hmade⟩ := h.of_occurs hinner
    exact hmade.find?
  · have hnone := SceneObject.lastError_eq_none_of_occurs
      (List.forall_mem_singleton.mpr herror) hinner
    rw [hnone] at he
    cases he

end Registry

/-! ### Records -/

namespace SceneObject

/-- The object that the record of an object describes.  The record of an instance that misses
control points says nothing of parameters that have not been set, so that these get their
defaults. -/
def reread : SceneObject → SceneObject
  | .module inst =>
    .module ((inst.fields.core inst.definition).withObjects (inst.objects, inst.lastError))
  | object => object

theorem optical_reread (object : SceneObject) : object.reread.optical = object.optical := by
  cases object with
  | module inst =>
    rw [reread, optical_module, optical_module]
    rfl
  | _ => rfl

theorem opticalAll_map_reread (objects : List SceneObject) :
    opticalAll (objects.map reread) = opticalAll objects := by
  induction objects with
  | nil => rfl
  | cons object objects ih =>
    rw [List.map_cons, opticalAll_cons, opticalAll_cons, optical_reread, ih]

theorem error?_reread {object : SceneObject} (h : object.error? = none) :
    object.reread.error? = none := by
  cases object with
  | module inst => exact (error?_module_eq_none_iff _).mpr ((error?_module_eq_none_iff _).mp h)
  | _ => exact h

end SceneObject

namespace Registry

variable {library : Library}

/-- What an instance expands to does not depend on what its record leaves open. -/
theorem expansion_core_fields {inst : Instance SceneObject} {builder : Module.Builder SceneObject}
    (hread : inst.definition.IsRead) (hparams : inst.HasParams) :
    (inst.fields.core inst.definition : Instance SceneObject).expansion builder =
      inst.expansion builder := by
  cases hp : inst.placement with
  | collecting =>
    have hcore : (inst.fields.core inst.definition : Instance SceneObject).placement =
        .collecting := by
      simp [Instance.Fields.core, Instance.fields, hp]
    rw [Instance.expansion_collecting _ hcore, Instance.expansion_collecting _ hp]
  | complete =>
    have hnames := (hparams.names_eq hp).trans hread.names_defaults.symm
    rw [Instance.core_fields hnames (hparams.nodup hp), Instance.expansion_withObjects]

/-- **An object comes back from its record.** -/
theorem run_instantiate_reread {object : SceneObject} (hfinite : object.isFinite = true)
    (hmodule : ∀ inst, object = .module inst → inst.definition.IsRead ∧ inst.HasParams ∧
      inst.HasPoints ∧ library.find? inst.moduleName = some inst.definition ∧
        standard.IsFresh library Module.maxDepth inst) (t : Stream) :
    ExceptT.run (standard.instantiate library Module.maxDepth object.toRecord) t =
      (.ok object.reread, t) := by
  cases object with
  | module inst =>
    obtain ⟨hread, hparams, hpoints, hd, hfresh⟩ := hmodule inst rfl
    have hcore : (Instance.ofFields library inst.fields :
        Except SceneError (Instance SceneObject)) = .ok (inst.fields.core inst.definition) :=
      Instance.ofFields_eq_ok.mpr ⟨inst.definition, hd, hpoints.fits rfl rfl, rfl⟩
    have hmake : standard.instantiate library Module.maxDepth inst.toRecord =
        make library (standard.builder library Module.maxDepth) inst.toRecord .module :=
      instantiate_tagged library Module.maxDepth .module _
    rw [SceneObject.toRecord, hmake, run_make_module (Instance.decode_toRecord hfinite)]
    unfold ofReadFields
    rw [hcore]
    dsimp only
    rw [Instance.refresh_eq, expansion_core_fields hread hparams, isFresh_iff.mp hfresh t]
    rfl
  | _ =>
    refine run_instantiate_toRecord hfinite (fun inst hinst => ?_) Module.maxDepth t
    cases hinst

/-- An instance that was made with finite definitions has finite objects. -/
theorem Makes.isFinite_of_mem {registry : Registry} (hall : library.All Definition.IsFinite)
    {levels : Nat} {inst : Instance SceneObject} (h : registry.Makes library levels inst)
    {object : SceneObject} (ho : object ∈ inst.objects) : object.isFinite = true := by
  have hd : inst.definition.IsFinite := hall _ _ h.find?
  obtain ⟨fields, core, s, -, rfl⟩ := h
  rw [Instance.definition_refresh] at hd
  exact isFinite_of_mem_refresh hall hd ho

end Registry

theorem Module.Definition.IsSteady.hasSteadyParams {d : Definition} (h : d.IsSteady) :
    d.HasSteadyParams :=
  steady_resolveDefaults [] fun e he => h e (List.mem_append_left _ (List.mem_append_left _ he))

namespace Scene

variable {s : Scene} {doc : Document}

/-! ### Documents -/

/-- All numbers of a document are finite. -/
def Document.isFinite (doc : Document) : Bool :=
  Json.fieldsFinite doc.modules && Json.allFinite doc.objs

/-- A document with finite numbers only, as it is read from text. -/
structure FiniteDocument where
  /-- The document. -/
  val : Document
  /-- All its numbers are finite. -/
  finite : val.isFinite = true

/-- **Finite documents make finite scenes.** -/
theorem isFinite_of_ofDocument (h : ofDocument doc = .ok s) (hfinite : doc.isFinite = true) :
    s.library.All Definition.IsFinite ∧ ∀ object ∈ s.objects, object.isFinite = true := by
  obtain ⟨hmodules, hobjs⟩ := Bool.and_eq_true_iff.mp hfinite
  rw [Json.fieldsFinite_eq, List.all_eq_true] at hmodules
  rw [Json.allFinite_eq, List.all_eq_true] at hobjs
  obtain ⟨-, hdefinitions, hobjects⟩ := sources_of_ofDocument h
  have hall : s.library.All Definition.IsFinite := by
    intro name d hd
    obtain ⟨e, he, t, u, hrun⟩ := hdefinitions name d hd
    exact (Definition.gives_ofRecord (hmodules e he)).of_run hrun
  refine ⟨hall, fun object ho => ?_⟩
  obtain ⟨record, hrecord, t, u, hrun⟩ := hobjects object ho
  exact (Registry.gives_instantiate hall (hobjs record hrecord) _).of_run hrun

/-- Every instance of a loaded scene was made from a record, at any depth. -/
theorem makes_of_ofDocument (h : ofDocument doc = .ok s) {inst : Instance SceneObject} {depth : Nat}
    (hi : SceneObject.Occurs inst depth s.objects) :
    ∃ levels, levels ≤ Module.maxDepth ∧ Registry.standard.Makes s.library levels inst := by
  have htop : ∀ outer, .module outer ∈ s.objects →
      Registry.standard.Makes s.library Module.maxDepth outer := by
    intro outer ho
    obtain ⟨record, -, t, u, hrun⟩ := (sources_of_ofDocument h).2.2 _ ho
    exact Registry.makes_of_run_eq_ok hrun
  cases hi with
  | top hi => exact ⟨Module.maxDepth, Nat.le_refl _, htop inst hi⟩
  | inside ho hi => exact (htop _ ho).of_occurs (.inside List.mem_cons_self hi)

/-- A scene of which all objects come back from their records comes back from its document. -/
theorem ofDocument_toDocument_eq_reread (hr : Reachable s) (hregistry : s.registry = .standard)
    (hsteady : s.library.All Definition.IsSteady)
    (h : ∀ object ∈ s.objects, ∀ t,
      ExceptT.run (Registry.standard.instantiate s.library Module.maxDepth object.toRecord) t =
        (.ok object.reread, t)) :
    ofDocument s.toDocument =
      .ok { s with
        objects := s.objects.map SceneObject.reread
        stream := .ofSeed s.seed } := by
  have hentries : ∀ e ∈ s.library.entries, e.2.IsRead ∧ e.2.HasSteadyParams := by
    intro e he
    have hfind : s.library.find? e.1 = some e.2 := Named.get?_of_mem he hr.nodup_names
    exact ⟨hr.read.1 _ _ hfind, (hsteady _ _ hfind).hasSteadyParams⟩
  have hmodules : ExceptT.run (defineAll s.toDocument.modules) s.toDocument.start =
      (.ok (), { s.toDocument.start with library := s.library }) :=
    run_defineAll s.toDocument.start hentries rfl hr.nodup_names
  refine ofDocument_eq_ok.mpr ⟨_, hmodules, ?_⟩
  -- an object that comes back is made without draws
  refine (run_addAll_of (f := fun object => pure object.reread)
    { s.toDocument.start with library := s.library } rfl h).trans ?_
  rw [hregistry, List.mapM_pure]
  rfl

/-- Where nothing depends on chance and no error is reported, an instance of a loaded scene comes
back from its record, at whatever depth it has stood. -/
theorem run_instantiate_of_ofDocument (h : ofDocument doc = .ok s)
    (hsteady : s.library.All Definition.IsSteady) {object : SceneObject}
    (hfinite : object.isFinite = true) (herror : object.error? = none)
    (hmodule : ∀ inst, object = .module inst → ∃ depth, SceneObject.Occurs inst depth s.objects)
    (t : Stream) :
    ExceptT.run (Registry.standard.instantiate s.library Module.maxDepth object.toRecord) t =
      (.ok object.reread, t) := by
  refine Registry.run_instantiate_reread hfinite (fun inst hinst => ?_) t
  subst hinst
  obtain ⟨depth, hi⟩ := hmodule inst rfl
  have hstart : IsStart s := .document h
  obtain ⟨levels, hle, hmade⟩ := makes_of_ofDocument h hi
  exact ⟨(Reachable.start hstart).read.1 _ _ hmade.find?, hstart.hasParams inst depth hi,
    hmade.hasPoints, hmade.find?, hmade.isFresh hsteady herror hle (Nat.le_refl _)⟩

/-- **Light does not notice when a scene is demodulized, saved and loaded**, where nothing depends
on chance and no error is reported: the saved document loads without errors, and light meets the
same objects in the same order as in the scene of the document before. -/
theorem optical_of_demodulized_document (doc : FiniteDocument) (h : ofDocument doc.val = .ok s)
    (herror : s.errorReport? = none) (hsteady : s.library.All Definition.IsSteady) {index : Nat}
    {inst : Instance SceneObject} (hi : s.objects[index]? = some (.module inst)) :
    ∃ u, s.run (demodulize index) = (.ok inst.objects.length, u) ∧
      ∃ t, ofDocument u.toDocument = .ok t ∧ t.errorReport? = none ∧ t.optical = s.optical := by
  refine ⟨_, run_demodulize_of_some hi, ?_⟩
  have hmem : .module inst ∈ s.objects := List.mem_of_getElem? hi
  obtain ⟨hdefinitions, hobjects⟩ := isFinite_of_ofDocument h doc.finite
  rw [errorReport?_eq_none_iff] at herror
  obtain ⟨-, hquiet⟩ := (SceneObject.error?_module_eq_none_iff inst).mp (herror _ hmem)
  obtain ⟨levels, -, hmade⟩ := makes_of_ofDocument h (.top hmem)
  -- what stands in the scene now stood there before, or inside the instance
  have hparts : ∀ object ∈ (s.spliced index inst.objects).objects,
      object.isFinite = true ∧ object.error? = none ∧
        ∀ inner, object = .module inner → ∃ depth, SceneObject.Occurs inner depth s.objects := by
    intro object ho
    have hcases : object ∈ s.objects ∨ object ∈ inst.objects := by
      rcases List.mem_append.mp ho with ho | ho
      · exact (List.mem_append.mp ho).imp_left List.mem_of_mem_take
      · exact .inl (List.mem_of_mem_drop ho)
    rcases hcases with ho | ho
    · exact ⟨hobjects object ho, herror object ho, fun inner h => ⟨0, .top (h ▸ ho)⟩⟩
    · exact ⟨hmade.isFinite_of_mem hdefinitions ho, hquiet object ho,
        fun inner h => ⟨1, .inside hmem (.top (h ▸ ho))⟩⟩
  have hreachable : Reachable (s.spliced index inst.objects) := by
    have hstep := Reachable.step (.demodulize index) (.start (.document h))
    rwa [perform_demodulize_of_some hi] at hstep
  have hreload := ofDocument_toDocument_eq_reread hreachable (sources_of_ofDocument h).1 hsteady
    fun object ho => run_instantiate_of_ofDocument h hsteady (hparts object ho).1
      (hparts object ho).2.1 (hparts object ho).2.2
  refine ⟨_, hreload, errorReport?_eq_none_iff.mpr fun object ho => ?_, ?_⟩
  · obtain ⟨old, hold, rfl⟩ := List.mem_map.mp ho
    exact SceneObject.error?_reread (hparts old hold).2.1
  · exact (SceneObject.opticalAll_map_reread _).trans (optical_spliced hi)

/-- A document with an instance that has two others inside: one that is complete, and one that
misses its only control point and has no parameters yet. -/
def nested : Document where
  modules :=
    [("inner",
      .object
        [("numPoints", .ofNat 1), ("params", .array [.string "r=1:1:5"]),
          ("objs",
            .array
              [.object
                [("type", .string "TextLabel"), ("x", .string "\x60x_1 + r\x60"),
                  ("y", .ofInt 0)]])]),
    ("outer",
      .object
        [("objs",
          .array
            [.object
              [("type", .string "ModuleObj"), ("module", .string "inner"),
                ("points", .array [.object [("x", .ofInt 2), ("y", .ofInt 3)]])],
            .object
              [("type", .string "ModuleObj"), ("module", .string "inner"),
                ("notDone", .bool true)]])])]
  objs := [.object [("type", .string "ModuleObj"), ("module", .string "outer")]]
  seed := 0
  gridSize := none

theorem optical_of_demodulized_document_nested :
    ∃ s u t, ofDocument nested = .ok s ∧ s.run (demodulize 0) = (.ok 2, u) ∧
      ofDocument u.toDocument = .ok t ∧ t.errorReport? = none ∧ t.optical = s.optical ∧
        s.optical.map SceneObject.tag = ["TextLabel"] := by
  have hchecks : (ofDocument nested).toOption.any (fun s =>
      s.errorReport?.isNone && s.library.entries.all (fun e => e.2.isArithmetic) &&
        (s.objects[0]?.bind SceneObject.instance?).any (fun inst => inst.objects.length = 2) &&
          decide (s.optical.map SceneObject.tag = ["TextLabel"])) = true := by
    decide +kernel
  rcases h : ofDocument nested with e | s
  · rw [h] at hchecks
    cases hchecks
  rw [h] at hchecks
  simp only [Except.toOption, Option.any_some, Bool.and_eq_true, Option.isNone_iff_eq_none,
    Option.any_eq_true, decide_eq_true_eq] at hchecks
  obtain ⟨⟨⟨herror, harithmetic⟩, inst, hfound, hlength⟩, hoptical⟩ := hchecks
  have hsteady : s.library.All Definition.IsSteady := Library.all_of_forall_mem fun e he =>
    Definition.isSteady_of_isArithmetic (List.all_eq_true.mp harithmetic e he)
  have hi := SceneObject.bind_instance?_eq_some_iff.mp hfound
  obtain ⟨u, hrun, t, hload, hquiet, hsame⟩ :=
    optical_of_demodulized_document ⟨nested, by decide +kernel⟩ h herror hsteady hi
  rw [hlength] at hrun
  exact ⟨s, u, t, rfl, hrun, hload, hquiet, hsame, hoptical⟩

end Scene

end OpticScene
