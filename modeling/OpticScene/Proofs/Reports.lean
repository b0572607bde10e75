import OpticScene.CommandLine.Run
import OpticScene.Proofs.Demodulization

/-!
# Reports

An instance that could not be expanded says so in its line of the error report.  Its own error
stands for all that is wrong inside; an instance without an error of its own reports what is wrong
with its objects, and nothing at all if nothing is wrong.  So no failure is lost at any depth, and
checking a scene fails exactly when there is one.

## Main definitions

* `SceneObject.linesBy` — the lines of a report, for any messages about objects.
* `CommandLine.Plan.outcome` — how a plan ends with given files.

## Main results

* `SceneObject.forall_error?_eq_none_iff` — **there is nothing to report exactly when every instance
  at every depth was expanded without error.**
* `SceneObject.warning?_eq_none_iff` — the same of warnings, with the mirrors that light meets.
* `Scene.no_failure_is_lost` — what the reports, the diagnostics and the command say about a scene.
-/

namespace OpticScene

open OpticScene.Module (Instance)

namespace SceneObject

/-! ### Lines -/

/-- The lines of a report about objects, from an index on, for those with a message. -/
def linesBy (message : SceneObject → Option String) (index : Nat) (objects : List SceneObject) :
    List String :=
  (objects.zipIdx index).filterMap fun (object, i) => (message object).map (reportLine i object)

theorem errorLines_eq (objects : List SceneObject) :
    ∀ index, errorLines index objects = linesBy error? index objects := by
  induction objects with
  | nil => exact fun _ => rfl
  | cons object objects ih =>
    intro index
    rw [errorLines, linesBy, List.zipIdx_cons, List.filterMap_cons]
    cases h : error? object <;> simp only [h, Option.map_none, Option.map_some, ih] <;> rfl

theorem warningLines_eq (objects : List SceneObject) :
    ∀ index, warningLines index objects = linesBy warning? index objects := by
  induction objects with
  | nil => exact fun _ => rfl
  | cons object objects ih =>
    intro index
    rw [warningLines, linesBy, List.zipIdx_cons, List.filterMap_cons]
    cases h : warning? object <;> simp only [h, Option.map_none, Option.map_some, ih] <;> rfl

variable {message : SceneObject → Option String} {objects : List SceneObject}

theorem mem_linesBy {i : Nat} {object : SceneObject} {text : String}
    (ho : objects[i]? = some object) (h : message object = some text) :
    reportLine i object text ∈ linesBy message 0 objects := by
  have hmem : (object, i) ∈ objects.zipIdx := List.mk_mem_zipIdx_iff_getElem?.mpr ho
  exact List.mem_filterMap.mpr ⟨(object, i), hmem, congrArg (Option.map (reportLine i object)) h⟩

theorem reportLine_module (i : Nat) (inst : Instance SceneObject) (text : String) :
    reportLine i (.module inst) text = "obj #" ++ toString i ++ " (ModuleObj): " ++ text := by
  have htag : " (" ++ ((SceneObject.module inst).tag ++ "): ") = " (ModuleObj): " := rfl
  rw [reportLine, ← htag]
  simp only [String.append_assoc]

/-- A report has no lines when there is no message. -/
theorem linesBy_eq_nil_iff : linesBy message 0 objects = [] ↔ ∀ o ∈ objects, message o = none := by
  rw [linesBy, List.filterMap_eq_nil_iff]
  constructor
  · intro h o ho
    obtain ⟨i, hi⟩ := List.mem_iff_getElem?.mp ho
    exact Option.map_eq_none_iff.mp (h (o, i) (List.mk_mem_zipIdx_iff_getElem?.mpr hi))
  · rintro h ⟨o, i⟩ hi
    have ho : o ∈ objects := List.mem_of_getElem? (List.mk_mem_zipIdx_iff_getElem?.mp hi)
    exact Option.map_eq_none_iff.mpr (h o ho)

theorem report_eq_none_iff {lines : List String} : report lines = none ↔ lines = [] := by
  cases lines <;> simp [report]

theorem report_of_mem {line : String} {lines : List String} (h : line ∈ lines) :
    report lines = some ("\n".intercalate lines) := by
  cases lines with
  | nil => cases h
  | cons => rfl

/-! ### Trees of objects -/

section

variable {P : SceneObject → Prop}

mutual

/-- What holds of plain objects, and of an instance once it holds of all objects inside, holds of
every object. -/
theorem induct (plain : ∀ object, object.instance? = none → P object)
    (module : ∀ inst : Instance SceneObject, (∀ o ∈ inst.objects, P o) → P (.module inst)) :
    ∀ object, P object
  | .mirror m => plain (.mirror m) rfl
  | .blocker b => plain (.blocker b) rfl
  | .label l => plain (.label l) rfl
  | .module ⟨_, _, _, _, objects, _, _⟩ => module _ (inductAll plain module objects)

theorem inductAll (plain : ∀ object, object.instance? = none → P object)
    (module : ∀ inst : Instance SceneObject, (∀ o ∈ inst.objects, P o) → P (.module inst)) :
    ∀ objects : List SceneObject, ∀ o ∈ objects, P o
  | [] => fun _ h => absurd h List.not_mem_nil
  | object :: objects =>
    List.forall_mem_cons.mpr ⟨induct plain module object, inductAll plain module objects⟩

end

end

/-! ### Errors -/

/-- **An instance reports nothing if it was expanded without error and nothing inside reports
anything.** -/
theorem error?_module_eq_none_iff (inst : Instance SceneObject) :
    error? (.module inst) = none ↔
      inst.lastError = none ∧ ∀ o ∈ inst.objects, o.error? = none := by
  obtain ⟨name, d, points, params, objects, lastError, placement⟩ := inst
  cases lastError with
  | some e => simp [error?]
  | none => simp [error?, report_eq_none_iff, errorLines_eq, linesBy_eq_nil_iff]

theorem error?_of_plain {object : SceneObject} (h : object.instance? = none) :
    object.error? = none := by
  cases object with
  | module => cases h
  | _ => simp [error?]

theorem lastError_eq_none_of_occurs {inst : Instance SceneObject} {depth : Nat} :
    ∀ {objects : List SceneObject}, (∀ o ∈ objects, o.error? = none) →
      Occurs inst depth objects → inst.lastError = none := by
  intro objects h hi
  induction hi with
  | top hi => exact ((error?_module_eq_none_iff _).mp (h _ hi)).1
  | inside ho _ ih => exact ih ((error?_module_eq_none_iff _).mp (h _ ho)).2

theorem error?_eq_none_of_occurs (object : SceneObject) :
    (∀ inst depth, Occurs inst depth [object] → inst.lastError = none) →
      object.error? = none := by
  induction object using induct with
  | plain object hplain => exact fun _ => error?_of_plain hplain
  | module outer ih =>
    intro h
    have hself : outer.lastError = none := h outer 0 (.top List.mem_cons_self)
    have hinside : ∀ o ∈ outer.objects, o.error? = none := by
      intro o ho
      refine ih o ho fun inst depth hi => ?_
      -- what occurs in an object of the instance occurs one level deeper in the instance
      exact h inst (depth + 1) (.inside List.mem_cons_self (hi.of_singleton ho))
    exact (error?_module_eq_none_iff outer).mpr ⟨hself, hinside⟩

/-- **There is nothing to report exactly when every instance at every depth was expanded without
error.** -/
theorem forall_error?_eq_none_iff :
    (∀ o ∈ objects, o.error? = none) ↔
      ∀ inst depth, Occurs inst depth objects → inst.lastError = none := by
  constructor
  · exact fun h inst depth hi => lastError_eq_none_of_occurs h hi
  · intro h o ho
    exact error?_eq_none_of_occurs o fun inst depth hi => h inst depth (hi.of_singleton ho)

/-! ### Warnings -/

theorem mem_opticalAll_iff {object : SceneObject} :
    object ∈ opticalAll objects ↔ ∃ o ∈ objects, object ∈ o.optical := by
  induction objects with
  | nil => simp [opticalAll]
  | cons head objects ih => simp [opticalAll_cons, ih]

/-- The mirrors that light meets are those of all objects. -/
theorem forall_mirror_opticalAll_iff {P : Mirror → Prop} :
    (∀ m, .mirror m ∈ opticalAll objects → P m) ↔
      ∀ o ∈ objects, ∀ m, .mirror m ∈ o.optical → P m := by
  constructor
  · intro h o ho m hm
    exact h m (mem_opticalAll_iff.mpr ⟨o, ho, hm⟩)
  · intro h m hm
    obtain ⟨o, ho, hmo⟩ := mem_opticalAll_iff.mp hm
    exact h o ho m hmo

theorem warning?_module_eq_none_iff (inst : Instance SceneObject) :
    warning? (.module inst) = none ↔ ∀ o ∈ inst.objects, o.warning? = none := by
  obtain ⟨name, d, points, params, objects, lastError, placement⟩ := inst
  simp [warning?, report_eq_none_iff, warningLines_eq, linesBy_eq_nil_iff]

theorem warning?_mirror_eq_none_iff (m : Mirror) :
    warning? (.mirror m) = none ↔ m.p1.sameAs m.p2 = false := by
  rw [warning?, Mirror.warning?]
  cases m.p1.sameAs m.p2 <;> simp

/-- **There is no warning exactly when all mirrors that light meets have a length.** -/
theorem warning?_eq_none_iff (object : SceneObject) :
    object.warning? = none ↔ ∀ m, .mirror m ∈ object.optical → m.p1.sameAs m.p2 = false := by
  induction object using induct with
  | plain object hplain =>
    rw [optical_of_plain hplain]
    simp only [List.mem_singleton]
    cases object with
    | mirror m =>
      rw [warning?_mirror_eq_none_iff]
      simp
    | module => cases hplain
    | _ => simp [warning?]
  | module outer ih =>
    rw [warning?_module_eq_none_iff, optical_module, forall_mirror_opticalAll_iff]
    exact forall₂_congr ih

end SceneObject

namespace Scene

theorem errorReport?_eq_none_iff {s : Scene} :
    s.errorReport? = none ↔ ∀ o ∈ s.objects, o.error? = none := by
  rw [errorReport?, SceneObject.report_eq_none_iff, SceneObject.errorLines_eq,
    SceneObject.linesBy_eq_nil_iff]

theorem warningReport?_eq_none_iff {s : Scene} :
    s.warningReport? = none ↔ ∀ m, .mirror m ∈ s.optical → m.p1.sameAs m.p2 = false := by
  rw [warningReport?, SceneObject.report_eq_none_iff, SceneObject.warningLines_eq,
    SceneObject.linesBy_eq_nil_iff, optical, SceneObject.forall_mirror_opticalAll_iff]
  exact forall₂_congr fun o _ => SceneObject.warning?_eq_none_iff o

/-! ### Diagnostics -/

theorem diagnosticsFrom_eq (objects : List SceneObject) :
    ∀ index, diagnosticsFrom index objects =
      (objects.zipIdx index).filterMap fun (object, i) => object.diagnostic?.map (i, ·) := by
  induction objects with
  | nil => exact fun _ => rfl
  | cons object objects ih =>
    intro index
    rw [diagnosticsFrom, List.zipIdx_cons, List.filterMap_cons]
    cases h : object.diagnostic? <;> simp only [h, Option.map_none, Option.map_some, ih]

/-- The diagnostics come in the order of the objects, one for each at most. -/
theorem pairwise_diagnostics (s : Scene) : (s.diagnostics.map Prod.fst).Pairwise (· < ·) := by
  have hindices : (s.objects.zipIdx.map Prod.snd).Pairwise (· < ·) := by
    rw [List.zipIdx_map_snd]
    exact List.pairwise_lt_range'
  rw [List.pairwise_map] at hindices
  -- leaving out objects without a diagnostic keeps the order
  rw [diagnostics, diagnosticsFrom_eq, List.pairwise_map, List.pairwise_filterMap]
  refine hindices.imp fun {a b} hlt x hx y hy => ?_
  obtain ⟨d, -, rfl⟩ := Option.map_eq_some_iff.mp hx
  obtain ⟨d', -, rfl⟩ := Option.map_eq_some_iff.mp hy
  exact hlt

theorem diagnostic?_eq_some_iff {object : SceneObject} {d : Diagnostic} :
    object.diagnostic? = some d ↔
      ∃ inst e, object = .module inst ∧ inst.lastError = some e ∧ d = .ofError e := by
  simp only [SceneObject.diagnostic?, Option.bind_eq_some_iff, SceneObject.instance?_eq_some_iff,
    Option.map_eq_some_iff]
  constructor
  · rintro ⟨inst, rfl, e, he, rfl⟩
    exact ⟨inst, e, rfl, he, rfl⟩
  · rintro ⟨inst, e, rfl, he, rfl⟩
    exact ⟨inst, rfl, e, he, rfl⟩

theorem mem_diagnostics_iff {s : Scene} {i : Nat} {d : Diagnostic} :
    (i, d) ∈ s.diagnostics ↔
      ∃ inst e, s.objects[i]? = some (.module inst) ∧ inst.lastError = some e ∧
        d = .ofError e := by
  rw [diagnostics, diagnosticsFrom_eq, List.mem_filterMap]
  constructor
  · rintro ⟨⟨object, k⟩, hk, hd⟩
    obtain ⟨d', hd', heq⟩ := Option.map_eq_some_iff.mp hd
    cases heq
    obtain ⟨inst, e, rfl, he, rfl⟩ := diagnostic?_eq_some_iff.mp hd'
    exact ⟨inst, e, List.mk_mem_zipIdx_iff_getElem?.mp hk, he, rfl⟩
  · rintro ⟨inst, e, hi, he, rfl⟩
    have hd : (SceneObject.module inst).diagnostic? = some (.ofError e) :=
      diagnostic?_eq_some_iff.mpr ⟨inst, e, rfl, he, rfl⟩
    exact ⟨(.module inst, i), List.mk_mem_zipIdx_iff_getElem?.mpr hi,
      congrArg (Option.map (i, ·)) hd⟩

/-- An instance that could not be expanded has its line in the report. -/
theorem exists_errorReport?_eq {s : Scene} {i : Nat} {inst : Instance SceneObject} {e : SceneError}
    (hi : s.objects[i]? = some (.module inst)) (he : inst.lastError = some e) :
    ∃ before after, s.errorReport? = some ("\n".intercalate
      (before ++ ("obj #" ++ toString i ++ " (ModuleObj): " ++ e.text) :: after)) := by
  have hmessage : (SceneObject.module inst).error? = some e.text := by
    obtain ⟨name, d, points, params, objects, lastError, placement⟩ := inst
    obtain rfl : lastError = some e := he
    rw [SceneObject.error?]
  have hline := SceneObject.mem_linesBy hi hmessage
  obtain ⟨before, after, hlines⟩ := List.append_of_mem hline
  refine ⟨before, after, ?_⟩
  -- the lines before and after the one of the instance do not matter
  rw [errorReport?, SceneObject.errorLines_eq, SceneObject.report_of_mem hline, hlines,
    SceneObject.reportLine_module]

end Scene

/-! ### The command -/

namespace CommandLine

/-- How a plan ends when the files are read and written like this. -/
def Plan.outcome (read : String → Except FileError String)
    (write : String → String → Except FileError Unit) : Plan → Outcome
  | .done outcome => outcome
  | .read path next => (next (read path)).outcome read write
  | .write path contents next => (next (write path contents)).outcome read write

/-- The file at a path holds the document of a scene. -/
def HoldsScene (read : String → Except FileError String) (path : String) (s : Scene) : Prop :=
  ∃ contents v, read path = .ok contents ∧ Json.parse contents = .ok v ∧ loadScene path v = .ok s

variable {read : String → Except FileError String}
  {write : String → String → Except FileError Unit}

/-- A file holds one scene at most. -/
theorem HoldsScene.unique {path : String} {s t : Scene} (hs : HoldsScene read path s)
    (ht : HoldsScene read path t) : s = t := by
  obtain ⟨contents, v, hread, hparse, hload⟩ := hs
  obtain ⟨contents', v', hread', hparse', hload'⟩ := ht
  cases hread.symm.trans hread'
  cases hparse.symm.trans hparse'
  cases hload.symm.trans hload'
  rfl

/-- Checking a file looks at the scene that it holds, or fails because it holds none. -/
theorem outcome_checkPlan (read : String → Except FileError String)
    (write : String → String → Except FileError Unit) (options : CheckOptions) :
    (∃ s, HoldsScene read options.scenePath s ∧
      (checkPlan options).outcome read write = checkOutcome options s) ∨
    (∀ s, ¬ HoldsScene read options.scenePath s) ∧
      ∃ failure, (checkPlan options).outcome read write = .ofText (.error failure) := by
  unfold checkPlan readJson
  rw [Plan.outcome]
  rcases hread : read options.scenePath with e | contents
  · refine .inr ⟨?_, _, rfl⟩
    rintro s ⟨contents, v, hread', -⟩
    cases hread.symm.trans hread'
  dsimp only
  rcases hparse : Json.parse contents with e | v
  · refine .inr ⟨?_, _, rfl⟩
    rintro s ⟨contents', v, hread', hparse', -⟩
    cases hread.symm.trans hread'
    cases hparse.symm.trans hparse'
  dsimp only
  rcases hload : loadScene options.scenePath v with failure | s
  · refine .inr ⟨?_, _, rfl⟩
    rintro s ⟨contents', v', hread', hparse', hload'⟩
    cases hread.symm.trans hread'
    cases hparse.symm.trans hparse'
    cases hload.symm.trans hload'
  · exact .inl ⟨s, ⟨contents, v, hread, hparse, hload⟩, rfl⟩

theorem code_checkOutcome_eq_zero_iff (options : CheckOptions) (s : Scene) :
    (checkOutcome options s).code = 0 ↔ (withSeed options.seed s).errorReport? = none := by
  unfold checkOutcome
  dsimp only
  cases (withSeed options.seed s).errorReport? with
  | none => exact iff_of_true rfl rfl
  | some report => exact iff_of_false Nat.one_ne_zero (Option.some_ne_none report)

/-- **Checking a file succeeds exactly when it holds a scene that has nothing to report.** -/
theorem code_checkPlan_eq_zero_iff (options : CheckOptions) :
    ((checkPlan options).outcome read write).code = 0 ↔
      ∃ s, HoldsScene read options.scenePath s ∧
        (withSeed options.seed s).errorReport? = none := by
  rcases outcome_checkPlan read write options with
    ⟨s, hs, houtcome⟩ | ⟨hnone, failure, houtcome⟩
  · rw [houtcome, code_checkOutcome_eq_zero_iff]
    constructor
    · exact fun h => ⟨s, hs, h⟩
    · rintro ⟨t, ht, h⟩
      rwa [hs.unique ht]
  · rw [houtcome]
    refine iff_of_false Nat.one_ne_zero ?_
    rintro ⟨s, hs, -⟩
    exact hnone s hs

end CommandLine

namespace Scene

open SceneObject (Occurs)
open CommandLine (CheckOptions FileError HoldsScene checkPlan)

theorem errorReport?_eq_none_iff_forall_occurs (s : Scene) :
    s.errorReport? = none ↔ ∀ inst depth, Occurs inst depth s.objects → inst.lastError = none :=
  errorReport?_eq_none_iff.trans SceneObject.forall_error?_eq_none_iff

/-- **No failure is lost.**  There is an error report exactly when some instance at some depth could
not be expanded, and a warning report exactly when light meets a mirror without length.  The
diagnostics are those of the instances at the top level that could not be expanded, in their order,
and each of these has its line in the error report.  Checking a file that holds the scene fails
exactly when some instance at some depth cannot be expanded. -/
theorem no_failure_is_lost (s : Scene) :
    (s.errorReport? = none ↔
      ∀ inst depth, Occurs inst depth s.objects → inst.lastError = none) ∧
    (s.warningReport? = none ↔ ∀ m, .mirror m ∈ s.optical → m.p1.sameAs m.p2 = false) ∧
    (s.diagnostics.map Prod.fst).Pairwise (· < ·) ∧
    (∀ i d, (i, d) ∈ s.diagnostics ↔
      ∃ inst e, s.objects[i]? = some (.module inst) ∧ inst.lastError = some e ∧
        d = .ofError e) ∧
    (∀ (i : Nat) (inst : Instance SceneObject) (e : SceneError),
      s.objects[i]? = some (.module inst) → inst.lastError = some e → ∃ before after,
        s.errorReport? = some ("\n".intercalate
          (before ++ ("obj #" ++ toString i ++ " (ModuleObj): " ++ e.text) :: after))) ∧
    ∀ (options : CheckOptions) (read : String → Except FileError String)
      (write : String → String → Except FileError Unit),
      HoldsScene read options.scenePath s →
        (((checkPlan options).outcome read write).code ≠ 0 ↔
          ∃ inst depth, Occurs inst depth (CommandLine.withSeed options.seed s).objects ∧
            inst.lastError ≠ none) := by
  refine ⟨errorReport?_eq_none_iff_forall_occurs s, warningReport?_eq_none_iff,
    pairwise_diagnostics s, fun i d => mem_diagnostics_iff,
    fun i inst e hi he => exists_errorReport?_eq hi he, ?_⟩
  intro options read write hs
  have hcode : ((checkPlan options).outcome read write).code = 0 ↔
      (CommandLine.withSeed options.seed s).errorReport? = none := by
    rw [CommandLine.code_checkPlan_eq_zero_iff]
    constructor
    · rintro ⟨t, ht, h⟩
      rwa [hs.unique ht]
    · exact fun h => ⟨s, hs, h⟩
  rw [ne_eq, hcode, errorReport?_eq_none_iff_forall_occurs]
  simp only [Classical.not_forall, exists_prop, ne_eq]

/-- The instance inside another one could not be expanded.  The diagnostics do not tell, but the
report does. -/
theorem no_failure_is_lost_inside :
    let s := empty.after
      [.define "inner"
          (.object [("objs", .array [.object [("type", .string "Lens")]])]),
        .define "outer"
          (.object
            [("objs",
              .array [.object [("type", .string "ModuleObj"), ("module", .string "inner")]])]),
        .add (.object [("type", .string "ModuleObj"), ("module", .string "outer")])]
    s.errorReport? =
        some "obj #0 (ModuleObj): obj #0 (ModuleObj): unknown object type \x60Lens\x60" ∧
      s.diagnostics = [] ∧
      ¬ ∀ inst depth, Occurs inst depth s.objects → inst.lastError = none := by
  intro s
  have hreport : s.errorReport? =
        some "obj #0 (ModuleObj): obj #0 (ModuleObj): unknown object type \x60Lens\x60" ∧
      s.diagnostics = [] := by
    decide +kernel
  obtain ⟨hquiet, -⟩ := no_failure_is_lost s
  refine ⟨hreport.1, hreport.2, fun h => ?_⟩
  rw [hquiet.mpr h] at hreport
  cases hreport.1

end Scene

end OpticScene
