import OpticScene.Proofs.Origin

/-!
# Refused operations

Every operation looks before it acts: it finds the object that it is about, checks what it was
given, and only then draws from the random stream and changes the scene.  So an operation that is
refused leaves the scene as it was.  The one exception is a definition, whose parameters may draw
from the stream before something turns out to be wrong with it.

## Main definitions

* `OnlyReads`, `NeverFails`, `FailsEarly` — computations that do not change the state, that do not
  fail, and that fail before they change the state.
* `Scene.refuses` — an operation is refused.
* `Scene.effective` — the operations of a run without those that are refused.

## Main results

* `FailsEarly.bind`, `OnlyReads.bind_failsEarly` — first all checks, then all changes.
* `Scene.failsEarly_edit` — **every operation but a definition fails early.**
* `Scene.refused_operation_leaves_no_trace` — what this means for one operation and for a run.
-/

namespace OpticScene

open OpticScene.Random (Draws Stream)
open OpticScene.Module (Builder Definition Instance Library)

/-! ### Early failures -/

section

variable {σ ε ε' α β : Type}

/-- The computation leaves the state as it is. -/
def OnlyReads (x : ExceptT ε (StateM σ) α) : Prop := ∀ s, (ExceptT.run x s).2 = s

/-- The computation does not fail. -/
def NeverFails (x : ExceptT ε (StateM σ) α) : Prop := ∀ s, ∃ a t, ExceptT.run x s = (.ok a, t)

/-- If the computation fails, it has not changed the state. -/
def FailsEarly (x : ExceptT ε (StateM σ) α) : Prop :=
  ∀ s e t, ExceptT.run x s = (.error e, t) → t = s

variable {x : ExceptT ε (StateM σ) α} {f : α → ExceptT ε (StateM σ) β}

namespace OnlyReads

theorem pure (a : α) : OnlyReads (pure a : ExceptT ε (StateM σ) α) := fun _ => rfl

theorem throw (e : ε) : OnlyReads (throw e : ExceptT ε (StateM σ) α) := fun _ => rfl

theorem get : OnlyReads (get : ExceptT ε (StateM σ) σ) := fun _ => rfl

theorem ofExcept (x : Except ε α) : OnlyReads (liftM x : ExceptT ε (StateM σ) α) := fun _ => rfl

theorem eq_of_run (h : OnlyReads x) {s t : σ} {r : Except ε α} (hrun : ExceptT.run x s = (r, t)) :
    t = s := by
  have hs := h s
  rw [hrun] at hs
  exact hs

theorem bind (hx : OnlyReads x) (hf : ∀ a, OnlyReads (f a)) : OnlyReads (x >>= f) := by
  intro s
  rcases h : ExceptT.run x s with ⟨e | a, t⟩
  · rw [run_bind_of_error h]
    exact hx.eq_of_run h
  · rw [run_bind_of_ok h, hf a t]
    exact hx.eq_of_run h

theorem failsEarly (h : OnlyReads x) : FailsEarly x := fun _ _ _ => h.eq_of_run

/-- What comes after checks may fail as long as it has not changed anything. -/
theorem bind_failsEarly (hx : OnlyReads x) (hf : ∀ a, FailsEarly (f a)) :
    FailsEarly (x >>= f) := by
  intro s e t hrun
  rcases h : ExceptT.run x s with ⟨e' | a, u⟩
  · rw [run_bind_of_error h] at hrun
    cases hrun
    exact hx.eq_of_run h
  · rw [run_bind_of_ok h] at hrun
    rw [hf a u e t hrun]
    exact hx.eq_of_run h

end OnlyReads

namespace NeverFails

theorem pure (a : α) : NeverFails (pure a : ExceptT ε (StateM σ) α) := fun s => ⟨a, s, rfl⟩

theorem modify (f : σ → σ) : NeverFails (modify f : ExceptT ε (StateM σ) PUnit) :=
  fun s => ⟨⟨⟩, f s, rfl⟩

theorem ofState (x : StateM σ α) : NeverFails (liftM x : ExceptT ε (StateM σ) α) :=
  fun s => ⟨(x s).1, (x s).2, rfl⟩

theorem bind (hx : NeverFails x) (hf : ∀ a, NeverFails (f a)) : NeverFails (x >>= f) := by
  intro s
  obtain ⟨a, t, ha⟩ := hx s
  rw [run_bind_of_ok ha]
  exact hf a t

theorem failsEarly (h : NeverFails x) : FailsEarly x := by
  intro s e t hrun
  obtain ⟨a, u, ha⟩ := h s
  rw [ha] at hrun
  cases hrun

end NeverFails

/-- **First all checks, then all changes.** -/
theorem FailsEarly.bind (hx : FailsEarly x) (hf : ∀ a, NeverFails (f a)) :
    FailsEarly (x >>= f) := by
  intro s e t hrun
  rcases h : ExceptT.run x s with ⟨e' | a, u⟩
  · rw [run_bind_of_error h] at hrun
    cases hrun
    exact hx s _ _ h
  -- once the checks have passed there is no failure left
  · obtain ⟨b, v, hb⟩ := hf a u
    rw [run_bind_of_ok h, hb] at hrun
    cases hrun

theorem FailsEarly.discard (hx : FailsEarly x) : FailsEarly (discard x) :=
  hx.bind fun _ => .pure _

end

/-! ### Instances -/

namespace Module.Instance

variable {Obj : Type} (builder : Builder Obj) (inst : Instance Obj)

theorem failsEarly_place (p : Point) : FailsEarly (inst.place builder p) := by
  unfold place
  split
  · exact (OnlyReads.throw _).failsEarly
  · dsimp only
    split
    · exact (NeverFails.ofState _).failsEarly
    · exact (OnlyReads.pure _).failsEarly

theorem failsEarly_setPoint (index : Nat) (p : Point) :
    FailsEarly (inst.setPoint builder index p) := by
  unfold setPoint
  split
  · exact (NeverFails.ofState _).failsEarly
  · exact (OnlyReads.throw _).failsEarly

theorem failsEarly_setParam (name : String) (value : Float) :
    FailsEarly (inst.setParam builder name value) := by
  unfold setParam
  split
  · exact (NeverFails.ofState _).failsEarly
  · exact (OnlyReads.throw _).failsEarly

/-- A record is read and its module looked up before anything is expanded. -/
theorem failsEarly_ofRecord (library : Library) (record : Json) :
    FailsEarly (ofRecord library builder record) := by
  refine (OnlyReads.ofExcept _).bind_failsEarly fun fields => ?_
  refine (OnlyReads.ofExcept _).bind_failsEarly fun core => ?_
  exact (NeverFails.ofState _).failsEarly

end Module.Instance

namespace Registry

variable (library : Library) (builder : Module.Builder SceneObject)

theorem failsEarly_make (record : Json) (kind : SceneObject.Kind) :
    FailsEarly (make library builder record kind) := by
  cases kind with
  | module => exact (Instance.failsEarly_ofRecord builder library record).bind fun _ => .pure _
  | _ => exact (OnlyReads.ofExcept _).bind_failsEarly fun _ => (OnlyReads.pure _).failsEarly

/-- **A record that is refused draws nothing.** -/
theorem failsEarly_instantiateWith (registry : Registry) (record : Json) :
    FailsEarly (registry.instantiateWith library builder record) := by
  unfold instantiateWith createWith Of.createBy
  split
  · split
    · exact failsEarly_make library builder record _
    · exact (OnlyReads.throw _).failsEarly
  · exact (OnlyReads.throw _).failsEarly

end Registry

namespace Scene

/-! ### Edits -/

theorem failsEarly_drawing {α : Type} {action : Draws SceneError α} (h : FailsEarly action) :
    FailsEarly (drawing action) := by
  intro s e t hrun
  rw [run_drawing] at hrun
  rcases ha : ExceptT.run action s.stream with ⟨e' | a, u⟩
  · rw [ha] at hrun
    cases hrun
    have hu : u = s.stream := h _ _ _ ha
    rw [hu]
  · rw [ha] at hrun
    cases hrun

theorem neverFails_drawing {α : Type} {action : Draws SceneError α} (h : NeverFails action) :
    NeverFails (drawing action) := by
  intro s
  obtain ⟨a, t, ha⟩ := h s.stream
  rw [run_drawing, ha]
  exact ⟨a, { s with stream := t }, rfl⟩

theorem onlyReads_objectAt (index : Nat) : OnlyReads (objectAt index) := by
  refine OnlyReads.get.bind fun s => ?_
  split
  · exact .pure _
  · exact .throw _

theorem onlyReads_instanceAt (index : Nat) : OnlyReads (instanceAt index) := by
  refine (onlyReads_objectAt index).bind fun object => ?_
  split
  · exact .pure _
  · exact .throw _

theorem neverFails_append (object : SceneObject) : NeverFails (append object) := by
  intro s
  exact ⟨s.objects.length, { s with objects := s.objects ++ [object] }, rfl⟩

theorem neverFails_changeInstances
    (change : Scene → Instance SceneObject → StateM Stream (Instance SceneObject)) :
    NeverFails (changeInstances change) := by
  intro s
  exact ⟨(), s.changed (change s), run_changeInstances s change⟩

theorem failsEarly_add (record : Json) : FailsEarly (add record) := by
  refine OnlyReads.get.bind_failsEarly fun s => ?_
  have hrecord := Registry.failsEarly_instantiateWith s.library
    (s.registry.builder s.library Module.maxDepth) s.registry record
  exact (failsEarly_drawing hrecord).bind neverFails_append

theorem failsEarly_beginPlacement (name : String) : FailsEarly (beginPlacement name) := by
  refine OnlyReads.get.bind_failsEarly fun s => ?_
  split
  · exact ((neverFails_drawing (.ofState _)).bind fun _ => neverFails_append _).failsEarly
  · exact (OnlyReads.throw _).failsEarly

/-- The instance is looked up before it is changed, and it is put back after that. -/
theorem failsEarly_changeInstance (index : Nat)
    {change : Scene → Instance SceneObject → Draws SceneError (Instance SceneObject)}
    (h : ∀ s inst, FailsEarly (change s inst)) : FailsEarly (changeInstance index change) := by
  refine (onlyReads_instanceAt index).bind_failsEarly fun inst => ?_
  refine OnlyReads.get.bind_failsEarly fun s => ?_
  refine (failsEarly_drawing (h s inst)).bind fun inst' => ?_
  exact (NeverFails.modify _).bind fun _ => .pure _

theorem failsEarly_translate (index : Nat) (delta : Point) :
    FailsEarly (Scene.translate index delta) := by
  refine (onlyReads_objectAt index).bind_failsEarly fun object => ?_
  refine OnlyReads.get.bind_failsEarly fun s => ?_
  exact ((neverFails_drawing (.ofState _)).bind fun _ => .modify _).failsEarly

theorem failsEarly_remove (index : Nat) : FailsEarly (remove index) := by
  refine (onlyReads_objectAt index).bind_failsEarly fun object => ?_
  refine OnlyReads.get.bind_failsEarly fun s => ?_
  exact ((NeverFails.modify _).bind fun _ => .pure _).failsEarly

theorem failsEarly_demodulize (index : Nat) : FailsEarly (demodulize index) := by
  refine (onlyReads_instanceAt index).bind_failsEarly fun inst => ?_
  refine OnlyReads.get.bind_failsEarly fun s => ?_
  exact ((NeverFails.modify _).bind fun _ => .pure _).failsEarly

theorem neverFails_refresh : NeverFails Scene.refresh :=
  (NeverFails.modify _).bind fun _ => neverFails_changeInstances _

/-! ### Operations -/

/-- Whether the operation defines a module. -/
def Operation.isDefinition : Operation → Bool
  | .define _ _ => true
  | _ => false

/-- **Every operation but a definition fails early.** -/
theorem failsEarly_edit {op : Operation} (h : op.isDefinition = false) : FailsEarly op.edit := by
  cases op with
  | define => cases h
  | add record => exact (failsEarly_add record).discard
  | beginPlacement name => exact (failsEarly_beginPlacement name).discard
  | place index p =>
    have hchange := failsEarly_changeInstance index fun s inst =>
      Instance.failsEarly_place s.builder inst (s.snapped p)
    exact (hchange.bind fun _ => .pure _).discard
  | translate index delta => exact failsEarly_translate index delta
  | setParam index name x =>
    have hchange := failsEarly_changeInstance index fun s inst =>
      Instance.failsEarly_setParam s.builder inst name x
    exact hchange.bind fun _ => .pure _
  | setPoint index pointIndex p =>
    have hchange := failsEarly_changeInstance index fun s inst =>
      Instance.failsEarly_setPoint s.builder inst pointIndex p
    exact hchange.bind fun _ => .pure _
  | remove index => exact (failsEarly_remove index).discard
  | demodulize index => exact (failsEarly_demodulize index).discard
  | refresh => exact neverFails_refresh.failsEarly
  | reseed seed => exact ((NeverFails.modify _).bind fun _ => neverFails_refresh).failsEarly
  | setGrid spacing => exact (NeverFails.modify _).failsEarly

/-- A definition is refused before it gets into the library, but its parameters may have drawn. -/
theorem eq_of_run_define_eq_error {s t : Scene} {name : String} {json : Json} {e : SceneError}
    (h : s.run (Operation.define name json).edit = (.error e, t)) :
    t = { s with stream := t.stream } := by
  have hscene : s.perform (.define name json) = t := congrArg Prod.snd h
  rcases hread : ExceptT.run (Definition.ofRecord json) s.stream with ⟨cause | d, u⟩
  · rw [perform_define_of_error hread] at hscene
    rw [← hscene]
  · have hrun : s.run (Operation.define name json).edit = (.ok (), s.defined name d u) :=
      run_bind_of_ok (run_define_of_ok hread name)
    rw [hrun] at h
    cases h

/-! ### Runs -/

/-- The scene does not accept the operation. -/
def refuses (s : Scene) (op : Operation) : Bool :=
  match (s.run op.edit).1 with
  | .error _ => true
  | .ok _ => false

/-- The step of a run is a refused one that cannot have drawn from the stream. -/
def isVain (p : Scene × Operation) : Bool := p.1.refuses p.2 && !p.2.isDefinition

/-- The operations of a run without the vain ones. -/
def effective (s : Scene) (ops : List Operation) : List Operation :=
  ((s.steps ops).filter fun p => !isVain p).map Prod.snd

variable {s : Scene} {op : Operation}

theorem refuses_iff : s.refuses op = true ↔ ∃ e t, s.run op.edit = (.error e, t) := by
  unfold refuses
  rcases s.run op.edit with ⟨e | a, t⟩ <;> simp

theorem perform_of_isVain (h : isVain (s, op) = true) : s.perform op = s := by
  obtain ⟨hrefused, hdefinition⟩ := Bool.and_eq_true_iff.mp h
  obtain ⟨e, t, hrun⟩ := refuses_iff.mp hrefused
  have ht : t = s := failsEarly_edit ((Bool.not_eq_true' _).mp hdefinition) s e t hrun
  rw [perform, hrun, ht]

theorem effective_cons (s : Scene) (op : Operation) (ops : List Operation) :
    s.effective (op :: ops) =
      if isVain (s, op) then s.effective ops else op :: (s.perform op).effective ops := by
  cases h : isVain (s, op)
  · simp [effective, steps, h]
  · simp [effective, steps, h, perform_of_isVain h]

/-- Without the vain operations, all others are performed on the same scenes. -/
theorem steps_effective (ops : List Operation) :
    ∀ s : Scene, s.steps (s.effective ops) = (s.steps ops).filter fun p => !isVain p := by
  induction ops with
  | nil => intro s; rfl
  | cons op ops ih =>
    intro s
    rw [effective_cons]
    -- after a vain operation the run goes on from the same scene
    cases h : isVain (s, op)
    · simp [steps, h, ih]
    · simp [steps, h, perform_of_isVain h, ih]

theorem after_effective (ops : List Operation) :
    ∀ s : Scene, s.after (s.effective ops) = s.after ops := by
  induction ops with
  | nil => intro s; rfl
  | cons op ops ih =>
    intro s
    have hnext : s.after (op :: ops) = (s.perform op).after ops := rfl
    rw [effective_cons, hnext]
    cases h : isVain (s, op)
    · exact ih (s.perform op)
    · rw [perform_of_isVain h]
      exact ih s

/-- **A refused operation leaves no trace.**  The objects, the modules, the registry, the seed and
the grid are what they were; and unless a module was to be defined, the random stream is where it
was, so that nothing at all has changed.  Leaving such operations out of a run changes neither the
scenes that the others are performed on nor the scene at the end. -/
theorem refused_operation_leaves_no_trace (s : Scene) :
    (∀ (op : Operation) e t, s.run op.edit = (.error e, t) →
      t = { s with stream := t.stream } ∧ (op.isDefinition = false → t = s)) ∧
    ∀ ops, s.steps (s.effective ops) = (s.steps ops).filter (fun p => !isVain p) ∧
      s.after (s.effective ops) = s.after ops := by
  refine ⟨fun op e t hrun => ?_, fun ops => ⟨steps_effective ops s, after_effective ops s⟩⟩
  have hearly : op.isDefinition = false → t = s := fun h => failsEarly_edit h s e t hrun
  refine ⟨?_, hearly⟩
  cases op with
  | define name json => exact eq_of_run_define_eq_error hrun
  | _ => rw [hearly rfl]

/-- A parameter that no module declares cannot be set.  A definition that declares a parameter twice
is refused too, but its first parameter has been drawn by then. -/
theorem refused_operation_leaves_no_trace_after_placement :
    let s := empty.after (placement [])
    let twice : Json :=
      .object [("params", .array [.string "c=random():1:9", .string "c=0:1:9"])]
    (∃ e, s.run (Operation.setParam 0 "c" 5.0).edit = (.error e, s)) ∧
      ∃ e t, s.run (Operation.define "n" twice).edit = (.error e, t) ∧
        t.stream ≠ s.stream ∧ t = { s with stream := t.stream } := by
  intro s twice
  have hrefused : s.refuses (.setParam 0 "c" 5.0) = true ∧ s.refuses (.define "n" twice) = true ∧
      (s.perform (.define "n" twice)).stream ≠ s.stream := by
    decide +kernel
  obtain ⟨hparam, hdefine, hstream⟩ := hrefused
  obtain ⟨honce, -⟩ := refused_operation_leaves_no_trace s
  constructor
  · obtain ⟨e, t, hrun⟩ := refuses_iff.mp hparam
    have ht : t = s := (honce _ e t hrun).2 rfl
    rw [ht] at hrun
    exact ⟨e, hrun⟩
  · obtain ⟨e, t, hrun⟩ := refuses_iff.mp hdefine
    rw [perform, hrun] at hstream
    exact ⟨e, t, hrun, hstream, (honce _ e t hrun).1⟩

end Scene

end OpticScene
