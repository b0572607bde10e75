import OpticScene.Scene.Document
import OpticScene.Proofs.Instance

/-!
# Runs of operations

A scene is changed by one operation after the other.  An operation may be refused; the run goes on
all the same.  What an operation can do to a scene is said once, by `Effect`: every statement about
runs is a case analysis on it.

## Main definitions

* `Scene.Operation`, `Scene.perform` — the operations, and a scene after one of them.
* `Scene.moments`, `Scene.steps` — the scenes along a run, and its operations with the scenes before
  them.
* `Scene.IsStart`, `Scene.Reachable` — where runs start, and where they lead.
* `Scene.redefinition`, `Scene.placement` — a run that leaves an instance inside another one behind
  its module, and one that places an instance with parameters.
* `Scene.Effect` — what an operation does.

## Main results

* `Scene.effect_perform` — **every operation has one of the effects.**
-/

namespace OpticScene

open OpticScene.Random (Draws Stream)
open OpticScene.Module (Definition Instance)

namespace Scene

/-- What can be done to a scene. -/
inductive Operation where
  /-- Add or replace a module. -/
  | define (name : String) (definition : Json)
  /-- Add the object of a record. -/
  | add (record : Json)
  /-- Start to place an instance of a module. -/
  | beginPlacement (name : String)
  /-- Place the next control point of an instance. -/
  | place (index : Nat) (p : Point)
  /-- Move an object. -/
  | translate (index : Nat) (delta : Point)
  /-- Set a parameter of an instance. -/
  | setParam (index : Nat) (name : String) (x : Float)
  /-- Move a control point of an instance. -/
  | setPoint (index pointIndex : Nat) (p : Point)
  /-- Remove an object. -/
  | remove (index : Nat)
  /-- Put the objects of an instance in its place. -/
  | demodulize (index : Nat)
  /-- Expand every instance anew. -/
  | refresh
  /-- Expand every instance anew with another seed. -/
  | reseed (seed : UInt64)
  /-- Change the grid. -/
  | setGrid (spacing : Option Float)

/-- The edit that an operation makes. -/
def Operation.edit : Operation → Edit Unit
  | .define name definition => discard (Scene.define name definition)
  | .add record => discard (Scene.add record)
  | .beginPlacement name => discard (Scene.beginPlacement name)
  | .place index p => discard (Scene.place index p)
  | .translate index delta => Scene.translate index delta
  | .setParam index name x => Scene.setParam index name x
  | .setPoint index pointIndex p => Scene.setPoint index pointIndex p
  | .remove index => discard (Scene.remove index)
  | .demodulize index => discard (Scene.demodulize index)
  | .refresh => Scene.refresh
  | .reseed seed => Scene.reseed seed
  | .setGrid spacing => Scene.setGrid spacing

/-- The operations that make the scene of a document. -/
def Operation.loads : Operation → Bool
  | .define _ _ => true
  | .add _ => true
  | _ => false

/-- The scene after an operation, whether it is refused or not. -/
def perform (scene : Scene) (op : Operation) : Scene := (scene.run op.edit).2

/-- The scene after some operations. -/
def after (scene : Scene) (ops : List Operation) : Scene := ops.foldl perform scene

/-- The scenes along a run, the first and the last one included. -/
def moments (scene : Scene) : List Operation → List Scene
  | [] => [scene]
  | op :: ops => scene :: moments (scene.perform op) ops

/-- The operations of a run with the scenes that they are performed on. -/
def steps (scene : Scene) : List Operation → List (Scene × Operation)
  | [] => []
  | op :: ops => (scene, op) :: steps (scene.perform op) ops

/-- Runs start from a scene without objects and modules, or from that of a document. -/
inductive IsStart : Scene → Prop
  /-- An empty scene. -/
  | empty (registry : Registry) (seed : UInt64) : IsStart (withRegistry registry seed)
  /-- The scene of a document. -/
  | document {doc : Document} {scene : Scene} : ofDocument doc = .ok scene → IsStart scene

/-- The scenes that some run leads to. -/
inductive Reachable : Scene → Prop
  /-- The start of a run. -/
  | start {scene : Scene} : IsStart scene → Reachable scene
  /-- One more operation. -/
  | step {scene : Scene} (op : Operation) : Reachable scene → Reachable (scene.perform op)

/-- A run that gives a module another definition after it has been expanded inside an instance of
another module. -/
def redefinition : List Operation :=
  [.define "inner" (.object []),
    .define "outer"
      (.object
        [("objs",
          .array [.object [("type", .string "ModuleObj"), ("module", .string "inner")]])]),
    .add (.object [("type", .string "ModuleObj"), ("module", .string "outer")]),
    .define "inner"
      (.object
        [("objs",
          .array
            [.object [("type", .string "TextLabel"), ("x", .ofInt 0), ("y", .ofInt 0)]])])]

/-- A run that places an instance with two parameters; `edits` come before its only point. -/
def placement (edits : List Operation) : List Operation :=
  [.define "m"
      (.object
        [("numPoints", .ofNat 1), ("params", .array [.string "a=0:1:9", .string "b=0:1:9"])]),
    .beginPlacement "m"] ++ edits ++ [.place 0 .zero]

/-- The objects inside an object. -/
def inside (object : SceneObject) : List SceneObject :=
  object.instance?.elim [] fun inst => inst.objects

/-- Where a label stands. -/
def labelPosition? : SceneObject → Option (Float × Float)
  | .label label => some (label.x, label.y)
  | _ => none

/-! ### What each operation does -/

theorem run_drawing (action : Draws SceneError α) (s : Scene) :
    ExceptT.run (drawing action) s =
      ((ExceptT.run action s.stream).1, { s with stream := (ExceptT.run action s.stream).2 }) := by
  rw [drawing, run_bind_of_ok (run_get s)]
  rcases ExceptT.run action s.stream with ⟨r, t⟩
  rfl

/-- What is told about the result of an edit does not matter to the scene. -/
theorem snd_run_bind_pure (edit : Edit α) (f : α → β) (s : Scene) :
    (s.run (edit >>= fun a => pure (f a))).2 = (s.run edit).2 := by
  change (ExceptT.run (edit >>= fun a => pure (f a)) s).2 = (ExceptT.run edit s).2
  rw [run_bind]
  rcases ExceptT.run edit s with ⟨e | a, t⟩ <;> rfl

/-- Most operations are edits whose result nobody asks for. -/
theorem perform_of_edit {op : Operation} {edit : Edit α} (h : op.edit = discard edit) (s : Scene) :
    s.perform op = (ExceptT.run edit s).2 := by
  rw [perform, h]
  exact snd_run_bind_pure edit (fun _ => ()) s

theorem run_objectAt_of_some {s : Scene} {index : Nat} {object : SceneObject}
    (h : s.objects[index]? = some object) : ExceptT.run (objectAt index) s = (.ok object, s) := by
  rw [objectAt, run_bind_of_ok (run_get s), h]
  rfl

theorem run_objectAt_of_none {s : Scene} {index : Nat} (h : s.objects[index]? = none) :
    ExceptT.run (objectAt index) s = (.error (.indexOutOfRange index s.objects.length), s) := by
  rw [objectAt, run_bind_of_ok (run_get s), h]
  rfl

theorem run_instanceAt_of_some {s : Scene} {index : Nat} {inst : Instance SceneObject}
    (h : s.objects[index]? = some (.module inst)) :
    ExceptT.run (instanceAt index) s = (.ok inst, s) := by
  rw [instanceAt, run_bind_of_ok (run_objectAt_of_some h)]
  rfl

theorem run_instanceAt_of_ne {s : Scene} {index : Nat}
    (h : ∀ inst, s.objects[index]? ≠ some (.module inst)) :
    ∃ e, ExceptT.run (instanceAt index) s = (.error e, s) := by
  rcases ho : s.objects[index]? with _ | object
  · exact ⟨_, run_bind_of_error (run_objectAt_of_none ho)⟩
  · refine ⟨.notAModule index, ?_⟩
    rw [instanceAt, run_bind_of_ok (run_objectAt_of_some ho)]
    cases object with
    | module inst => exact absurd ho (h inst)
    | _ => rfl

/-- The scene with its instances changed one after the other. -/
def changed (s : Scene)
    (change : Instance SceneObject → StateM Stream (Instance SceneObject)) : Scene :=
  { s with
    objects := (mapInstances change s.objects s.stream).1
    stream := (mapInstances change s.objects s.stream).2 }

theorem run_changeInstances (s : Scene)
    (change : Scene → Instance SceneObject → StateM Stream (Instance SceneObject)) :
    ExceptT.run (changeInstances change) s = (.ok (), s.changed (change s)) := by
  rw [changeInstances, run_bind_of_ok (run_get s), run_bind, run_drawing, run_ofState]
  rfl

/-- The scene with a module added or replaced, once its record is read. -/
def defined (s : Scene) (name : String) (d : Definition) (stream : Stream) : Scene :=
  let next := { s with library := s.library.insert name d, stream }
  next.changed (rebindNamed name d next)

/-- The scene with every instance expanded anew from the start of the stream of a seed. -/
def refreshed (s : Scene) (seed : UInt64) : Scene :=
  let next := { s with seed, stream := .ofSeed seed }
  next.changed fun inst => inst.refresh next.builder

theorem run_define_of_ok {s : Scene} {json : Json} {d : Definition} {t : Stream}
    (h : ExceptT.run (Definition.ofRecord json) s.stream = (.ok d, t)) (name : String) :
    ExceptT.run (Scene.define name json) s = (.ok d, s.defined name d t) := by
  have hread : ExceptT.run
      (drawing ((Definition.ofRecord json).adapt (SceneError.ofDefinition name))) s =
        (.ok d, { s with stream := t }) := by
    rw [run_drawing, run_adapt, h]
    rfl
  rw [Scene.define, run_bind_of_ok hread, run_bind_of_ok (run_modify _ _),
    run_bind_of_ok (run_changeInstances _ _)]
  rfl

theorem perform_define_of_ok {s : Scene} {json : Json} {d : Definition} {t : Stream}
    (h : ExceptT.run (Definition.ofRecord json) s.stream = (.ok d, t)) (name : String) :
    s.perform (.define name json) = s.defined name d t :=
  (perform_of_edit rfl s).trans (congrArg Prod.snd (run_define_of_ok h name))

theorem perform_define_of_error {s : Scene} {json : Json} {e : Module.DefinitionCause} {t : Stream}
    (h : ExceptT.run (Definition.ofRecord json) s.stream = (.error e, t)) (name : String) :
    s.perform (.define name json) = { s with stream := t } := by
  refine (perform_of_edit rfl s).trans ?_
  rw [Scene.define, run_bind, run_drawing, run_adapt, h]
  rfl

theorem run_add_of_ok {s : Scene} {record : Json} {object : SceneObject} {t : Stream}
    (h : ExceptT.run (s.registry.instantiate s.library Module.maxDepth record) s.stream =
      (.ok object, t)) :
    ExceptT.run (Scene.add record) s =
      (.ok s.objects.length, { s with objects := s.objects ++ [object], stream := t }) := by
  rw [Scene.add, run_bind_of_ok (run_get s), run_bind, run_drawing, h]
  rfl

theorem perform_add_of_ok {s : Scene} {record : Json} {object : SceneObject} {t : Stream}
    (h : ExceptT.run (s.registry.instantiate s.library Module.maxDepth record) s.stream =
      (.ok object, t)) :
    s.perform (.add record) = { s with objects := s.objects ++ [object], stream := t } :=
  (perform_of_edit rfl s).trans (congrArg Prod.snd (run_add_of_ok h))

theorem perform_add_of_error {s : Scene} {record : Json} {e : SceneError} {t : Stream}
    (h : ExceptT.run (s.registry.instantiate s.library Module.maxDepth record) s.stream =
      (.error e, t)) :
    s.perform (.add record) = { s with stream := t } := by
  refine (perform_of_edit rfl s).trans ?_
  rw [Scene.add, run_bind_of_ok (run_get s), run_bind, run_drawing, h]

theorem run_beginPlacement_of_some {s : Scene} {name : String} {d : Definition}
    (h : s.library.find? name = some d) :
    ExceptT.run (Scene.beginPlacement name) s =
      (.ok s.objects.length,
        { s with
          objects :=
            s.objects ++ [.module ((Instance.begun name d).refresh s.builder s.stream).1]
          stream := ((Instance.begun name d).refresh s.builder s.stream).2 }) := by
  have hstart : ExceptT.run (drawing (liftM (Instance.start s.builder name d))) s =
      (.ok ((Instance.begun name d).refresh s.builder s.stream).1,
        { s with stream := ((Instance.begun name d).refresh s.builder s.stream).2 }) := by
    rw [run_drawing, run_ofState, Instance.start_eq]
  rw [Scene.beginPlacement, run_bind_of_ok (run_get s), h]
  exact run_bind_of_ok hstart

theorem perform_beginPlacement_of_some {s : Scene} {name : String} {d : Definition}
    (h : s.library.find? name = some d) :
    s.perform (.beginPlacement name) =
      { s with
        objects :=
          s.objects ++ [.module ((Instance.begun name d).refresh s.builder s.stream).1]
        stream := ((Instance.begun name d).refresh s.builder s.stream).2 } :=
  (perform_of_edit rfl s).trans (congrArg Prod.snd (run_beginPlacement_of_some h))

theorem perform_beginPlacement_of_none {s : Scene} {name : String}
    (h : s.library.find? name = none) : s.perform (.beginPlacement name) = s := by
  refine (perform_of_edit rfl s).trans ?_
  rw [Scene.beginPlacement, run_bind_of_ok (run_get s), h]
  rfl

theorem run_changeInstance_of_ok {s : Scene} {index : Nat} {inst inst' : Instance SceneObject}
    {change : Scene → Instance SceneObject → Draws SceneError (Instance SceneObject)} {t : Stream}
    (hi : s.objects[index]? = some (.module inst))
    (h : ExceptT.run (change s inst) s.stream = (.ok inst', t)) :
    ExceptT.run (changeInstance index change) s =
      (.ok inst', { s with objects := s.objects.set index (.module inst'), stream := t }) := by
  rw [changeInstance, run_bind_of_ok (run_instanceAt_of_some hi), run_bind_of_ok (run_get s),
    run_bind, run_drawing, h]
  rfl

theorem run_changeInstance_of_error {s : Scene} {index : Nat} {inst : Instance SceneObject}
    {change : Scene → Instance SceneObject → Draws SceneError (Instance SceneObject)} {t : Stream}
    {e : SceneError} (hi : s.objects[index]? = some (.module inst))
    (h : ExceptT.run (change s inst) s.stream = (.error e, t)) :
    ExceptT.run (changeInstance index change) s = (.error e, { s with stream := t }) := by
  rw [changeInstance, run_bind_of_ok (run_instanceAt_of_some hi), run_bind_of_ok (run_get s),
    run_bind, run_drawing, h]

theorem run_changeInstance_of_ne {s : Scene} {index : Nat}
    (change : Scene → Instance SceneObject → Draws SceneError (Instance SceneObject))
    (hi : ∀ inst, s.objects[index]? ≠ some (.module inst)) :
    ∃ e, ExceptT.run (changeInstance index change) s = (.error e, s) := by
  obtain ⟨e, he⟩ := run_instanceAt_of_ne hi
  exact ⟨e, run_bind_of_error he⟩

/-- The edit of one instance that an operation asks for, with the index of the instance. -/
def Operation.editOf? (scene : Scene) : Operation → Option (Nat × Instance.Edit)
  | .place index p => some (index, .place (scene.snapped p))
  | .translate index delta => some (index, .translate delta)
  | .setParam index name x => some (index, .setParam name x)
  | .setPoint index pointIndex p => some (index, .setPoint pointIndex p)
  | _ => none

/-- The scene with the instance at an index put into another state and expanded. -/
def edited (s : Scene) (index : Nat) (core : Instance SceneObject) : Scene :=
  { s with
    objects := s.objects.set index (.module (core.refresh s.builder s.stream).1)
    stream := (core.refresh s.builder s.stream).2 }

/-- The operations on one instance apply their edit to it. -/
theorem perform_editOf {s : Scene} {op : Operation} {index : Nat} {edit : Instance.Edit}
    (hop : op.editOf? s = some (index, edit)) {inst : Instance SceneObject}
    (hi : s.objects[index]? = some (.module inst)) :
    s.perform op =
      match ExceptT.run (edit.apply s.builder inst) s.stream with
      | (.ok inst', t) => { s with objects := s.objects.set index (.module inst'), stream := t }
      | (.error _, t) => { s with stream := t } := by
  -- the operations differ only in what they tell about the outcome
  have hchange : ∀ change : Scene → Instance SceneObject → Draws SceneError (Instance SceneObject),
      change s inst = edit.apply s.builder inst →
      (ExceptT.run (changeInstance index change) s).2 =
        match ExceptT.run (edit.apply s.builder inst) s.stream with
        | (.ok inst', t) => { s with objects := s.objects.set index (.module inst'), stream := t }
        | (.error _, t) => { s with stream := t } := by
    intro change hc
    rcases h : ExceptT.run (edit.apply s.builder inst) s.stream with ⟨e | inst', t⟩
    · rw [run_changeInstance_of_error hi (hc ▸ h)]
    · rw [run_changeInstance_of_ok hi (hc ▸ h)]
  cases op <;> cases hop
  case place p =>
    refine (perform_of_edit rfl s).trans ?_
    rw [← hchange (fun s inst => inst.place s.builder (s.snapped p)) rfl]
    exact snd_run_bind_pure _ _ s
  case setParam name x =>
    rw [← hchange (fun s inst => inst.setParam s.builder name x) rfl]
    exact perform_of_edit rfl s
  case setPoint pointIndex p =>
    rw [← hchange (fun s inst => inst.setPoint s.builder pointIndex p) rfl]
    exact perform_of_edit rfl s
  case translate delta =>
    rw [perform, Operation.edit]
    change (ExceptT.run (Scene.translate index delta) s).2 = _
    rw [Scene.translate, run_bind_of_ok (run_objectAt_of_some hi), run_bind_of_ok (run_get s),
      run_bind, run_drawing]
    rfl

theorem perform_editOf_of_ok {s : Scene} {op : Operation} {index : Nat} {edit : Instance.Edit}
    (hop : op.editOf? s = some (index, edit)) {inst core : Instance SceneObject}
    (hi : s.objects[index]? = some (.module inst)) (ht : inst.Tidy)
    (hc : edit.change inst = .ok core) : s.perform op = s.edited index core := by
  rw [perform_editOf hop hi, Instance.run_apply_of_ok _ ht hc]
  rfl

theorem perform_editOf_of_error {s : Scene} {op : Operation} {index : Nat} {edit : Instance.Edit}
    (hop : op.editOf? s = some (index, edit)) {inst : Instance SceneObject} {e : SceneError}
    (hi : s.objects[index]? = some (.module inst)) (hc : edit.change inst = .error e) :
    s.perform op = s := by
  rw [perform_editOf hop hi, Instance.run_apply_of_error _ hc]

theorem perform_demodulize_of_some {s : Scene} {index : Nat} {inst : Instance SceneObject}
    (hi : s.objects[index]? = some (.module inst)) :
    s.perform (.demodulize index) =
      { s with
        objects := s.objects.take index ++ inst.objects ++ s.objects.drop (index + 1) } := by
  refine (perform_of_edit rfl s).trans ?_
  rw [Scene.demodulize, run_bind_of_ok (run_instanceAt_of_some hi)]
  rfl

theorem perform_demodulize_of_ne {s : Scene} {index : Nat}
    (hi : ∀ inst, s.objects[index]? ≠ some (.module inst)) :
    s.perform (.demodulize index) = s := by
  obtain ⟨e, he⟩ := run_instanceAt_of_ne hi
  exact (perform_of_edit rfl s).trans (congrArg Prod.snd (run_bind_of_error he))

theorem perform_reseed (s : Scene) (seed : UInt64) :
    s.perform (.reseed seed) = s.refreshed seed := by
  change (ExceptT.run (Scene.reseed seed) s).2 = _
  rw [Scene.reseed, run_bind_of_ok (run_modify _ _), Scene.refresh, run_bind_of_ok (run_modify _ _),
    run_changeInstances]
  rfl

theorem run_refresh (s : Scene) :
    ExceptT.run Scene.refresh s = (.ok (), s.refreshed s.seed) := by
  rw [Scene.refresh, run_bind_of_ok (run_modify _ _), run_changeInstances]
  rfl

theorem perform_refresh (s : Scene) : s.perform .refresh = s.refreshed s.seed :=
  congrArg Prod.snd (run_refresh s)

theorem run_translate_of_some {s : Scene} {index : Nat} {object : SceneObject}
    (hi : s.objects[index]? = some object) (delta : Point) :
    ExceptT.run (Scene.translate index delta) s =
      (.ok (), { s with
        objects := s.objects.set index (object.translate s.builder delta s.stream).1
        stream := (object.translate s.builder delta s.stream).2 }) := by
  rw [Scene.translate, run_bind_of_ok (run_objectAt_of_some hi), run_bind_of_ok (run_get s),
    run_bind, run_drawing, run_ofState]
  rfl

theorem perform_translate_of_plain {s : Scene} {index : Nat} {object : SceneObject}
    (hi : s.objects[index]? = some object) (delta : Point) :
    s.perform (.translate index delta) =
      { s with
        objects := s.objects.set index (object.translate s.builder delta s.stream).1
        stream := (object.translate s.builder delta s.stream).2 } :=
  congrArg Prod.snd (run_translate_of_some hi delta)

theorem perform_remove_of_some {s : Scene} {index : Nat} {object : SceneObject}
    (hi : s.objects[index]? = some object) :
    s.perform (.remove index) = { s with objects := s.objects.eraseIdx index } := by
  refine (perform_of_edit rfl s).trans ?_
  rw [Scene.remove, run_bind_of_ok (run_objectAt_of_some hi)]
  rfl

theorem perform_remove_of_none {s : Scene} {index : Nat} (hi : s.objects[index]? = none) :
    s.perform (.remove index) = s :=
  (perform_of_edit rfl s).trans (congrArg Prod.snd (run_bind_of_error (run_objectAt_of_none hi)))

/-- An edit of what is no instance is refused, unless it moves a plain object. -/
theorem perform_editOf_of_ne {s : Scene} {op : Operation} {index : Nat} {edit : Instance.Edit}
    (hop : op.editOf? s = some (index, edit)) (hi : ∀ inst, s.objects[index]? ≠ some (.module inst))
    (htr : ∀ delta, edit = .translate delta → s.objects[index]? = none) : s.perform op = s := by
  have hchange : ∀ change, (ExceptT.run (changeInstance index change) s).2 = s := by
    intro change
    obtain ⟨e, he⟩ := run_changeInstance_of_ne change hi
    rw [he]
  cases op <;> cases hop
  case place p =>
    exact ((perform_of_edit rfl s).trans (snd_run_bind_pure _ _ s)).trans (hchange _)
  case setParam name x =>
    exact (perform_of_edit rfl s).trans (hchange _)
  case setPoint pointIndex p =>
    exact (perform_of_edit rfl s).trans (hchange _)
  case translate delta =>
    exact congrArg Prod.snd (run_bind_of_error (run_objectAt_of_none (htr delta rfl)))

/-! ### All effects -/

/-- What an operation does to a scene. -/
inductive Effect (s : Scene) : Operation → Scene → Prop
  /-- The objects, the modules and the seed stay. -/
  | idle (op : Operation) (stream : Stream) (gridSize : Option Float) :
    Effect s op { s with stream, gridSize }
  /-- A module is added or replaced, and its instances follow. -/
  | define (name : String) {json : Json} {d : Definition} {t : Stream} :
    ExceptT.run (Definition.ofRecord json) s.stream = (.ok d, t) →
      Effect s (.define name json) (s.defined name d t)
  /-- The object of a record comes last. -/
  | add {record : Json} {object : SceneObject} {t : Stream} :
    ExceptT.run (s.registry.instantiate s.library Module.maxDepth record) s.stream =
        (.ok object, t) →
      Effect s (.add record) { s with objects := s.objects ++ [object], stream := t }
  /-- A new instance comes last. -/
  | beginPlacement {name : String} {d : Definition} : s.library.find? name = some d →
    Effect s (.beginPlacement name)
      { s with
        objects :=
          s.objects ++ [.module ((Instance.begun name d).refresh s.builder s.stream).1]
        stream := ((Instance.begun name d).refresh s.builder s.stream).2 }
  /-- One instance is edited. -/
  | edit {op : Operation} {index : Nat} {edit : Instance.Edit} {inst core : Instance SceneObject} :
    op.editOf? s = some (index, edit) → s.objects[index]? = some (.module inst) →
      edit.change inst = .ok core → Effect s op (s.edited index core)
  /-- A plain object is moved. -/
  | move {index : Nat} {delta : Point} {object : SceneObject} :
    s.objects[index]? = some object → object.instance? = none →
      Effect s (.translate index delta)
        { s with
          objects := s.objects.set index (object.translate s.builder delta s.stream).1
          stream := (object.translate s.builder delta s.stream).2 }
  /-- An object goes. -/
  | remove (index : Nat) : Effect s (.remove index) { s with objects := s.objects.eraseIdx index }
  /-- The objects of an instance stand in its place. -/
  | demodulize {index : Nat} {inst : Instance SceneObject} :
    s.objects[index]? = some (.module inst) →
      Effect s (.demodulize index)
        { s with
          objects := s.objects.take index ++ inst.objects ++ s.objects.drop (index + 1) }
  /-- Every instance is expanded anew. -/
  | refresh : Effect s .refresh (s.refreshed s.seed)
  /-- Every instance is expanded anew with another seed. -/
  | reseed (seed : UInt64) : Effect s (.reseed seed) (s.refreshed seed)

/-- What happens when an operation changes nothing at all. -/
theorem Effect.of_eq {s t : Scene} (op : Operation) (h : t = s) : Effect s op t := by
  rw [h]
  exact .idle op s.stream s.gridSize

theorem effect_editOf {s : Scene} (hs : ∀ inst, .module inst ∈ s.objects → inst.Tidy)
    {op : Operation} {index : Nat} {edit : Instance.Edit}
    (hop : op.editOf? s = some (index, edit)) : Effect s op (s.perform op) := by
  by_cases hi : ∃ inst, s.objects[index]? = some (.module inst)
  · obtain ⟨inst, hi⟩ := hi
    rcases hc : edit.change inst with e | core
    · exact .of_eq op (perform_editOf_of_error hop hi hc)
    · rw [perform_editOf_of_ok hop hi (hs inst (List.mem_of_getElem? hi)) hc]
      exact .edit hop hi hc
  · rw [not_exists] at hi
    rcases ho : s.objects[index]? with _ | object
    · exact .of_eq op (perform_editOf_of_ne hop hi fun _ _ => ho)
    -- of a plain object, only the move is not refused
    · have hplain : object.instance? = none := by
        cases object with
        | module inst => exact absurd ho (hi inst)
        | _ => rfl
      cases op with
      | translate index delta =>
        cases hop
        rw [perform_translate_of_plain ho]
        exact .move ho hplain
      | place | setParam | setPoint =>
        cases hop
        exact .of_eq _ (perform_editOf_of_ne rfl hi fun _ h => nomatch h)
      | _ => cases hop

/-- **Every operation has one of the effects.** -/
theorem effect_perform {s : Scene} (hs : ∀ inst, .module inst ∈ s.objects → inst.Tidy)
    (op : Operation) : Effect s op (s.perform op) := by
  cases op with
  | define name json =>
    rcases h : ExceptT.run (Definition.ofRecord json) s.stream with ⟨e | d, t⟩
    · rw [perform_define_of_error h]
      exact .idle _ t s.gridSize
    · rw [perform_define_of_ok h]
      exact .define name h
  | add record =>
    rcases h : ExceptT.run (s.registry.instantiate s.library Module.maxDepth record) s.stream with
      ⟨e | object, t⟩
    · rw [perform_add_of_error h]
      exact .idle _ t s.gridSize
    · rw [perform_add_of_ok h]
      exact .add h
  | beginPlacement name =>
    rcases h : s.library.find? name with _ | d
    · exact .of_eq _ (perform_beginPlacement_of_none h)
    · rw [perform_beginPlacement_of_some h]
      exact .beginPlacement h
  | place index p => exact effect_editOf hs rfl
  | translate index delta => exact effect_editOf hs rfl
  | setParam index name x => exact effect_editOf hs rfl
  | setPoint index pointIndex p => exact effect_editOf hs rfl
  | remove index =>
    rcases h : s.objects[index]? with _ | object
    · exact .of_eq _ (perform_remove_of_none h)
    · rw [perform_remove_of_some h]
      exact .remove index
  | demodulize index =>
    by_cases h : ∃ inst, s.objects[index]? = some (.module inst)
    · obtain ⟨inst, h⟩ := h
      rw [perform_demodulize_of_some h]
      exact .demodulize h
    · rw [not_exists] at h
      exact .of_eq _ (perform_demodulize_of_ne h)
  | refresh =>
    rw [perform_refresh]
    exact .refresh
  | reseed seed =>
    rw [perform_reseed]
    exact .reseed seed
  | setGrid spacing => exact .idle _ s.stream _

end Scene

end OpticScene
