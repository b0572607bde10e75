import OpticScene.Scene.View
import OpticScene.Text.Cut

/-!
# Diagnostics

An error of a scene in a form that can be shown without reading its text: what kind of error it is,
at which stage it arose, its cause, and where the cause lies.

## Main definitions

* `Diagnostic`, `Diagnostic.Kind`, `Diagnostic.Stage`: the diagnostics.
* `Diagnostic.ofError`: the diagnostic of an error.
* `Scene.diagnostics`: the diagnostics of the instances that could not be expanded.
-/

namespace OpticScene

/-- The kinds of errors. -/
inductive Diagnostic.Kind where
  /-- A range descriptor gives no range. -/
  | rangeParse
  /-- An expression uses a variable or function that does not exist. -/
  | unknownName
  /-- An expression has no value for another reason. -/
  | evaluation
  /-- A loop has too many steps. -/
  | loopTooLarge
  /-- A value is no template. -/
  | invalidTemplate
  /-- No objects have a type. -/
  | unknownType
  /-- A record is no object of its type. -/
  | invalidRecord
  /-- A record is no module definition. -/
  | invalidDefinition
  /-- Modules are nested too deep. -/
  | nestingTooDeep
  /-- Something was asked for that cannot be done. -/
  | hostApiMisuse
  deriving Repr, DecidableEq, Inhabited

/-- The stages at which errors arise. -/
inductive Diagnostic.Stage where
  /-- A definition is read. -/
  | definition
  /-- A template is expanded. -/
  | expansion
  /-- An object is made. -/
  | instantiation
  /-- A scene is edited. -/
  | edit
  deriving Repr, DecidableEq, Inhabited

/-- An error in a form that can be shown. -/
structure Diagnostic where
  /-- The kind of the error. -/
  kind : Diagnostic.Kind
  /-- The stage at which it arose. -/
  stage : Diagnostic.Stage
  /-- The text of its cause. -/
  message : String
  /-- The places in the template that the cause lies in, from the outside in. -/
  trail : List String
  /-- The bindings next to the cause. -/
  bindings : Option String
  /-- The text of the error. -/
  raw : String
  deriving Repr, DecidableEq, Inhabited

namespace Diagnostic

/-- The word for a kind. -/
def Kind.word : Kind → String
  | .rangeParse => "range_parse"
  | .unknownName => "unknown_name"
  | .evaluation => "evaluation"
  | .loopTooLarge => "loop_too_large"
  | .invalidTemplate => "invalid_template"
  | .unknownType => "unknown_type"
  | .invalidRecord => "invalid_record"
  | .invalidDefinition => "invalid_definition"
  | .nestingTooDeep => "nesting_too_deep"
  | .hostApiMisuse => "host_api_misuse"

/-- The word for a stage. -/
def Stage.word : Stage → String
  | .definition => "definition"
  | .expansion => "expansion"
  | .instantiation => "instantiation"
  | .edit => "edit"

/-- The kind of an error of an expression, told by its message. Letter case does not matter. -/
def Kind.ofMessage (message : String) : Kind :=
  let lower := message.toLower
  if Text.occursIn "variable not found" lower || Text.occursIn "function not found" lower then
    .unknownName
  else .evaluation

/-- The kind of the cause of an expansion error. -/
def Kind.ofRoot : ExpansionError → Kind
  | .range _ => .rangeParse
  | .evaluate e => .ofMessage e.message
  | .loop _ => .loopTooLarge
  | .template .. => .invalidTemplate
  | .context .. => .evaluation

/-- The diagnostic of an expansion error. -/
def ofExpansion (e : ExpansionError) : Diagnostic :=
  ⟨.ofRoot e.root, .expansion, e.root.text, e.trail, e.innermostBindings, e.text⟩

/-- A diagnostic without a place in a template. -/
def plain (kind : Kind) (stage : Stage) (e : SceneError) : Diagnostic :=
  ⟨kind, stage, e.text, [], none, e.text⟩

/-- The diagnostic of an error. -/
def ofError (e : SceneError) : Diagnostic :=
  match e with
  | .expansion e => ofExpansion e
  | .unknownType _ => plain .unknownType .instantiation e
  | .invalidRecord .. => plain .invalidRecord .instantiation e
  | .unknownModule _ => plain .invalidRecord .instantiation e
  | .nestingTooDeep _ => plain .nestingTooDeep .instantiation e
  | .invalidDefinition .. => plain .invalidDefinition .definition e
  | .duplicateType _ => plain .hostApiMisuse .definition e
  | .missingType _ => plain .hostApiMisuse .definition e
  | .unknownParameter .. => plain .hostApiMisuse .edit e
  | .indexOutOfRange .. => plain .hostApiMisuse .edit e
  | .notAModule _ => plain .hostApiMisuse .edit e
  | .placementComplete => plain .hostApiMisuse .edit e

/-- The JSON value of a diagnostic. Bindings are left out if there are none. -/
def toJson (d : Diagnostic) : Json :=
  .object
    ([("kind", .string d.kind.word), ("stage", .string d.stage.word),
      ("message", .string d.message), ("trail", .array (d.trail.map .string))] ++
      (match d.bindings with
      | some bindings => [("bindings", .string bindings)]
      | none => []) ++
      [("raw", .string d.raw)])

end Diagnostic

/-- The diagnostic of an object: of a module instance that could not be expanded. -/
def SceneObject.diagnostic? (object : SceneObject) : Option Diagnostic :=
  object.instance?.bind fun inst => inst.lastError.map Diagnostic.ofError

/-- The diagnostics of objects with their indices, from an index on. -/
def Scene.diagnosticsFrom (index : Nat) : List SceneObject → List (Nat × Diagnostic)
  | [] => []
  | object :: objects =>
    match object.diagnostic? with
    | some d => (index, d) :: diagnosticsFrom (index + 1) objects
    | none => diagnosticsFrom (index + 1) objects

/-- The diagnostics of the instances at the top level that could not be expanded, with their
indices. -/
def Scene.diagnostics (scene : Scene) : List (Nat × Diagnostic) :=
  diagnosticsFrom 0 scene.objects

end OpticScene
