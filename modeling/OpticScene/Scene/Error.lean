import OpticScene.Module.Definition

/-!
# Errors of scenes

Why an object could not be made or a scene could not be edited.

## Main definitions

* `SceneError`: the errors.
* `SceneError.text`: their texts.
-/

namespace OpticScene

/-- Why something in a scene failed. -/
inductive SceneError where
  /-- A template could not be expanded. -/
  | expansion (error : ExpansionError)
  /-- No objects have the type. -/
  | unknownType (tag : String)
  /-- A record is no object of its type. -/
  | invalidRecord (tag message : String)
  /-- A record is no module definition. -/
  | invalidDefinition (name message : String)
  /-- No module has the name. -/
  | unknownModule (name : String)
  /-- A module does not declare the parameter. -/
  | unknownParameter (moduleName name : String)
  /-- A type is registered twice. -/
  | duplicateType (tag : String)
  /-- A type is not registered. -/
  | missingType (tag : String)
  /-- Modules are nested too deep. -/
  | nestingTooDeep (limit : Nat)
  /-- There is nothing at the index. -/
  | indexOutOfRange (index length : Nat)
  /-- The object at the index is no module instance. -/
  | notAModule (index : Nat)
  /-- All control points have been placed. -/
  | placementComplete
  deriving Repr, DecidableEq, Inhabited

namespace SceneError

/-- The error about a record with wrong fields. -/
def ofRecord (tag : String) (cause : Record.Cause) : SceneError := .invalidRecord tag cause.message

/-- The error about a record that is no definition. -/
def ofDefinition (name : String) (cause : Module.DefinitionCause) : SceneError :=
  .invalidDefinition name cause.message

/-- The text of an error. -/
def text : SceneError → String
  | .expansion error => error.text
  | .unknownType tag => "unknown object type \x60" ++ tag ++ "\x60"
  | .invalidRecord tag message => "invalid \x60" ++ tag ++ "\x60 record: " ++ message
  | .invalidDefinition name message =>
    "invalid module definition \x60" ++ name ++ "\x60: " ++ message
  | .unknownModule name => "unknown module \x60" ++ name ++ "\x60"
  | .unknownParameter moduleName name =>
    "module \x60" ++ moduleName ++ "\x60 has no parameter \x60" ++ name ++ "\x60"
  | .duplicateType tag => "object type \x60" ++ tag ++ "\x60 is registered twice"
  | .missingType tag => "object type \x60" ++ tag ++ "\x60 has no registered constructor"
  | .nestingTooDeep limit => "modules nested deeper than " ++ toString limit ++ " levels"
  | .indexOutOfRange index length =>
    "no object at index " ++ toString index ++ " (scene holds " ++ toString length ++ ")"
  | .notAModule index => "object #" ++ toString index ++ " is not a module instance"
  | .placementComplete => "module placement is already complete"

end SceneError

end OpticScene
