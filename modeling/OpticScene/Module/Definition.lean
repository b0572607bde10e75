import OpticScene.Expansion.Basic
import OpticScene.Record

/-!
# Module definitions

A module is a template of objects with parameters and control points. Its definition is read from a
record: the parameters are range descriptors, each of which may use the defaults of those before it.

## Main definitions

* `Module.Definition`: a definition that is ready to be expanded.
* `Module.Definition.ofRecord`: reading a definition.
* `Module.DefinitionCause`: what is wrong with a record that is no definition.
-/

namespace OpticScene.Module

open OpticScene.Random (Draws)

/-- Named numbers in order. -/
abbrev Params := Named Float

/-- A module that can be placed in a scene. -/
structure Definition where
  /-- The number of control points. -/
  numPoints : Nat
  /-- The range descriptors of the parameters. -/
  params : List String
  /-- Values that the objects may use, derived one after the other. -/
  vars : Option ObjectTemplate
  /-- The objects. -/
  objs : List Template.Item
  /-- The largest number of steps of a loop. -/
  maxLoop : Nat
  /-- The parameters with their default values. -/
  defaults : Params
  /-- The record of the definition. -/
  source : Json

/-- Whether a parameter is declared. -/
def Definition.declares (d : Definition) (name : String) : Bool :=
  Named.contains name d.defaults

/-- What is wrong with a record that is no definition. -/
inductive DefinitionCause where
  /-- The record does not have the right fields. -/
  | record (cause : Record.Cause)
  /-- No step of a loop is allowed. -/
  | noLoop
  /-- A parameter has no range. -/
  | params (error : Range.Error)
  /-- A parameter stands twice. -/
  | declaredTwice (name : String)
  /-- The derived values are no template. -/
  | vars (error : TemplateError)
  /-- The objects are no template. -/
  | objs (error : TemplateError)
  deriving Repr, DecidableEq, Inhabited

/-- The text of a cause. -/
def DefinitionCause.message : DefinitionCause → String
  | .record cause => cause.message
  | .noLoop => "maxLoopLength must be at least 1"
  | .params error => "params: " ++ error.text
  | .declaredTwice name => "parameter \x60" ++ name ++ "\x60 is declared twice"
  | .vars error => "vars: " ++ (ExpansionError.ofTemplate error).text
  | .objs error => "objs: " ++ (ExpansionError.ofTemplate error).text

/-- The fields of a definition as they are written. -/
structure DefinitionRecord where
  /-- The number of control points. -/
  numPoints : Nat
  /-- The range descriptors of the parameters. -/
  params : List String
  /-- The derived values. -/
  vars : Option Json
  /-- The objects. -/
  objs : List Json
  /-- The largest number of steps of a loop. -/
  maxLoop : Nat

/-- The shape of the records of definitions. -/
def definitionShape : Record.Shape :=
  ⟨"DefinitionRecord",
    [.optional "numPoints" (Record.natural "usize"), .optional "params" (Record.list Record.text),
      .optional "vars" (Record.option Record.anything),
      .optional "objs" (Record.list Record.anything),
      .optional "maxLoopLength" (Record.natural "usize")]⟩

/-- The fields of a definition. -/
def DefinitionRecord.decode : Record.Decoder DefinitionRecord := fun v => do
  let fields ← definitionShape.read v
  return {
    numPoints := ← fields.optional "numPoints" (Record.natural "usize") 0
    params := ← fields.optional "params" (Record.list Record.text) []
    vars := ← fields.optional "vars" (Record.option Record.anything) none
    objs := ← fields.optional "objs" (Record.list Record.anything) []
    maxLoop :=
      ← fields.optional "maxLoopLength" (Record.natural "usize") Expansion.defaultMaxLoop }

/-- The bindings of parameters. -/
def Params.bindings (params : Params) : Bindings :=
  Bindings.empty.insertAll (params.map fun (name, x) => (name, .ofFloat x))

/-- The defaults of parameters, after those that were declared `before`. -/
def resolveDefaults (before : Params) : List String → Draws DefinitionCause Params
  | [] => return before
  | descriptor :: descriptors => do
    let range ← (Range.parse before.bindings descriptor).adapt DefinitionCause.params
    if Named.contains range.name before then throw (.declaredTwice range.name)
    resolveDefaults (before ++ [(range.name, range.default)]) descriptors

/-- The template of optional derived values. -/
def compileVars : Option Json → Except TemplateError (Option ObjectTemplate)
  | none => .ok none
  | some v => (Template.compileObject v).map some

/-- The definition of a record. -/
def Definition.ofRecord (v : Json) : Draws DefinitionCause Definition := do
  let record ← (DefinitionRecord.decode v).mapError DefinitionCause.record
  if record.maxLoop = 0 then throw .noLoop
  let defaults ← resolveDefaults [] record.params
  let vars ← (compileVars record.vars).mapError DefinitionCause.vars
  let objs ← (compileItems rootPath 0 record.objs).mapError DefinitionCause.objs
  return {
    numPoints := record.numPoints
    params := record.params
    vars
    objs
    maxLoop := record.maxLoop
    defaults
    source := v }

end OpticScene.Module
