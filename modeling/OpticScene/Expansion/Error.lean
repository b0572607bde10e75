import OpticScene.Range
import OpticScene.Template.Compile

/-!
# Errors of expansion

Why a template could not be expanded. On its way out, an error collects the places that it came from
together with the bindings in force there.

## Main definitions

* `ExpansionError`: a cause inside any number of frames.
* `ExpansionError.root`, `ExpansionError.trail`: the cause, and the frames from the outside in.
* `ExpansionError.innermostBindings`: the bindings of the frame next to the cause.
-/

namespace OpticScene

/-- A loop with more steps than allowed. -/
structure LoopTooLarge where
  /-- The variable whose range exceeds the limit. -/
  variableName : String
  /-- The number of steps that were counted. -/
  count : Nat
  /-- The largest number of steps. -/
  limit : Nat
  deriving Repr, DecidableEq, Inhabited

/-- The text of the error. -/
def LoopTooLarge.text (e : LoopTooLarge) : String :=
  "loop over \x60" ++ e.variableName ++ "\x60 exceeds the limit of " ++ toString e.limit ++
    " iterations"

/-- Why a template could not be expanded. -/
inductive ExpansionError where
  /-- A range descriptor gives no range. -/
  | range (error : Range.Error)
  /-- An expression has no value. -/
  | evaluate (error : EvalError)
  /-- A loop has too many steps. -/
  | loop (error : LoopTooLarge)
  /-- A value is no template. -/
  | template (path message : String)
  /-- An error inside a part of a template, with the bindings in force there. -/
  | context (location bindings : String) (inner : ExpansionError)
  deriving Repr, DecidableEq, Inhabited

namespace ExpansionError

/-- The error about a value that is no template. -/
def ofTemplate (e : TemplateError) : ExpansionError := .template e.path e.cause.message

/-- Puts a frame around an error. -/
def within (location : String) (b : Bindings) (e : ExpansionError) : ExpansionError :=
  .context location b.text e

/-- The error without its frames. -/
def root : ExpansionError → ExpansionError
  | .context _ _ inner => inner.root
  | e => e

/-- The places of the frames, from the outside in. -/
def trail : ExpansionError → List String
  | .context location _ inner => location :: inner.trail
  | _ => []

/-- The bindings of the innermost frame. -/
def innermostBindings : ExpansionError → Option String
  | .context _ bindings inner => inner.innermostBindings.or (some bindings)
  | _ => none

/-- The text of an error: a line for each frame, then the cause. -/
def text : ExpansionError → String
  | .range e => e.text
  | .evaluate e => e.text
  | .loop e => e.text
  | .template path message => "invalid template at " ++ path ++ ": " ++ message
  | .context location bindings inner =>
    "in " ++ location ++ " with " ++ bindings ++ "\n" ++ inner.text

end ExpansionError

end OpticScene
