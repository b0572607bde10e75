import OpticScene.Binary64.Basic
import OpticScene.Binary64.Arithmetic
import OpticScene.Named

/-!
# JSON values

Records, definitions and documents are JSON values. Whole numbers and numbers with a fraction are
kept apart, and an object keeps its fields in the order in which they were written.

## Main definitions

* `Json`, `Json.Number`: the values.
* `Json.ofFloat`: a double as a value; infinities and the value that is not a number become `null`.
* `Json.field?`: the fields of an object by name.
-/

namespace OpticScene

/-- A number of a JSON value. -/
inductive Json.Number where
  /-- A whole number that fits into 64 bits, with or without sign. -/
  | int (value : Int)
  /-- Any other number. -/
  | float (value : Float)
  deriving Repr, Inhabited

/-- A JSON value. -/
inductive Json where
  /-- The absent value. -/
  | null
  /-- A truth value. -/
  | bool (value : Bool)
  /-- A number. -/
  | number (value : Json.Number)
  /-- A text. -/
  | string (value : String)
  /-- A list of values. -/
  | array (items : List Json)
  /-- Named values in order; no name stands twice in a value that was read from text. -/
  | object (fields : List (String × Json))
  deriving Repr, Inhabited

/-- The double nearest to an integer. -/
def floatOfInt (n : Int) : Float := Binary64.withSign (n < 0) (Binary64.nearest n.natAbs 0)

namespace Json

/-- The number as a double. -/
def Number.toFloat : Number → Float
  | .int n => floatOfInt n
  | .float x => x

/-- A whole number as a value. -/
def ofInt (n : Int) : Json := .number (.int n)

/-- A natural number as a value. -/
def ofNat (n : Nat) : Json := ofInt n

/-- A double as a value; `null` when it is not finite. -/
def ofFloat (x : Float) : Json := if x.isFinite then .number (.float x) else .null

/-- The value of a number, as a double. -/
def toFloat? : Json → Option Float
  | .number n => some n.toFloat
  | _ => none

/-- The value of a text. -/
def toString? : Json → Option String
  | .string s => some s
  | _ => none

/-- The field `name` of an object; other values have no fields. -/
def field? (name : String) : Json → Option Json
  | .object fields => Named.get? name fields
  | _ => none

/-- An optional value; `null` when it is absent. -/
def ofOption (f : α → Json) : Option α → Json
  | some a => f a
  | none => .null

end Json

end OpticScene
