import OpticScene.Expression
import OpticScene.Text.Cut
import OpticScene.Text.Blank

/-!
# Ranges

A range descriptor `name=start:step:end` or `name=start:step:end:default` gives a variable and the
values it runs through. Every field is an expression of its own.

## Main definitions

* `Range`: a variable with its range.
* `Range.parse`: the range of a descriptor.
* `Range.first`, `Range.countUpTo`: its values, and their number up to a limit.
-/

namespace OpticScene

open OpticScene.Random (Draws)

/-- A variable and the numbers it runs through. -/
structure Range where
  /-- The variable. -/
  name : String
  /-- The first value. -/
  start : Float
  /-- What is added from one value to the next. -/
  step : Float
  /-- No value is above it. -/
  stop : Float
  /-- The value where no other is given. -/
  default : Float
  deriving Repr, Inhabited

namespace Range

/-- The fields of a descriptor. -/
inductive Field where
  /-- The first value. -/
  | start
  /-- The distance between values. -/
  | step
  /-- The upper end. -/
  | stop
  /-- The default value. -/
  | default
  deriving Repr, DecidableEq, Inhabited

/-- What a field is called. -/
def Field.name : Field → String
  | .start => "start"
  | .step => "step"
  | .stop => "end"
  | .default => "default"

/-- What is wrong with a descriptor. -/
inductive Cause where
  /-- It has no equals sign. -/
  | missingEquals
  /-- What stands before the equals sign is no name. -/
  | invalidName (name : String)
  /-- The number of fields is neither three nor four. -/
  | fieldCount (count : Nat)
  /-- The value of a field is no number. -/
  | notNumeric (field : Field) (value : String)
  /-- A field has no value. -/
  | evaluate (error : EvalError)
  deriving Repr, DecidableEq, Inhabited

/-- The text of a cause. -/
def Cause.text : Cause → String
  | .missingEquals => "missing \x60=\x60 between name and range"
  | .invalidName name => "\x60" ++ name ++ "\x60 is not a valid variable name"
  | .fieldCount count =>
    "expected \x60start:step:end[:default]\x60, found " ++ toString count ++ " field(s)"
  | .notNumeric field value => field.name ++ " is not a number: " ++ value
  | .evaluate error => error.text

/-- A descriptor that gives no range. -/
structure Error where
  /-- The descriptor. -/
  descriptor : String
  /-- The bindings its fields were evaluated with. -/
  bindings : String
  /-- What is wrong. -/
  cause : Cause
  deriving Repr, DecidableEq, Inhabited

/-- The text of the error. -/
def Error.text (e : Error) : String :=
  "invalid range \x60" ++ e.descriptor ++ "\x60 with " ++ e.bindings ++ ": " ++ e.cause.text

/-- Whether a text is the name of a variable. -/
def isName (s : String) : Bool :=
  match s.toList with
  | [] => false
  | c :: cs => (c.isAlpha || c = '_') && cs.all fun c => c.isAlphanum || c = '_'

/-- The number that a field stands for. -/
def parseField (b : Bindings) (field : Field) (s : String) : Draws Cause Float := do
  let v ← (Expression.evaluate b (Text.trim s)).adapt Cause.evaluate
  match v.toFloat? with
  | some x => return x
  | none => throw (.notNumeric field v.compact)

/-- The fields of a descriptor: three expressions and an optional fourth one. -/
def splitFields (s : String) : Except Cause (String × String × String × Option String) :=
  match Text.pieces ':' s with
  | [start, step, stop] => .ok (start, step, stop, none)
  | [start, step, stop, default] => .ok (start, step, stop, some default)
  | fields => .error (.fieldCount fields.length)

/-- The name of a descriptor and the text of its fields. -/
def splitName (descriptor : String) : Except Cause (String × String) :=
  match Text.cut? '=' descriptor with
  | none => .error .missingEquals
  | some (name, fields) =>
    let name := Text.trim name
    if isName name then .ok (name, fields) else .error (.invalidName name)

/-- The range of a descriptor, or what is wrong with it. The fields are evaluated from left to
right; the default is the first value unless there is a field for it. -/
def parseCause (b : Bindings) (descriptor : String) : Draws Cause Range := do
  let (name, fields) ← splitName descriptor
  let (start, step, stop, default) ← splitFields fields
  let start ← parseField b .start start
  let step ← parseField b .step step
  let stop ← parseField b .stop stop
  let default ←
    match default with
    | some default => parseField b .default default
    | none => pure start
  return ⟨name, start, step, stop, default⟩

/-- The range of a descriptor. -/
def parse (b : Bindings) (descriptor : String) : Draws Error Range :=
  (parseCause b descriptor).adapt fun cause => ⟨descriptor, b.text, cause⟩

/-! ### Values -/

/-- The first `n` values from `x` on: each adds the step to the one before, and the last one is not
above the end. -/
def firstFrom (r : Range) : (n : Nat) → (x : Float) → List Float
  | 0, _ => []
  | n + 1, x => if x ≤ r.stop then x :: firstFrom r n (x + r.step) else []

/-- The first `n` values, or all if there are fewer. -/
def first (r : Range) (n : Nat) : List Float := r.firstFrom n r.start

/-- The number of values from `x` on, but no more than `n`, added to `count`. -/
def countFrom (r : Range) : (n : Nat) → (x : Float) → (count : Nat) → Nat
  | 0, _, count => count
  | n + 1, x, count => if x ≤ r.stop then countFrom r n (x + r.step) (count + 1) else count

/-- The largest number of loop steps that is counted. -/
def maxCount : Nat := 2 ^ 64 - 1

/-- The number of values, counted no further than one beyond the limit. -/
def countUpTo (r : Range) (limit : Nat) : Nat := r.countFrom (min (limit + 1) maxCount) r.start 0

/-- Counting the values is taking the length of their list. -/
theorem countFrom_eq (r : Range) (n : Nat) (x : Float) (count : Nat) :
    r.countFrom n x count = count + (r.firstFrom n x).length := by
  induction n generalizing x count with
  | zero => simp [countFrom, firstFrom]
  | succ n ih =>
    by_cases h : x ≤ r.stop
    · simp [countFrom, firstFrom, h, ih]; omega
    · simp [countFrom, firstFrom, h]

theorem countUpTo_eq (r : Range) (limit : Nat) :
    r.countUpTo limit = (r.first (min (limit + 1) maxCount)).length := by
  simp [countUpTo, first, countFrom_eq]

end Range

end OpticScene
