import OpticScene.Expr.Operators

/-!
# Constants

The values of literals, and the patterns of cases, which ask for such values or for numbers in a
range. A pattern asks for exactly its value: an integer is no double here, and two doubles are the
same if they have the same bits.

## Main definitions

* `Expr.Literal.value`: the value of a literal.
* `Expr.Value.isExactly`: whether two values are the same.
* `Expr.Pattern.isValue`, `Expr.Pattern.isInRange`: whether a value fits a pattern.
-/

namespace OpticScene.Expr

mutual

/-- The value of a literal. -/
def Literal.value : Literal → Value
  | .unit => .unit
  | .truth b => .truth b
  | .int n => .int n
  | .float x => .float x
  | .character c => .character c
  | .text s => .text s
  | .array items => .array (literalValues items)
  | .map fields => .map (mergeFields [] (literalFieldValues fields))

/-- The values of several literals. -/
def literalValues : List Literal → List Value
  | [] => []
  | value :: values => value.value :: literalValues values

/-- The values of several named literals. -/
def literalFieldValues : List (String × Literal) → List (String × Value)
  | [] => []
  | (k, value) :: fields => (k, value.value) :: literalFieldValues fields

end

mutual

/-- Whether two values are the same: of the same type, and for doubles of the same bits. -/
def Value.isExactly : Value → Value → Bool
  | .unit, .unit => true
  | .truth a, .truth b => a == b
  | .int m, .int n => m == n
  | .float x, .float y => x.toBits == y.toBits
  | .character c, .character d => c == d
  | .text s, .text t => s == t
  | .array xs, .array ys => areExactly xs ys
  | .map xs, .map ys => fieldsAreExactly xs ys
  | _, _ => false

/-- Whether two lists hold the same values. -/
def areExactly : List Value → List Value → Bool
  | [], [] => true
  | x :: xs, y :: ys => x.isExactly y && areExactly xs ys
  | _, _ => false

/-- Whether two maps hold the same values under the same names. -/
def fieldsAreExactly : List (String × Value) → List (String × Value) → Bool
  | [], [] => true
  | (k, x) :: xs, (l, y) :: ys => k == l && x.isExactly y && fieldsAreExactly xs ys
  | _, _ => false

end

/-- Whether a value is the one that the pattern asks for. -/
def Pattern.isValue (v : Value) : Pattern → Bool
  | .value constant => constant.value.isExactly v
  | .range .. => false

/-- Whether a value is a number in the range that the pattern asks for. -/
def Pattern.isInRange (v : Value) : Pattern → Bool
  | .range start stop closed =>
    match v with
    | .int n => start ≤ n && (if closed then n ≤ stop else n < stop)
    | .float x =>
      floatOfInt start ≤ x && (if closed then x ≤ floatOfInt stop else x < floatOfInt stop)
    | _ => false
  | .value _ => false

/-- Whether a case asks for a value. -/
def Case.asksFor (v : Value) : Case → Bool
  | .mk patterns _ _ => patterns.any (Pattern.isValue v)

end OpticScene.Expr
