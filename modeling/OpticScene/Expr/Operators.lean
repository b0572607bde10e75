import OpticScene.Expr.Syntax
import OpticScene.Expr.Value
import OpticScene.Binary64.Arithmetic
import OpticScene.Text.Cut

/-!
# Operators

What the operators of expressions do with values. An operator that is not defined for the types of
its operands gives no result at all; one that is defined may still fail.

## Main definitions

* `Expr.compareFloats`: doubles are compared up to a relative difference.
* `Expr.Value.same`: equality of values.
* `Expr.UnaryOperator.apply`, `Expr.Operator.apply`: the operators.
-/

namespace OpticScene.Expr

/-- The outcome of an operator or function: none if it is not defined for such values. -/
abbrev Outcome := Option (Except ValueCause Value)

/-- An outcome that is a value. -/
def Outcome.value (v : Value) : Outcome := some (.ok v)

/-- An outcome that is a failure. -/
def Outcome.fail (cause : ValueCause) : Outcome := some (.error cause)

/-! ### Comparisons -/

/-- Whether a comparison holds of two things in the given order. -/
def Operator.holds (op : Operator) (o : Ordering) : Bool :=
  match op with
  | .equal => o == .eq
  | .notEqual => o != .eq
  | .less => o == .lt
  | .lessEqual => o != .gt
  | .greater => o == .gt
  | .greaterEqual => o != .lt
  | _ => false

/-- Whether an operator compares. -/
def Operator.isComparison : Operator → Bool
  | .equal | .notEqual | .less | .lessEqual | .greater | .greaterEqual => true
  | _ => false

/-- The distance between the doubles around 1. -/
def epsilon : Float := 2.220446049250313e-16

/-- Two doubles are compared by their difference relative to the larger magnitude; next to zero the
difference itself counts. -/
def compareFloats (op : Operator) (x y : Float) : Bool :=
  let scale := if x * y == 0.0 then 1.0 else Binary64.larger x.abs y.abs
  if scale == 0.0 then op.holds .eq
  else
    match op with
    | .equal => (x - y).abs / scale ≤ epsilon
    | .notEqual => epsilon < (x - y).abs / scale
    | .less => epsilon < (y - x) / scale
    | .lessEqual => -epsilon < (y - x) / scale
    | .greater => epsilon < (x - y) / scale
    | .greaterEqual => -epsilon < (x - y) / scale
    | _ => false

/-- The order of two lists of characters by code points. -/
def compareChars : List Char → List Char → Ordering
  | [], [] => .eq
  | [], _ :: _ => .lt
  | _ :: _, [] => .gt
  | c :: cs, d :: ds => (compare c.toNat d.toNat).then (compareChars cs ds)

/-- The order of two texts by code points. -/
def compareTexts (s t : String) : Ordering := compareChars s.toList t.toList

mutual

/-- Whether two values are equal. Integers and doubles are compared as doubles, and a character is
equal to the text of that one character. -/
def Value.same : Value → Value → Bool
  | .unit, .unit => true
  | .truth a, .truth b => a == b
  | .int m, .int n => m == n
  | .int m, .float y => compareFloats .equal (floatOfInt m) y
  | .float x, .int n => compareFloats .equal x (floatOfInt n)
  | .float x, .float y => compareFloats .equal x y
  | .character c, .character d => c == d
  | .character c, .text t => t == c.toString
  | .text s, .character d => s == d.toString
  | .text s, .text t => s == t
  | .array xs, .array ys => sameItems xs ys
  | .map xs, .map ys => sameFields xs ys
  | .range m n c, .range m' n' c' => m == m' && n == n' && c == c'
  | _, _ => false

/-- Whether two lists hold equal values. -/
def sameItems : List Value → List Value → Bool
  | [], [] => true
  | x :: xs, y :: ys => x.same y && sameItems xs ys
  | _, _ => false

/-- Whether two maps hold equal values under the same names. -/
def sameFields : List (String × Value) → List (String × Value) → Bool
  | [], [] => true
  | (k, x) :: xs, (l, y) :: ys => k == l && x.same y && sameFields xs ys
  | _, _ => false

end

/-! ### Integers -/

/-- Whether an integer fits into a signed word of 64 bits. -/
def fits (n : Int) : Bool := -2 ^ 63 ≤ n && n < 2 ^ 63

/-- An integer if it fits, and otherwise the error about the operation it comes from. -/
def checked (operation : String) (op : Operator) (m n result : Int) : Outcome :=
  if fits result then .value (.int result) else .fail (.overflow operation m op.symbol n)

/-- An operation on the bits of two integers. -/
def bitwise (f : Int64 → Int64 → Int64) (m n : Int) : Int :=
  (f (Int64.ofInt m) (Int64.ofInt n)).toInt

/-- The bits of an integer moved to higher places; those beyond the word are lost. A negative count
moves them to lower places, where the sign is kept. -/
def shift (m n : Int) : Int :=
  if 0 ≤ n then (if 64 ≤ n then 0 else (m * 2 ^ n.toNat).bmod (2 ^ 64))
  else if n ≤ -64 then (if m < 0 then -1 else 0)
  else m.fdiv (2 ^ (-n).toNat)

/-- The range between two integers. A missing start is zero, a missing end the largest integer. -/
def rangeOperator (op : Operator) (start stop : Option Int) : Outcome :=
  let range (closed : Bool) : Outcome :=
    .value (.range (start.getD 0) (stop.getD maxInt) closed)
  match op with
  | .range => range false
  | .closedRange => range true
  | _ => none

/-- The operators on two integers. -/
def intOperator (op : Operator) (m n : Int) : Outcome :=
  match op with
  | .add => checked "Addition overflow" op m n (m + n)
  | .subtract => checked "Subtraction overflow" op m n (m - n)
  | .multiply => checked "Multiplication overflow" op m n (m * n)
  | .divide => .value (.float (floatOfInt m / floatOfInt n))
  | .modulo =>
    if n = 0 || (n = -1 && m = -2 ^ 63) then
      .fail (.overflow "Modulo division by zero or overflow" m op.symbol n)
    else .value (.int (m.tmod n))
  | .power => .value (.float ((floatOfInt m).pow (floatOfInt n)))
  | .shiftLeft => .value (.int (shift m n))
  | .shiftRight => .value (.int (shift m (-n)))
  | .bitAnd => .value (.int (bitwise (· &&& ·) m n))
  | .bitOr => .value (.int (bitwise (· ||| ·) m n))
  | .bitXor => .value (.int (bitwise (· ^^^ ·) m n))
  | .range | .closedRange => rangeOperator op (some m) (some n)
  | op => if op.isComparison then .value (.truth (op.holds (compare m n))) else none

/-! ### Other types -/

/-- The operators on two doubles. -/
def floatOperator (op : Operator) (x y : Float) : Outcome :=
  match op with
  | .add => .value (.float (x + y))
  | .subtract => .value (.float (x - y))
  | .multiply => .value (.float (x * y))
  | .divide => .value (.float (x / y))
  | .modulo => .value (.float (Binary64.remainder x y))
  | .power => .value (.float (x.pow y))
  | op => if op.isComparison then .value (.truth (compareFloats op x y)) else none

/-- The operators on two truth values. -/
def truthOperator (op : Operator) (a b : Bool) : Outcome :=
  match op with
  | .bitAnd => .value (.truth (a && b))
  | .bitOr => .value (.truth (a || b))
  | .bitXor => .value (.truth (a != b))
  | op =>
    if op.isComparison then .value (.truth (op.holds (compare a.toNat b.toNat))) else none

/-- A text without the occurrences of another one, which takes the place of an empty text. -/
def without (s t : String) : String :=
  if t.isEmpty then s else if s.isEmpty then t else Text.replaceAll t "" s

/-- The operators on two texts. -/
def textOperator (op : Operator) (s t : String) : Outcome :=
  match op with
  | .add => .value (.text (s ++ t))
  | .subtract => .value (.text (without s t))
  | op => if op.isComparison then .value (.truth (op.holds (compareTexts s t))) else none

/-- The fields of a map together with those of another one, which win. -/
def mergeFields (xs ys : List (String × Value)) : List (String × Value) :=
  ys.foldl (fun fields (k, v) => Value.insertField k v fields) xs

/-- Values whose type has no order are only equal or not. -/
def equalityOperator (op : Operator) (same : Bool) : Outcome :=
  match op with
  | .equal => .value (.truth same)
  | .notEqual => .value (.truth (!same))
  | _ => none

/-- Whether values of a type can be compared with values of other types. -/
def Value.isComparable : Value → Bool
  | .range .. | .series _ => false
  | _ => true

/-- Values of different types are never equal and never in order. -/
def unrelated (op : Operator) (v w : Value) : Outcome :=
  if op.isComparison && v.isComparable && w.isComparable then
    .value (.truth (op == .notEqual))
  else none

/-- An operator between its operands. -/
def Operator.apply (op : Operator) : Value → Value → Outcome
  | .int m, .int n => intOperator op m n
  | .int m, .float y => floatOperator op (floatOfInt m) y
  | .float x, .int n => floatOperator op x (floatOfInt n)
  | .float x, .float y => floatOperator op x y
  | .truth a, .truth b => truthOperator op a b
  | .text s, .text t => textOperator op s t
  | .text s, .character d =>
    if op = .subtract then .value (.text (Text.replaceAll d.toString "" s))
    else textOperator op s d.toString
  | .character c, .text t => if op = .subtract then none else textOperator op c.toString t
  | .character c, .character d =>
    if op = .subtract then none else textOperator op c.toString d.toString
  | .unit, .unit =>
    if op.isComparison then .value (.truth (op == .equal)) else rangeOperator op none none
  | .array xs, .array ys =>
    if op = .add then .value (.array (xs ++ ys)) else equalityOperator op (sameItems xs ys)
  | .map xs, .map ys =>
    if op = .add then .value (.map (mergeFields xs ys)) else equalityOperator op (sameFields xs ys)
  | .range m n c, .range m' n' c' =>
    if c = c' then equalityOperator op (m == m' && n == n') else none
  | .function _ _, .function _ _ => none
  | .text s, v => if op = .add then .value (.text (s ++ v.display)) else unrelated op (.text s) v
  | v, .text t => if op = .add then .value (.text (v.display ++ t)) else unrelated op v (.text t)
  | .int m, .unit => (unrelated op (.int m) .unit).or (rangeOperator op (some m) none)
  | .unit, .int n => (unrelated op .unit (.int n)).or (rangeOperator op none (some n))
  | v, w => unrelated op v w

/-- An operator before its operand. -/
def UnaryOperator.apply : UnaryOperator → Value → Outcome
  | .negate, .int n =>
    if n = -2 ^ 63 then .fail (.negationOverflow n) else .value (.int (-n))
  | .negate, .float x => .value (.float (-x))
  | .plus, .int n => .value (.int n)
  | .plus, .float x => .value (.float x)
  | .not, .truth b => .value (.truth (!b))
  | _, _ => none

end OpticScene.Expr
