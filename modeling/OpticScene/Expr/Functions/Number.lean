import OpticScene.Expr.Operators
import OpticScene.Binary64.Hyperbolic
import OpticScene.Text.Quoted

/-!
# Functions of numbers

What the functions of expressions do with integers and doubles. An integer is not taken for a double
where a function does not say so.

## Main definitions

* `Expr.floatFunction`, `Expr.intFunction`: the functions of one number.
* `Expr.bitsFrom`, `Expr.withBits`: some of the bits of an integer.
* `Expr.floatCall`, `Expr.intCall`: the functions of a number and further arguments.
* `Expr.intChange?`: the functions that change an integer.
-/

namespace OpticScene.Expr

/-- The ratio of a circle's circumference to its diameter. -/
def pi : Float := 3.141592653589793

/-- The base of the natural logarithm. -/
def euler : Float := 2.718281828459045

/-! ### One number -/

/-- The functions on doubles that integers may be given to as well. -/
def commonFunction? : String → Option (Float → Float)
  | "sqrt" => some Float.sqrt
  | "sin" => some Float.sin
  | "cos" => some Float.cos
  | "tan" => some Float.tan
  | "asin" => some Float.asin
  | "acos" => some Float.acos
  | "atan" => some Float.atan
  | "exp" => some Float.exp
  | "ln" => some Float.log
  | _ => none

/-- The functions on doubles only. -/
def floatFunction? : String → Option (Float → Float)
  | "floor" => some Float.floor
  | "ceiling" => some Float.ceil
  | "round" => some Binary64.round
  | "int" => some Binary64.truncate
  | "fraction" => some Binary64.fraction
  | "sinh" => some Float.sinh
  | "cosh" => some Float.cosh
  | "tanh" => some Float.tanh
  | "asinh" => some Binary64.asinh
  | "acosh" => some Binary64.acosh
  | "atanh" => some Binary64.atanh
  | "to_degrees" => some fun x => x * (180.0 / pi)
  | "to_radians" => some fun x => x * (pi / 180.0)
  | "log" => some Float.log10
  | "abs" => some Float.abs
  | "to_float" => some id
  | _ => none

/-- The tests on doubles. -/
def floatTest? : String → Option (Float → Bool)
  | "is_nan" => some Float.isNaN
  | "is_finite" => some Float.isFinite
  | "is_infinite" => some Float.isInf
  | "is_zero" => some fun x => x == 0.0
  | _ => none

/-- The whole part of a double as an integer. -/
def wholePart (x : Float) : Outcome :=
  if x.isNaN then .value (.int 0)
  else if 9223372036854775808.0 < x || x < -9223372036854775808.0 then
    .fail (.integerOverflow x)
  else .value (.int (min (Binary64.toInt x) maxInt))

/-- The functions of one double. -/
def floatFunction (name : String) (x : Float) : Outcome :=
  match (commonFunction? name).or (floatFunction? name) with
  | some f => .value (.float (f x))
  | none =>
    match floatTest? name with
    | some test => .value (.truth (test x))
    | none =>
      match name with
      | "to_int" => wholePart x
      | "sign" =>
        if x.isNaN then .fail .signOfNaN
        else .value (.int (if x < 0.0 then -1 else if 0.0 < x then 1 else 0))
      | _ => none

/-- The digits of an integer in a base; a negative one is read as a word of 64 bits. -/
def wordDigits (base : Nat) (n : Int) : String :=
  String.ofList (Nat.toDigits base (n % 2 ^ 64).toNat)

/-- The functions of one integer. -/
def intFunction (name : String) (n : Int) : Outcome :=
  match commonFunction? name with
  | some f => .value (.float (f (floatOfInt n)))
  | none =>
    match name with
    | "log10" => .value (.float (floatOfInt n).log10)
    | "abs" =>
      if n = -2 ^ 63 then .fail (.negationOverflow n) else .value (.int n.natAbs)
    | "sign" => .value (.int n.sign)
    | "is_zero" => .value (.truth (n == 0))
    | "is_odd" => .value (.truth (n % 2 == 1))
    | "is_even" => .value (.truth (n % 2 == 0))
    | "to_int" => .value (.int n)
    | "to_float" => .value (.float (floatOfInt n))
    | "to_hex" => .value (.text (wordDigits 16 n))
    | "to_octal" => .value (.text (wordDigits 8 n))
    | "to_binary" => .value (.text (wordDigits 2 n))
    | "bits" => .value (.series .bits)
    | _ => none

/-! ### Bits -/

/-- The number of bits of an integer. -/
def wordBits : Nat := 64

/-- The place of a bit, counted from the highest one if it is negative. -/
def bitPlace (n : Int) : Except ValueCause Nat :=
  match placeIn? wordBits n with
  | some i => .ok i
  | none => .error (.bitBounds n)

/-- Whether a bit is set. -/
def isBitSet (n : Int) (i : Nat) : Bool := n.fdiv (2 ^ i) % 2 == 1

/-- `count` bits from the place `i` on, as far as there are any; all bits keep their sign. -/
def bitsFrom (n : Int) (i count : Nat) : Int :=
  let count := min count (wordBits - i)
  if count = wordBits then n else n.fdiv (2 ^ i) % 2 ^ count

/-- The integer in which `count` bits from the place `i` on are those of `bits`. -/
def withBits (n : Int) (i count : Nat) (bits : Int) : Int :=
  let count := min count (wordBits - i)
  let old := n.fdiv (2 ^ i) % 2 ^ count
  let new := bits % 2 ^ count
  (n + (new - old) * 2 ^ i).bmod (2 ^ 64)

/-- The functions of an integer and further arguments that look at its bits. -/
def bitCall (name : String) (n : Int) (arguments : List Value) : Option (Except ValueCause Value) :=
  match name, arguments with
  | "get_bit", [.int i] => some ((bitPlace i).map fun i => .truth (isBitSet n i))
  | "get_bits", [.int i, .int count] =>
    if count ≤ 0 then some (.ok (.int 0))
    else some ((bitPlace i).map fun i => .int (bitsFrom n i count.toNat))
  | "bits", [.int i] | "bits", [.int i, .int _] =>
    some ((bitPlace i).map fun _ => .series .bits)
  | _, _ => none

/-- The functions that change bits of an integer. -/
def intChange? (name : String) (n : Int) (arguments : List Value) :
    Option (Except ValueCause (Value × Int)) :=
  match name, arguments with
  | "set_bit", [.int i, .truth b] =>
    some ((bitPlace i).map fun i => (.unit, withBits n i 1 (if b then 1 else 0)))
  | "set_bits", [.int i, .int count, .int bits] =>
    if count ≤ 0 then some (.ok (.unit, n))
    else some ((bitPlace i).map fun i => (.unit, withBits n i count.toNat bits))
  | _, _ => none

/-! ### Several numbers -/

/-- The functions of two doubles. -/
def floatPairFunction (name : String) (x y : Float) : Outcome :=
  match name with
  | "atan2" | "atan" => .value (.float (x.atan2 y))
  | "hypot" => .value (.float (Binary64.hypotenuse x y))
  | "log" => .value (.float (x.log / y.log))
  | "max" => .value (.float (if x ≥ y then x else y))
  | "min" => .value (.float (if x ≤ y then x else y))
  | _ => none

/-- The functions of two numbers of which at least one is an integer. -/
def numberPairFunction (name : String) (x y : Float) : Outcome :=
  if name = "max" || name = "min" then floatPairFunction name x y else none

/-- Bytes, unless there are too many of them. -/
def someBytes (count : Int) : Outcome :=
  if maxItems < count then .fail (.tooLarge "Size of array/BLOB") else .value (.series .bytes)

/-- The functions of two integers. -/
def intPairFunction (name : String) (m n : Int) : Outcome :=
  match name with
  | "max" => .value (.int (max m n))
  | "min" => .value (.int (min m n))
  | "range" => .value (.range m n false)
  | "blob" => someBytes m
  | _ => bitCall name m [.int n]

/-- The steps of `step` from a start; none if a step leads nowhere. -/
def steps (kind : Series) (isZero : Bool) : Outcome :=
  if isZero then .fail .zeroStep else .value (.series kind)

/-- The functions of a double and further arguments. -/
def floatCall (name : String) (x : Float) : List Value → Outcome
  | [] => floatFunction name x
  | [.float y] => floatPairFunction name x y
  | [.int n] => numberPairFunction name x (floatOfInt n)
  | [.float _, .float step] =>
    if name = "range" then steps .doubles (x + step == x) else none
  | _ => none

/-- The functions of an integer and further arguments. -/
def intCall (name : String) (n : Int) : List Value → Outcome
  | [] => if name = "blob" then someBytes n else intFunction name n
  | [.int m] => intPairFunction name n m
  | [.float y] => numberPairFunction name (floatOfInt n) y
  | [.int m, .int step] =>
    if name = "range" then steps .integers (step = 0) else bitCall name n [.int m, .int step]
  | _ => none

end OpticScene.Expr
