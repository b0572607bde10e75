import OpticScene.Binary64.Basic
import OpticScene.Binary64.Arithmetic

/-!
# Reading numerals

Decimal numerals for doubles and digit strings for integers, as they stand in options and in the
arguments of conversion functions.

## Main definitions

* `Decimal.scaled`: the double nearest to `coefficient * 10 ^ exponent`.
* `Decimal.readFloat`: a sign, digits with an optional point and exponent, or the name of infinity
  or of the value that is not a number.
* `Decimal.readNat`, `Decimal.readInt`: digits within a range.
-/

namespace OpticScene.Decimal

/-- The double nearest to `coefficient * 10 ^ exponent`. Exponents far outside the range of doubles
are answered without forming the power. -/
def scaled (coefficient : Nat) (exponent : Int) : Float :=
  if coefficient = 0 then 0.0
  else
    let point := (Nat.toDigits 10 coefficient).length + exponent
    if 400 < point then 1.0 / 0.0
    else if point < -400 then 0.0
    else if 0 ≤ exponent then Binary64.nearestQuotient (coefficient * 10 ^ exponent.toNat) 1
    else Binary64.nearestQuotient coefficient (10 ^ (-exponent).toNat)

/-- The value of a decimal digit. -/
def digitValue (c : Char) : Nat := c.toNat - '0'.toNat

/-- The number that a list of decimal digits spells. -/
def ofDigits (cs : List Char) : Nat := cs.foldl (fun n c => 10 * n + digitValue c) 0

/-- Why a text is no numeral. -/
inductive ReadError where
  /-- Nothing stands where a double should. -/
  | emptyFloat
  /-- Something other than a double stands there. -/
  | invalidFloat
  /-- Nothing stands where an integer should. -/
  | emptyInteger
  /-- A character is no digit. -/
  | invalidDigit
  /-- The integer is above the range. -/
  | tooLarge
  /-- The integer is below the range. -/
  | tooSmall
  deriving Repr, DecidableEq, Inhabited

/-- The text of the reason. -/
def ReadError.message : ReadError → String
  | .emptyFloat => "cannot parse float from empty string"
  | .invalidFloat => "invalid float literal"
  | .emptyInteger => "cannot parse integer from empty string"
  | .invalidDigit => "invalid digit found in string"
  | .tooLarge => "number too large to fit in target type"
  | .tooSmall => "number too small to fit in target type"

/-- An optional sign: whether it is a minus, and what follows it. -/
def splitSign : List Char → Bool × List Char
  | '+' :: cs => (false, cs)
  | '-' :: cs => (true, cs)
  | cs => (false, cs)

/-- An exponent after its letter: an optional sign and at least one digit, up to the end. -/
def readExponent? (cs : List Char) : Option Int :=
  let (negative, digits) := splitSign cs
  if digits.isEmpty || !digits.all Char.isDigit then none
  else some (if negative then -(ofDigits digits : Int) else ofDigits digits)

/-- The magnitude of a double: digits with an optional point among them and an optional exponent,
up to the end. -/
def readMagnitude? (cs : List Char) : Option Float :=
  let whole := cs.takeWhile Char.isDigit
  let rest := cs.dropWhile Char.isDigit
  let (fraction, rest) :=
    match rest with
    | '.' :: rest => (rest.takeWhile Char.isDigit, rest.dropWhile Char.isDigit)
    | rest => ([], rest)
  if whole.isEmpty && fraction.isEmpty then none
  else
    let value (e : Int) : Float := scaled (ofDigits (whole ++ fraction)) (e - fraction.length)
    match rest with
    | [] => some (value 0)
    | c :: rest => if c = 'e' || c = 'E' then (readExponent? rest).map value else none

/-- A double: a sign, then a magnitude or the name of a value that has none. -/
def readFloat (s : String) : Except ReadError Float :=
  if s.isEmpty then .error .emptyFloat
  else
    let (negative, cs) := splitSign s.toList
    let name := String.ofList (cs.map Char.toLower)
    let magnitude :=
      if name = "inf" || name = "infinity" then some (1.0 / 0.0)
      else if name = "nan" then some (0.0 / 0.0)
      else readMagnitude? cs
    match magnitude with
    | some x => .ok (Binary64.withSign negative x)
    | none => .error .invalidFloat

/-- The value of a letter or digit as a digit in bases up to 36. -/
def radixDigit? (c : Char) : Option Nat :=
  if c.isDigit then some (digitValue c)
  else if 'a' ≤ c && c ≤ 'z' then some (c.toNat - 'a'.toNat + 10)
  else if 'A' ≤ c && c ≤ 'Z' then some (c.toNat - 'A'.toNat + 10)
  else none

/-- Reads one more digit of an integer whose magnitude is at most `limit`. -/
def radixStep (radix limit : Nat) (overflow : ReadError) (n : Nat) (c : Char) :
    Except ReadError Nat :=
  match radixDigit? c with
  | none => .error .invalidDigit
  | some d =>
    if radix ≤ d then .error .invalidDigit
    else if limit < radix * n + d then .error overflow
    else .ok (radix * n + d)

/-- An integer in a base, from `low` to `high`. A minus sign is read only where negative numbers
are in range, and a sign needs a digit after it. -/
def readRadix (radix : Nat) (low high : Int) (s : String) : Except ReadError Int :=
  match s.toList with
  | [] => .error .emptyInteger
  | c :: cs =>
    let signed := c = '+' || (c = '-' && low < 0)
    let digits := if signed then cs else c :: cs
    if digits.isEmpty then .error .invalidDigit
    else if c = '-' then
      (digits.foldlM (radixStep radix low.natAbs .tooSmall) 0).map fun n => -Int.ofNat n
    else (digits.foldlM (radixStep radix high.natAbs .tooLarge) 0).map Int.ofNat

/-- A natural number below `2 ^ 64`. -/
def readNat (s : String) : Except ReadError Nat :=
  (readRadix 10 0 (2 ^ 64 - 1) s).map Int.toNat

/-- An integer that fits into a signed word of 64 bits. -/
def readInt (s : String) : Except ReadError Int := readRadix 10 (-2 ^ 63) (2 ^ 63 - 1) s

end OpticScene.Decimal
