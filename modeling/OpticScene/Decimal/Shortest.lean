import OpticScene.Binary64.Basic

/-!
# Shortest decimals

The decimal with the fewest digits that reads back as a given double, and among those the one
nearest to it.

## Main definitions

* `Decimal`: a positive number `coefficient * 10 ^ scale`.
* `Decimal.shortest`: the shortest decimal of a double, found by trying one digit, then two, and so
  on: on each grid only the two neighbours of the double can be in range.
-/

namespace OpticScene

/-- The number `coefficient * 10 ^ scale`. -/
structure Decimal where
  /-- The digits, read as one number. -/
  coefficient : Nat
  /-- The power of ten that the last digit counts. -/
  scale : Int
  deriving Repr, DecidableEq, Inhabited

/-- Which of two equally near decimals is taken. -/
inductive Tie where
  /-- The larger one. -/
  | up
  /-- The one whose last digit is even. -/
  | even
  deriving Repr, DecidableEq, Inhabited

namespace Decimal

/-- The digits of the coefficient. -/
def digits (d : Decimal) : List Char := Nat.toDigits 10 d.coefficient

/-- The number of digits before the point: the number is at least `10 ^ (point - 1)` and less than
`10 ^ point`. -/
def point (d : Decimal) : Int := d.digits.length + d.scale

/-- The same number without zeros at the end of the coefficient. -/
def normalize (d : Decimal) : Decimal :=
  if h : d.coefficient = 0 ∨ d.coefficient % 10 ≠ 0 then d
  else normalize ⟨d.coefficient / 10, d.scale + 1⟩
termination_by d.coefficient
decreasing_by
  simp only [not_or, Decidable.not_not] at h
  exact Nat.div_lt_self (Nat.pos_of_ne_zero h.1) (by decide)

/-- The numbers that read back as a double, in units of `2 ^ exponent`: from `low` to `high`, the
ends included when `closed` holds. -/
structure Interval where
  /-- The double itself. -/
  value : Nat
  /-- Half way to the double below. -/
  low : Nat
  /-- Half way to the double above. -/
  high : Nat
  /-- Whether the ends read back as the double. -/
  closed : Bool
  /-- The power of two that the other fields count. -/
  exponent : Int

/-- The interval around the double `mantissa * 2 ^ exponent`. Below a power of two the doubles lie
twice as dense. -/
def Interval.around (b : Binary64) : Interval where
  value := 4 * b.mantissa
  low := 4 * b.mantissa - (if b.mantissa = 2 ^ 52 ∧ -1074 < b.exponent then 1 else 2)
  high := 4 * b.mantissa + 2
  closed := b.mantissa % 2 = 0
  exponent := b.exponent - 2

/-- The decimal on the grid `10 ^ scale` that is nearest to the value, if it is in the interval. -/
def Interval.onGrid (i : Interval) (tie : Tie) (scale : Int) : Option Nat :=
  let unit := 10 ^ scale.toNat * 2 ^ (-i.exponent).toNat
  let factor := 10 ^ (-scale).toNat * 2 ^ i.exponent.toNat
  let value := i.value * factor
  let inside (d : Nat) : Bool :=
    if i.closed then i.low * factor ≤ d * unit && d * unit ≤ i.high * factor
    else i.low * factor < d * unit && d * unit < i.high * factor
  let below := value / unit
  let above := below + 1
  let gapBelow := value - below * unit
  let gapAbove := above * unit - value
  match inside below, inside above with
  | false, false => none
  | true, false => some below
  | false, true => some above
  | true, true =>
    if gapBelow < gapAbove then some below
    else if gapAbove < gapBelow then some above
    else
      match tie with
      | .up => some above
      | .even => some (if below % 2 = 0 then below else above)

/-- The number of digits before the point of `mantissa * 2 ^ exponent`, for a positive mantissa. -/
def pointOf (b : Binary64) : Int :=
  let estimate := ((Binary64.bitLength b.mantissa : Int) + b.exponent - 1) * 30103 / 100000
  let reached (p : Int) : Bool :=
    10 ^ p.toNat * 2 ^ (-b.exponent).toNat ≤ b.mantissa * 2 ^ b.exponent.toNat * 10 ^ (-p).toNat
  if reached (estimate + 1) then estimate + 2 else estimate + 1

/-- The shortest decimal that reads back as the positive double `b`; seventeen digits always
suffice. -/
def shortest (tie : Tie) (b : Binary64) : Decimal :=
  let interval := Interval.around b
  let point := pointOf b
  let found := (List.range 17).findSome? fun n =>
    let scale := point - Int.ofNat (n + 1)
    (interval.onGrid tie scale).map fun d => Decimal.mk d scale
  (found.getD ⟨b.mantissa, 0⟩).normalize

end Decimal

end OpticScene
