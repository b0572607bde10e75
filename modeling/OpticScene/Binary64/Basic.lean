/-!
# Doubles as exact numbers

A finite double is a whole number times a power of two. This module takes doubles apart into that
form and puts the nearest double together from an exact quotient, so that decimal text can be read
and written by arithmetic on natural numbers.

## Main definitions

* `Binary64`: sign, mantissa and exponent of a finite double.
* `Binary64.ofFloat`: the parts of a double.
* `Binary64.nearest`: the double nearest to `n * 2 ^ e`, a half going to the even neighbour.
* `Binary64.nearestQuotient`: the double nearest to a quotient of two natural numbers.
-/

namespace OpticScene

-- powers of whole numbers are computed in one way, whatever other ways a library knows
attribute [instance (high), default_instance high] instPowNat

/-- The number `± mantissa * 2 ^ exponent`. -/
structure Binary64 where
  /-- Whether the number has a minus sign; zero may have one. -/
  negative : Bool
  /-- Below `2 ^ 53` for a double. -/
  mantissa : Nat
  /-- At least `-1074` for a double. -/
  exponent : Int
  deriving Repr, DecidableEq, Inhabited

namespace Binary64

/-- The parts of a finite double. -/
def ofFloat (x : Float) : Binary64 :=
  let bits := x.toBits.toNat
  let fraction := bits % 2 ^ 52
  let biased := bits / 2 ^ 52 % 2 ^ 11
  let negative : Bool := bits / 2 ^ 63 == 1
  if biased = 0 then ⟨negative, fraction, -1074⟩
  else ⟨negative, fraction + 2 ^ 52, Int.ofNat biased - 1075⟩

/-- The number of binary digits; zero has none. -/
def bitLength (n : Nat) : Nat := if n = 0 then 0 else n.log2 + 1

/-- The quotient rounded to the nearest whole number, a half going to the even one. -/
def roundDiv (n d : Nat) : Nat :=
  let q := n / d
  let r := n % d
  if 2 * r < d then q else if d < 2 * r then q + 1 else q + q % 2

/-- The double with the magnitude `mantissa * 2 ^ exponent`, where the mantissa is at most `2 ^ 53`
and the exponent at least `-1074`; infinity when that is too large for a double. -/
def assemble (mantissa : Nat) (exponent : Int) : Float :=
  let bits := (exponent + 1074).toNat * 2 ^ 52 + mantissa
  Float.ofBits (UInt64.ofNat (min bits (0x7FF * 2 ^ 52)))

/-- The double nearest to `n * 2 ^ e`, a half going to the even neighbour. -/
def nearest (n : Nat) (e : Int) : Float :=
  if n = 0 then 0.0
  else
    let least := max ((bitLength n : Int) + e - 53) (-1074)
    if least ≤ e then assemble (n * 2 ^ (e - least).toNat) least
    else assemble (roundDiv n (2 ^ (least - e).toNat)) least

/-- The double nearest to `n / d`, a half going to the even neighbour. Sixty-six leading digits of
the quotient, and one that says whether any others follow, decide the rounding. -/
def nearestQuotient (n d : Nat) : Float :=
  let e : Int := (bitLength n : Int) - (bitLength d : Int) - 67
  let n' := n * 2 ^ (-e).toNat
  let d' := d * 2 ^ e.toNat
  nearest (2 * (n' / d') + (if n' % d' = 0 then 0 else 1)) (e - 1)

end Binary64

end OpticScene
