import OpticScene.Binary64.Basic

/-!
# Operations on doubles that need exact arithmetic

Remainder, hypotenuse, truncation, rounding and the order that tells every two doubles apart.

## Main definitions

* `Binary64.truncate`, `Binary64.toInt`: the whole part, as a double and as an integer.
* `Binary64.round`: the nearest whole number.
* `Binary64.remainder`: what is left of `x` after whole multiples of `y`, with the sign of `x`.
* `Binary64.hypotenuse`: the square root of a sum of two squares.
* `Binary64.larger`, `Binary64.clamp`: doubles by their order.
* `Binary64.orderKey`: an integer that grows with the order on doubles that tells all of them apart.
-/

namespace OpticScene.Binary64

/-- The double without its fraction; the sign of zero is kept. -/
def truncate (x : Float) : Float := if x < 0.0 then x.ceil else x.floor

/-- The fraction of a double, with its sign. -/
def fraction (x : Float) : Float := x - truncate x

/-- The whole part of a finite double. -/
def toInt (x : Float) : Int :=
  let b := ofFloat x
  let whole : Nat := b.mantissa * 2 ^ b.exponent.toNat / 2 ^ (-b.exponent).toNat
  if b.negative then -(whole : Int) else whole

/-- Gives the magnitude a sign. -/
def withSign (negative : Bool) (x : Float) : Float := if negative then -x else x

/-- The nearest whole number, a half going away from zero; the sign of zero is kept. -/
def round (x : Float) : Float :=
  let b := ofFloat x
  -- without digits behind the point there is nothing to round, nor without a number
  if x.isNaN || x.isInf || 0 ≤ b.exponent then x
  else
    let places := (-b.exponent).toNat
    withSign b.negative (nearest ((b.mantissa + 2 ^ (places - 1)) / 2 ^ places) 0)

/-- What is left of `x` after taking away whole multiples of `y`, with the sign of `x`; exact for
finite operands. -/
def remainder (x y : Float) : Float :=
  if x.isNaN || y.isNaN || x.isInf || y == 0.0 then 0.0 / 0.0
  else if y.isInf then x
  else
    let a := ofFloat x
    let b := ofFloat y
    let e := min a.exponent b.exponent
    let r := (a.mantissa * 2 ^ (a.exponent - e).toNat) % (b.mantissa * 2 ^ (b.exponent - e).toNat)
    withSign a.negative (nearest r e)

/-- The hypotenuse over the sides `a ≥ b`, when no square is too large or too small for a double:
the root of the sum of the squares, less one Newton step whose residual is formed so that large
terms cancel. -/
def plainHypotenuse (a b : Float) : Float :=
  let h := (a * a + b * b).sqrt
  let residual :=
    if h ≤ 2.0 * b then
      let d := h - b
      a * (2.0 * d - a) + (d - 2.0 * (a - b)) * d
    else
      let d := h - a
      2.0 * d * (a - 2.0 * b) + ((4.0 * d - b) * b + d * d)
  h - residual / (2.0 * h)

/-- The square root of `x * x + y * y` for doubles of every size: very large and very small sides
are scaled, and a side that is negligible is only added. An infinite side outweighs one that is not
a number. -/
def hypotenuse (x y : Float) : Float :=
  if x.isInf || y.isInf then 1.0 / 0.0
  else if x.isNaN || y.isNaN then 0.0 / 0.0
  else
    let (a, b) := if x.abs < y.abs then (y.abs, x.abs) else (x.abs, y.abs)
    let ratio := nearest 1 (-54)
    let scale := nearest 1 (-600)
    let small := b < nearest 1 (-459)
    if if small then b / ratio ≤ a else b ≤ a * ratio then a + b
    else if nearest 1 511 < a then plainHypotenuse (a * scale) (b * scale) / scale
    else if small then plainHypotenuse (a / scale) (b / scale) * scale
    else plainHypotenuse a b

/-- The larger of two doubles; one that is not a number does not count. -/
def larger (x y : Float) : Float :=
  if x.isNaN then y else if y.isNaN then x else if x < y then y else x

/-- The double nearest to `x` between two bounds. -/
def clamp (low high x : Float) : Float := if x < low then low else if high < x then high else x

/-- An integer that grows with the order on doubles in which `-0` comes before `0` and a double that
is not a number before all others. That order goes by the sign bit, also of what is not a number.
On x86-64 the bit is set in what arithmetic makes out of numbers without being one, as in `∞ - ∞`
and `0 * ∞`, so this comes first. Something that is not a number and has no sign bit would come
last, but it can only be passed on from an operand, and a comparison with such an operand fails
before there is anything to order. -/
def orderKey (x : Float) : Int :=
  let bits : Int := x.toBits.toNat
  if x.isNaN then -2 ^ 63 else if bits < 2 ^ 63 then bits else 2 ^ 63 - 1 - bits

end OpticScene.Binary64
