import OpticScene.Binary64.Arithmetic

/-!
# Inverse hyperbolic functions

Area functions by way of the logarithm of one plus a number, which keeps the digits that adding one
would lose.

## Main definitions

* `Binary64.logOnePlus`: the natural logarithm of `1 + x`.
* `Binary64.asinh`, `Binary64.acosh`, `Binary64.atanh`: the inverse hyperbolic functions.
-/

namespace OpticScene.Binary64

/-- The upper half of the bits of a double, without the sign. -/
def highWord (x : Float) : Nat := x.toBits.toNat / 2 ^ 32 % 2 ^ 31

/-- The double with the same lower half of its bits and another upper half. -/
def withHighWord (word : Nat) (x : Float) : Float :=
  Float.ofBits (UInt64.ofNat (word * 2 ^ 32 + x.toBits.toNat % 2 ^ 32))

/-- The first bits of the logarithm of two, so few that small multiples of them are exact. -/
def ln2High : Float := Float.ofBits 0x3fe62e42fee00000

/-- The rest of the logarithm of two. -/
def ln2Low : Float := Float.ofBits 0x3dea39ef35793c76

/-- What the series of the logarithm adds to its first terms, for the square `z` of the quotient
`f / (2 + f)`. -/
def logTail (z : Float) : Float :=
  let z2 := z * z
  let z4 := z2 * z2
  let z6 := z4 * z2
  let r1 := z * Float.ofBits 0x3FE5555555555593
  let r2 := Float.ofBits 0x3FD999999997FA04 + z * Float.ofBits 0x3FD2492494229359
  let r3 := Float.ofBits 0x3FCC71C51D8E78AF + z * Float.ofBits 0x3FC7466496CB03DE
  let r4 := Float.ofBits 0x3FC39A09D078C69F + z * Float.ofBits 0x3FC2F112DF3E5244
  r1 + z2 * r2 + z4 * r3 + z6 * r4

/-- The logarithm of `2 ^ k * (1 + f)`, to which `c` is added. `isTiny` tells that two terms of the
series are enough. -/
def logScaled (k : Int) (f c : Float) (isTiny : Bool) : Float :=
  let n := withSign (k < 0) (nearest k.natAbs 0)
  let hfsq := 0.5 * f * f
  if isTiny then
    if f == 0.0 then (if k = 0 then 0.0 else n * ln2High + (c + n * ln2Low))
    else
      let r := hfsq * (1.0 - 0.66666666666666666 * f)
      if k = 0 then f - r else n * ln2High - ((r - (n * ln2Low + c)) - f)
  else
    let s := f / (2.0 + f)
    let r := logTail (s * s)
    if k = 0 then f - (hfsq - s * (hfsq + r))
    else n * ln2High - ((hfsq - (s * (hfsq + r) + (n * ln2Low + c))) - f)

/-- The natural logarithm of `1 + x`. The sum is brought between the square roots of one half and of
two, and what rounding took from it is added to the logarithm. -/
def logOnePlus (x : Float) : Float :=
  let high := highWord x
  if x.isNaN then x
  else if x == -1.0 then -1.0 / 0.0
  else if x < -1.0 then 0.0 / 0.0
  else if x.isInf then x
  else if high < 0x3c900000 then x
  else if high < 0x3e200000 then x - x * x * 0.5
  else if if x < 0.0 then high ≤ 0x3fd2bec4 else high < 0x3FDA827A then logScaled 0 x 0.0 false
  else
    let isLarge := 0x43400000 ≤ high
    let u := if isLarge then x else 1.0 + x
    let word := highWord u
    let k : Int := (word / 2 ^ 20 : Nat) - 1023
    let c :=
      if isLarge then 0.0
      else (if 0 < k then 1.0 - (u - x) else x - (u - 1.0)) / u
    let digits := word % 2 ^ 20
    if digits < 0x6a09e then
      logScaled k (withHighWord (digits + 0x3ff00000) u - 1.0) c (digits = 0)
    else
      logScaled (k + 1) (withHighWord (digits + 0x3fe00000) u - 1.0) c ((2 ^ 20 - digits) / 4 = 0)

/-- The inverse hyperbolic sine. -/
def asinh (x : Float) : Float :=
  let a := x.abs
  let inverse := 1.0 / a
  let y := logOnePlus (a + a / (hypotenuse 1.0 inverse + inverse))
  withSign (x.toBits.toNat / 2 ^ 63 = 1) y

/-- The inverse hyperbolic cosine; none of a number below one. -/
def acosh (x : Float) : Float :=
  if x < 1.0 then 0.0 / 0.0 else (x + (x - 1.0).sqrt * (x + 1.0).sqrt).log

/-- The inverse hyperbolic tangent. -/
def atanh (x : Float) : Float := 0.5 * logOnePlus (2.0 * x / (1.0 - x))

end OpticScene.Binary64
