import OpticScene.Decimal.Shortest

/-!
# Writing doubles

A style says how the shortest decimal of a double is laid out. Each kind of output has a style of
its own, kept beside the output.

## Main definitions

* `Decimal.positional`, `Decimal.exponential`: the two layouts.
* `Decimal.Style`: the choices of one kind of output.
* `Decimal.Style.write`: the text of a double in a style.
* `Decimal.plain`: the style of numbers inside messages and interpolated text.
-/

namespace OpticScene.Decimal

/-- The digits around a decimal point, without an exponent. A whole number ends in `.0` when
`fraction` asks for it. -/
def positional (fraction : Bool) (d : Decimal) : String :=
  let digits := d.digits
  let p := d.point
  if p ≤ 0 then "0." ++ String.ofList (List.replicate (-p).toNat '0' ++ digits)
  else
    let p := p.toNat
    if digits.length ≤ p then
      String.ofList (digits ++ List.replicate (p - digits.length) '0') ++
        (if fraction then ".0" else "")
    else String.ofList (digits.take p) ++ "." ++ String.ofList (digits.drop p)

/-- One digit before the point and an exponent. A positive exponent has a plus sign when `plus`
asks for it. -/
def exponential (plus : Bool) (d : Decimal) : String :=
  let e := d.point - 1
  let mantissa :=
    match d.digits with
    | [] => ""
    | [c] => c.toString
    | c :: cs => c.toString ++ "." ++ String.ofList cs
  let sign := if e < 0 then "-" else if plus then "+" else ""
  mantissa ++ "e" ++ sign ++ toString e.natAbs

/-- How doubles are written in one kind of output. -/
structure Style where
  /-- Which of two equally near shortest decimals is written. -/
  tie : Tie
  /-- The magnitudes that are written without an exponent. -/
  isPositional : Float → Bool
  /-- Whether whole numbers without an exponent end in `.0`. -/
  fraction : Bool
  /-- Whether positive exponents have a plus sign. -/
  plus : Bool
  /-- Whether minus zero keeps its sign. -/
  signedZero : Bool

/-- The magnitude of a double in a style. -/
def Style.writeMagnitude (style : Style) (x : Float) : String :=
  if x.isNaN then "NaN"
  else if x.isInf then "inf"
  else if x == 0.0 then (if style.fraction then "0.0" else "0")
  else
    let d := shortest style.tie { Binary64.ofFloat x with negative := false }
    if style.isPositional x.abs then d.positional style.fraction else d.exponential style.plus

/-- The text of a double in a style. -/
def Style.write (style : Style) (x : Float) : String :=
  let negative := x < 0.0 || (style.signedZero && x == 0.0 && 1.0 / x < 0.0)
  (if negative then "-" else "") ++ style.writeMagnitude x

/-- Numbers inside messages and interpolated text never have an exponent, and whole numbers have no
point. -/
def plain : Style where
  tie := .up
  isPositional := fun _ => true
  fraction := false
  plus := false
  signedZero := true

end OpticScene.Decimal
