import OpticScene.Expr.Scan
import OpticScene.Decimal.Read

/-!
# Numerals

Whole numbers in base ten, or in base sixteen, eight or two after a zero and a letter, and numbers
with a fraction or exponent. Underscores may stand among the digits.

## Main definitions

* `Expr.scanDecimal`, `Expr.scanRadixDigits`: how far a numeral goes.
* `Expr.decimalToken`, `Expr.radixToken`: what it stands for.
* `Expr.scanNumber`: the numeral at the front of the characters.
-/

namespace OpticScene.Expr

/-- A number as far as it has been read. -/
structure Numeral where
  /-- Its characters without separators, backwards. -/
  text : List Char
  /-- The number of characters read. -/
  length : Nat

/-- Reads one more character of a numeral into its text. -/
def Numeral.push (n : Numeral) (c : Char) : Numeral := ⟨c :: n.text, n.length + 1⟩

/-- Reads a separator. -/
def Numeral.skip (n : Numeral) : Numeral := { n with length := n.length + 1 }

/-! ### Other bases -/

/-- The base that a letter after a leading zero stands for. -/
def radixOf? (c : Char) : Option Nat :=
  if c = 'x' || c = 'X' then some 16
  else if c = 'o' || c = 'O' then some 8
  else if c = 'b' || c = 'B' then some 2
  else none

/-- The digits of a number in another base. -/
def scanRadixDigits (radix : Nat) : Numeral → List Char → Numeral
  | n, [] => n
  | n, c :: cs =>
    if c = '_' then scanRadixDigits radix n.skip cs
    else if (Decimal.radixDigit? c).any (· < radix) then scanRadixDigits radix (n.push c) cs
    else n

/-- The letter of a base after a leading zero and any separators: the base, the numeral up to the
letter, and what follows it. -/
def scanRadix? : Numeral → List Char → Option (Nat × Numeral × List Char)
  | _, [] => none
  | n, c :: cs =>
    if c = '_' then scanRadix? n.skip cs
    else (radixOf? c).map fun radix => (radix, n.push c, cs)

/-- The value of a word of 64 bits read as a signed integer. -/
def signed (n : Nat) : Int := (n : Int).bmod (2 ^ 64)

/-- The token of a number in another base, of which the first two characters are left out: they are
the zero and the letter, unless a sign stands before them. -/
def radixToken (radix : Nat) (text : String) : Token :=
  match Decimal.readRadix radix 0 (2 ^ 64 - 1) text with
  | .ok n => .int (signed n.toNat)
  | .error _ => .bad (.badNumber text)

/-! ### Base ten -/

/-- The part of a decimal number that is being read. -/
inductive NumeralPart where
  /-- Digits before a point. -/
  | whole
  /-- Digits after the point. -/
  | fraction
  /-- The sign of the exponent. -/
  | sign
  /-- Digits of the exponent. -/
  | exponent
  deriving DecidableEq

/-- The rest of a decimal number. A point belongs to it when a digit follows, or when no name can
start after it; the letter of an exponent belongs to it when a digit or a sign follows. -/
def scanDecimal : NumeralPart → Numeral → List Char → Numeral
  | _, n, [] => n
  | .sign, n, c :: cs => scanDecimal .exponent (n.push c) cs
  | part, n, c :: cs =>
    if c = '_' then scanDecimal part n.skip cs
    else if c.isDigit then scanDecimal part (n.push c) cs
    else if c = '.' && part = .whole then
      match cs.head? with
      | none => n
      | some d =>
        if d.isDigit then scanDecimal .fraction (n.push c) cs
        else if d = '_' || d = '.' || d.isAlpha then n
        else ⟨'0' :: '.' :: n.text, n.length + 1⟩
    else if (c = 'e' || c = 'E') && part ≠ .exponent then
      match cs.head? with
      | none => n
      | some d =>
        if d.isDigit then scanDecimal .exponent (n.push c) cs
        else if d = '+' || d = '-' then scanDecimal .sign (n.push c) cs
        else n
    else n

/-- The token of a number in base ten: an integer if it fits, a double if not. -/
def decimalToken (text : String) : Token :=
  match Decimal.readInt text with
  | .ok n => .int n
  | .error _ =>
    match Decimal.readFloat text with
    | .ok x => .float x
    | .error _ => .bad (.badNumber text)

/-! ### All numerals -/

/-- The number whose digits start at the front of the characters. `negative` tells that a minus
sign in front belongs to it. -/
def scanNumber (negative : Bool) (cs : List Char) : Scan :=
  let sign : List Char := if negative then ['-'] else []
  let finish (n : Numeral) (token : String → Token) (drop : Nat) : Scan :=
    .found (token (String.ofList ((sign ++ n.text.reverse).drop drop))) (n.length + sign.length)
  match cs with
  | [] => .skipped 1
  | c :: cs =>
    match if c = '0' then scanRadix? ⟨[c], 1⟩ cs else none with
    | some (radix, n, digits) => finish (scanRadixDigits radix n digits) (radixToken radix) 2
    | none => finish (scanDecimal .whole ⟨[c], 1⟩ cs) decimalToken 0

end OpticScene.Expr
