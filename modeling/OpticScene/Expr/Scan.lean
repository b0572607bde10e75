import OpticScene.Expr.Token

/-!
# What a scanner finds

A scanner looks at the characters from one place on and tells which token starts there and how many
characters it takes.

## Main definitions

* `Expr.Scan`: the outcome of a scanner.
* `Expr.Scan.after`: the place after the characters that a scanner took.
-/

namespace OpticScene.Expr

/-- What a scanner found at the front of the characters. -/
structure Scan where
  /-- The token, unless the characters are to be skipped. -/
  token : Option Token
  /-- The number of characters that belong to it. -/
  length : Nat
  /-- The number of characters before the place that the token is reported at. -/
  offset : Nat := 0
  /-- The number of characters after which a line starts, where no line feed tells so. -/
  lineStart : Option Nat := none

/-- A token of some characters. -/
def Scan.found (token : Token) (length : Nat) : Scan := { token := some token, length }

/-- Characters to be skipped. -/
def Scan.skipped (length : Nat) : Scan := { token := none, length }

/-- The place after the characters that a scanner took from `cs`. -/
def Scan.after (found : Scan) (p : Position) (cs : List Char) : Position :=
  let taken := cs.take (max 1 found.length)
  match found.lineStart with
  | none => p.afterAll taken
  | some n => Position.afterAll ⟨p.line + 1, 1⟩ (taken.drop n)

end OpticScene.Expr
