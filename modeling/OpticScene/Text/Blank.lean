/-!
# Blank characters

Which characters count as white space around a name, a number or an expression, and how text is
trimmed of them.

## Main definitions

* `Text.isBlank`: the white space of the Unicode standard.
* `Text.trim`: a text without the blanks at its two ends.
-/

namespace OpticScene.Text

/-- The characters with the Unicode property `White_Space`. -/
def isBlank (c : Char) : Bool :=
  let n := c.toNat
  (9 ≤ n && n ≤ 13) || n == 0x20 || n == 0x85 || n == 0xA0 || n == 0x1680 ||
    (0x2000 ≤ n && n ≤ 0x200A) || n == 0x2028 || n == 0x2029 || n == 0x202F || n == 0x205F ||
    n == 0x3000

/-- The characters without the blanks at the front. -/
def trimStart (cs : List Char) : List Char := cs.dropWhile isBlank

/-- The characters without the blanks at either end. -/
def trimChars (cs : List Char) : List Char :=
  (trimStart (trimStart cs).reverse).reverse

/-- The text without the blanks at either end. -/
def trim (s : String) : String := String.ofList (trimChars s.toList)

/-- A text is blank when it has no other character. -/
def isAllBlank (s : String) : Bool := s.toList.all isBlank

end OpticScene.Text
