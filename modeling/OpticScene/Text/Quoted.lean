import OpticScene.Text.Hidden

/-!
# Quoted text

How a text is quoted inside a message: between double quotes, with escapes for the quote, the
backslash and every character that has no picture of its own.

## Main definitions

* `Text.hexDigits`: a number in lower-case hexadecimal.
* `Text.quoted`: the text between quotes.
-/

namespace OpticScene.Text

/-- The lower-case hexadecimal digits of a number, without leading zeros. -/
def hexDigits (n : Nat) : String := String.ofList (Nat.toDigits 16 n)

/-- One character inside quotes. -/
def quotedChar (c : Char) : String :=
  match c with
  | '\x00' => "\\0"
  | '\t' => "\\t"
  | '\r' => "\\r"
  | '\n' => "\\n"
  | '\\' => "\\\\"
  | '"' => "\\\""
  | c => if isHidden c then "\\u\x7b" ++ hexDigits c.toNat ++ "\x7d" else c.toString

/-- The text between double quotes. -/
def quoted (s : String) : String :=
  "\"" ++ String.join (s.toList.map quotedChar) ++ "\""

end OpticScene.Text
