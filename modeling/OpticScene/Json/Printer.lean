import OpticScene.Json.Basic
import OpticScene.Decimal.Style
import OpticScene.Text.Quoted

/-!
# Writing JSON

The compact text of a value, without any blanks, and the text over several lines with an indent of
two spaces. Fields keep their order.

## Main definitions

* `Json.numberStyle`: how numbers with a fraction are written.
* `Json.compact`, `Json.pretty`: the two texts of a value.
* `Json.interpolated`: the text of a value inside another text.
-/

namespace OpticScene.Json

/-- Numbers have at least one digit after the point, and an exponent below `1e-5` and from `1e16`
on. -/
def numberStyle : Decimal.Style where
  tie := .even
  isPositional := fun x => 1e-5 ≤ x && x < 1e16
  fraction := true
  plus := true
  signedZero := true

/-- The text of a number. -/
def Number.write : Number → String
  | .int n => toString n
  | .float x => numberStyle.write x

/-- One character inside quotes. Control characters have a short escape or four hexadecimal
digits; all others are written as they are. -/
def escapedChar (c : Char) : String :=
  match c with
  | '"' => "\\\""
  | '\\' => "\\\\"
  | '\x08' => "\\b"
  | '\x0c' => "\\f"
  | '\n' => "\\n"
  | '\r' => "\\r"
  | '\t' => "\\t"
  | c =>
    if c.toNat < 0x20 then
      "\\u00" ++ (if c.toNat < 0x10 then "0" else "") ++ Text.hexDigits c.toNat
    else c.toString

/-- A text between quotes. -/
def writeString (s : String) : String :=
  "\"" ++ String.join (s.toList.map escapedChar) ++ "\""

mutual

/-- The text of a value on one line, without blanks. -/
def compact : Json → String
  | .null => "null"
  | .bool b => if b then "true" else "false"
  | .number n => n.write
  | .string s => writeString s
  | .array items => "[" ++ ",".intercalate (compactItems items) ++ "]"
  | .object fields => "\x7b" ++ ",".intercalate (compactFields fields) ++ "\x7d"

/-- The texts of the items of an array. -/
def compactItems : List Json → List String
  | [] => []
  | v :: vs => compact v :: compactItems vs

/-- The texts of the fields of an object. -/
def compactFields : List (String × Json) → List String
  | [] => []
  | (k, v) :: fields => (writeString k ++ ":" ++ compact v) :: compactFields fields

end

/-- The start of a new line at a depth of nesting. -/
def newline (depth : Nat) : String := "\n" ++ String.ofList (List.replicate (2 * depth) ' ')

/-- Items on lines of their own between two brackets; no items leave the brackets together. -/
def bracketed (start stop : String) (depth : Nat) (items : List String) : String :=
  if items.isEmpty then start ++ stop
  else
    start ++ newline (depth + 1) ++ ("," ++ newline (depth + 1)).intercalate items ++
      newline depth ++ stop

mutual

/-- The text of a value over several lines, at a depth of nesting. -/
def prettyAt (depth : Nat) : Json → String
  | .array items => bracketed "[" "]" depth (prettyItems (depth + 1) items)
  | .object fields => bracketed "\x7b" "\x7d" depth (prettyFields (depth + 1) fields)
  | v => compact v

/-- The texts of the items of an array. -/
def prettyItems (depth : Nat) : List Json → List String
  | [] => []
  | v :: vs => prettyAt depth v :: prettyItems depth vs

/-- The texts of the fields of an object. -/
def prettyFields (depth : Nat) : List (String × Json) → List String
  | [] => []
  | (k, v) :: fields => (writeString k ++ ": " ++ prettyAt depth v) :: prettyFields depth fields

end

/-- The text of a value over several lines. -/
def pretty (v : Json) : String := prettyAt 0 v

/-- The text of a number inside another text: whole numbers have no point, and there is never an
exponent. Integers beyond a signed word are written as the nearest double. -/
def Number.interpolated : Number → String
  | .int n => if n < 2 ^ 63 then toString n else Decimal.plain.write (floatOfInt n)
  | .float x => Decimal.plain.write x

/-- The text of a value inside another text: texts stand without quotes. -/
def interpolated : Json → String
  | .string s => s
  | .number n => n.interpolated
  | v => v.compact

end OpticScene.Json
