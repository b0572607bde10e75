import OpticScene.Expr.Operators
import OpticScene.Text.Blank
import OpticScene.Text.Case

/-!
# Functions of texts

What the functions of expressions do with texts and characters. Places are counted in characters,
from the end if they are negative.

## Main definitions

* `Expr.textCall`, `Expr.characterCall`: the functions that look at a text or character.
* `Expr.textChange?`, `Expr.characterChange?`: the functions that change one.
-/

namespace OpticScene.Expr

/-! ### Numbers in texts -/

/-- An integer in a base, between blanks. -/
def parseInteger (s : String) (radix : Int) : Outcome :=
  if radix < 2 || 36 < radix then .fail (.badRadix radix)
  else
    match Decimal.readRadix radix.toNat (-2 ^ 63) maxInt (Text.trim s) with
    | .ok n => .value (.int n)
    | .error reason => .fail (.badInteger s reason)

/-- A double between blanks. -/
def parseNumber (s : String) : Outcome :=
  match Decimal.readFloat (Text.trim s) with
  | .ok x => .value (.float x)
  | .error reason => .fail (.badFloat s reason)

/-! ### Places and parts -/

/-- The number of characters before the first occurrence of a text, or `-1`. Nothing occurs where
there are no characters. -/
def indexOf (needle : String) (cs : List Char) : Int :=
  if cs.isEmpty then -1
  else
    match Text.findChars? needle.toList cs with
    | some n => n
    | none => -1

/-- The place of the first occurrence of a text from a place on. -/
def indexOfFrom (s needle : String) (start : Int) : Int :=
  let skipped := offsetIn s.length start
  let found := indexOf needle (s.toList.drop skipped)
  if found < 0 then found else found + skipped

/-- `count` characters from a place on. -/
def subText (s : String) (start count : Int) : String :=
  let (first, count) := partOf s.length start count
  String.ofList ((s.toList.drop first).take count)

/-- The character at a place. -/
def charAt? (s : String) (n : Int) : Option Char :=
  (placeIn? s.length n).bind fun i => s.toList[i]?

/-- The text with another character at a place, if it has that place. -/
def withCharAt (s : String) (n : Int) (c : Char) : String :=
  match placeIn? s.length n with
  | some i => String.ofList (s.toList.set i c)
  | none => s

/-- The text with another one in place of `count` characters from a place on. -/
def withPart (s : String) (first count : Nat) (part : String) : String :=
  String.ofList (s.toList.take first) ++ part ++ String.ofList (s.toList.drop (first + count))

/-! ### Pieces -/

/-- Texts as an array. -/
def textArray (ss : List String) : Outcome := .value (.array (ss.map .text))

/-- The text backwards. -/
def backwards (s : String) : String := String.ofList s.toList.reverse

/-- The pieces of a text between the occurrences of another one; an empty text is one piece. -/
def piecesOf (sep s : String) : List String := if s.isEmpty then [s] else Text.piecesAt sep s

/-- At most `count` pieces, of which the last one keeps what is left. -/
def firstPieces (sep s : String) (count : Int) : List String :=
  let pieces := piecesOf sep s
  let kept := count.toNat - 1
  if pieces.length ≤ kept + 1 then pieces
  else pieces.take kept ++ [sep.intercalate (pieces.drop kept)]

/-- A way to cut a text into pieces, applied from the end of the text on. -/
def fromEnd (cut : String → String → List String) (sep s : String) : List String :=
  (cut (backwards sep) (backwards s)).map backwards

/-- The text before a place and the text from it on. -/
def splitAt (s : String) (n : Int) : List String :=
  let first := if n ≤ 0 then (s.length + n).toNat else n.toNat
  [String.ofList (s.toList.take first), String.ofList (s.toList.drop first)]

/-! ### Functions that look at a text -/

/-- The functions of one text. -/
def textFunction (name s : String) : Outcome :=
  match name with
  | "len" => .value (.int s.length)
  | "bytes" => .value (.int s.utf8ByteSize)
  | "is_empty" => .value (.truth s.isEmpty)
  | "to_upper" => .value (.text (Text.upper s))
  | "to_lower" => .value (.text (Text.lower s))
  | "split" =>
    textArray (if s.isEmpty then [s] else (Text.words Text.isBlank s.toList).map String.ofList)
  | "to_chars" => .value (.array (s.toList.map .character))
  | "chars" => .value (.series .characters)
  | "to_blob" => .value (.series .bytes)
  | "parse_int" => parseInteger s 10
  | "parse_float" => parseNumber s
  | _ => none

/-- The functions of two texts, of which the second one may also be a character. -/
def textPairFunction (name s t : String) : Outcome :=
  match name with
  | "contains" => .value (.truth (Text.occursIn t s))
  | "starts_with" => .value (.truth (t.toList.isPrefixOf s.toList))
  | "ends_with" => .value (.truth (t.toList.isSuffixOf s.toList))
  | "index_of" => .value (.int (indexOf t s.toList))
  | "split" => textArray (piecesOf t s)
  | "split_rev" => textArray (fromEnd piecesOf t s)
  | _ => none

/-- The functions of two texts, of which the second one may also be a character, and an integer. -/
def textPairIntFunction (name s t : String) (n : Int) : Outcome :=
  match name with
  | "index_of" => .value (.int (indexOfFrom s t n))
  | "split" => textArray (firstPieces t s n)
  | "split_rev" => textArray (fromEnd (fun sep s => firstPieces sep s n) t s)
  | _ => none

/-- The functions of a text and an integer. -/
def textIntFunction (name s : String) (n : Int) : Outcome :=
  match name with
  | "sub_string" => .value (.text (subText s n s.length))
  | "split" => textArray (splitAt s n)
  | "parse_int" => parseInteger s n
  | "get" =>
    .value (match charAt? s n with
      | some c => .character c
      | none => .unit)
  | "chars" => .value (.series .characters)
  | _ => none

/-- The functions of a text and further arguments that do not change it. -/
def textCall (name s : String) : List Value → Outcome
  | [] => textFunction name s
  | [.text t] =>
    match name with
    | "max" => .value (.text (if compareTexts s t == .lt then t else s))
    | "min" => .value (.text (if compareTexts s t == .gt then t else s))
    | _ => textPairFunction name s t
  | [.character c] => textPairFunction name s c.toString
  | [.int n] => textIntFunction name s n
  | [.text t, .int n] => textPairIntFunction name s t n
  | [.character c, .int n] => textPairIntFunction name s c.toString n
  | [.int start, .int count] =>
    match name with
    | "sub_string" => .value (.text (subText s start count))
    | "chars" => .value (.series .characters)
    | _ => none
  | _ => none

/-- The functions of a character and further arguments that do not change it. -/
def characterCall (name : String) (c : Char) : List Value → Outcome
  | [] =>
    match name with
    | "to_upper" => .value (.character (Text.upperChar c))
    | "to_lower" => .value (.character (Text.lowerChar c))
    | "to_int" => .value (.int c.toNat)
    | _ => none
  | [.character d] =>
    match name with
    | "max" => .value (.character (if c < d then d else c))
    | "min" => .value (.character (if d < c then d else c))
    | _ => none
  | _ => none

/-! ### Functions that change a text -/

/-- A text filled up to `length` characters with the characters of another one, over and over. -/
def padded (s : String) (length : Nat) (padding : List Char) : String :=
  let missing := length - s.length
  let copies := missing / max 1 padding.length + 1
  s ++ String.ofList ((List.replicate copies padding).flatten.take missing)

/-- A padded text unless it gets too long. -/
def pad (s : String) (length : Int) (padding : List Char) : Except ValueCause (Value × String) :=
  let longer := padded s length.toNat padding
  if maxTextBytes < length.toNat then .error (.tooLarge "Length of string")
  else if s.length < longer.length && maxTextBytes < longer.utf8ByteSize then
    .error (.tooLarge "Length of string")
  else .ok (.unit, longer)

/-- A text in which one text is replaced by another. -/
def replaced (s find by_ : String) : Value × String :=
  (.unit, if s.isEmpty then s else Text.replaceAll find by_ s)

/-- A character or a text as a text. -/
def Value.asText? : Value → Option String
  | .text s => some s
  | .character c => some c.toString
  | _ => none

/-- The functions that change a text, with their values. -/
def textChange? (name s : String) (arguments : List Value) :
    Option (Except ValueCause (Value × String)) :=
  match name, arguments with
  | "clear", [] => some (.ok (.unit, ""))
  | "trim", [] => some (.ok (.unit, Text.trim s))
  | "make_upper", [] => some (.ok (.unit, Text.upper s))
  | "make_lower", [] => some (.ok (.unit, Text.lower s))
  | "pop", [] =>
    some (.ok (match charAt? s (-1) with
      | some c => (.character c, subText s 0 (s.length - 1))
      | none => (.unit, s)))
  | "pop", [.int n] =>
    let kept : Int := (s.length : Int) - min (max 0 n) s.length
    some (.ok (.text (subText s kept s.length), subText s 0 kept))
  | "truncate", [.int n] => some (.ok (.unit, subText s 0 n))
  | "remove", [.text t] => some (.ok (.unit, without s t))
  | "remove", [.character c] => some (.ok (.unit, Text.replaceAll c.toString "" s))
  | "set", [.int n, .character c] => some (.ok (.unit, withCharAt s n c))
  | "crop", [.int start] => some (.ok (.unit, subText s start s.length))
  | "crop", [.int start, .int count] => some (.ok (.unit, subText s start count))
  | "pad", [.int n, v] => v.asText?.map fun t => pad s n t.toList
  | "replace", [v, w] =>
    match v.asText?, w.asText? with
    | some find, some by_ => some (.ok (replaced s find by_))
    | _, _ => none
  | "append", [v] => some (.ok (.unit, s ++ v.display))
  | _, _ => none

/-- The functions that change a character, with their values. -/
def characterChange? (name : String) (c : Char) (arguments : List Value) : Option (Value × Char) :=
  match name, arguments with
  | "make_upper", [] => some (.unit, Text.upperChar c)
  | "make_lower", [] => some (.unit, Text.lowerChar c)
  | _, _ => none

end OpticScene.Expr
