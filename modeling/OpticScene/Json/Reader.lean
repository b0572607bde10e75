import OpticScene.Json.Basic
import OpticScene.Decimal.Read

/-!
# Reading JSON

Reads a text into a value. A syntax error tells what was expected and where reading stopped; columns
count bytes.

## Main definitions

* `Json.SyntaxError`: a cause with the line and column.
* `Json.Cursor`: the text still to be read and the place it starts at.
* `Json.parse`: the value of a text that holds one value and nothing else.
-/

namespace OpticScene.Json

/-- What is wrong with a text that is no JSON. -/
inductive SyntaxCause where
  /-- The text ends inside an array. -/
  | endInArray
  /-- The text ends inside an object. -/
  | endInObject
  /-- The text ends inside quotes. -/
  | endInString
  /-- The text ends where a value should stand. -/
  | endInValue
  /-- A key has no colon after it. -/
  | expectedColon
  /-- An item is followed by something else than a comma or bracket. -/
  | expectedCommaOrBracket
  /-- A field is followed by something else than a comma or brace. -/
  | expectedCommaOrBrace
  /-- A word is none of `true`, `false` and `null`. -/
  | expectedWord
  /-- No value starts with this character. -/
  | expectedValue
  /-- A backslash is followed by no escape. -/
  | invalidEscape
  /-- Digits are missing or follow a leading zero. -/
  | invalidNumber
  /-- A number is too large for a double. -/
  | numberOutOfRange
  /-- A control character stands unescaped between quotes. -/
  | controlCharacter
  /-- A key is no text. -/
  | keyNotString
  /-- An escape gives half of a pair of surrogates. -/
  | loneSurrogate
  /-- A comma has no item or field after it. -/
  | trailingComma
  /-- Something follows the value. -/
  | trailingCharacters
  /-- The second escape of a pair of surrogates is missing. -/
  | endOfHexEscape
  /-- Values are nested too deep. -/
  | tooDeep
  deriving Repr, DecidableEq, Inhabited

/-- The text of a cause. -/
def SyntaxCause.message : SyntaxCause → String
  | .endInArray => "EOF while parsing a list"
  | .endInObject => "EOF while parsing an object"
  | .endInString => "EOF while parsing a string"
  | .endInValue => "EOF while parsing a value"
  | .expectedColon => "expected \x60:\x60"
  | .expectedCommaOrBracket => "expected \x60,\x60 or \x60]\x60"
  | .expectedCommaOrBrace => "expected \x60,\x60 or \x60\x7d\x60"
  | .expectedWord => "expected ident"
  | .expectedValue => "expected value"
  | .invalidEscape => "invalid escape"
  | .invalidNumber => "invalid number"
  | .numberOutOfRange => "number out of range"
  | .controlCharacter =>
    "control character (\\u0000-\\u001F) found while parsing a string"
  | .keyNotString => "key must be a string"
  | .loneSurrogate => "lone leading surrogate in hex escape"
  | .trailingComma => "trailing comma"
  | .trailingCharacters => "trailing characters"
  | .endOfHexEscape => "unexpected end of hex escape"
  | .tooDeep => "recursion limit exceeded"

/-- A cause and the place where reading stopped. -/
structure SyntaxError where
  /-- What is wrong. -/
  cause : SyntaxCause
  /-- The line, from 1. -/
  line : Nat
  /-- The number of bytes read on that line. -/
  column : Nat
  deriving Repr, DecidableEq, Inhabited

/-- The text of an error. -/
def SyntaxError.message (e : SyntaxError) : String :=
  e.cause.message ++ " at line " ++ toString e.line ++ " column " ++ toString e.column

/-- A place in a text. -/
structure Cursor where
  /-- The characters still to be read. -/
  rest : List Char
  /-- The line of the next character, from 1. -/
  line : Nat
  /-- The number of bytes before it on its line. -/
  column : Nat
  deriving Repr, Inhabited

/-- The start of a text. -/
def Cursor.start (s : String) : Cursor := ⟨s.toList, 1, 0⟩

/-- The place after a character. -/
def Cursor.after (cursor : Cursor) (c : Char) (rest : List Char) : Cursor :=
  if c = '\n' then ⟨rest, cursor.line + 1, 0⟩
  else ⟨rest, cursor.line, cursor.column + c.utf8Size⟩

/-- Reading a part of a text. -/
abbrev Reading (α : Type) := StateT Cursor (Except SyntaxError) α

/-- Fails at the place reached. -/
def failHere (cause : SyntaxCause) : Reading α := do
  let cursor ← get
  throw ⟨cause, cursor.line, cursor.column⟩

/-- Fails at the first byte of the next character. -/
def failAtNext (cause : SyntaxCause) : Reading α := do
  let cursor ← get
  match cursor.rest with
  | [] => throw ⟨cause, cursor.line, cursor.column⟩
  | '\n' :: _ => throw ⟨cause, cursor.line + 1, 0⟩
  | _ => throw ⟨cause, cursor.line, cursor.column + 1⟩

/-- The next character, which stays unread. -/
def peek : Reading (Option Char) := do return (← get).rest.head?

/-- Reads the next character. -/
def next : Reading (Option Char) := do
  let cursor ← get
  match cursor.rest with
  | [] => return none
  | c :: rest =>
    set (cursor.after c rest)
    return some c

/-- Reads characters as long as they satisfy `p`. -/
def readWhile (p : Char → Bool) : Reading (List Char) := do
  let cursor ← get
  let taken := cursor.rest.takeWhile p
  set (taken.foldl (fun cur c => cur.after c (cur.rest.drop 1)) cursor)
  return taken

/-- The blanks between parts of a value. -/
def isSpace (c : Char) : Bool := c = ' ' || c = '\n' || c = '\t' || c = '\r'

/-- Skips blanks and looks at the next character. -/
def peekPastSpace : Reading (Option Char) := do
  let _ ← readWhile isSpace
  peek

/-- Reads the rest of a word. -/
def readWord : List Char → Reading Unit
  | [] => return ()
  | expected :: rest => do
    match ← peek with
    | none => failHere .endInValue
    | some c =>
      if c = expected then
        let _ ← next
        readWord rest
      else failAtNext .expectedWord

/-- The double that `significand * 10 ^ exponent` is read as: the significand and a power of ten are
each rounded to a double, and their product or quotient is rounded again. None if that is too large
for a double. -/
def double? (significand : Nat) (exponent : Int) : Option Float :=
  let x := Binary64.nearest significand 0
  let power (n : Nat) : Float := Decimal.scaled 1 n
  if significand = 0 || exponent < -616 then some 0.0
  else if exponent < -308 then some (x / power 308 / power (-308 - exponent).toNat)
  else if exponent < 0 then some (x / power (-exponent).toNat)
  else
    let y := x * power exponent.toNat
    if y.isInf then none else some y

/-- Appends digits to a number as long as it fits into 64 bits. Also gives the count of the digits
that are left out. -/
def appendDigits (n : Nat) : List Char → Nat × Nat
  | [] => (n, 0)
  | c :: cs =>
    let m := 10 * n + Decimal.digitValue c
    if m < 2 ^ 64 then appendDigits m cs else (n, cs.length + 1)

/-- A finite double, or the error that it is too large. -/
def finite (negative : Bool) (significand : Nat) (exponent : Int) : Reading Number :=
  match double? significand exponent with
  | some x => return .float (Binary64.withSign negative x)
  | none => failHere .numberOutOfRange

/-- The largest exponent that is read exactly. -/
def maxExponent : Nat := 2 ^ 31 - 1

/-- The number of digits after which an exponent that starts with `e` gets too large, if it does. -/
def excessDigits? (e : Nat) : List Char → Option Nat
  | [] => none
  | c :: cs =>
    let e := 10 * e + Decimal.ofDigits [c]
    if maxExponent < e then some 1 else (excessDigits? e cs).map (· + 1)

/-- Reads the exponent of a number after its letter, which is added to the one that its digits have
already. An exponent that is too large gives zero if it is negative or the other digits are zero. -/
def readExponent (negative : Bool) (significand : Nat) (exponent : Int) : Reading Number := do
  let minus ← do
    match ← peek with
    | some '+' => let _ ← next; pure false
    | some '-' => let _ ← next; pure true
    | _ => pure false
  match ← peek with
  | none => failHere .endInValue
  | some c =>
    if c.isDigit then
      let _ ← next
      let more := (← get).rest.takeWhile Char.isDigit
      match excessDigits? (Decimal.ofDigits [c]) more with
      | some count =>
        if significand = 0 || minus then
          let _ ← readWhile Char.isDigit
          return .float (Binary64.withSign negative 0.0)
        else
          modify fun cursor => ⟨cursor.rest.drop count, cursor.line, cursor.column + count⟩
          failHere .numberOutOfRange
      | none =>
        let _ ← readWhile Char.isDigit
        let e : Int := Decimal.ofDigits (c :: more)
        finite negative significand (exponent + if minus then -e else e)
    else failAtNext .invalidNumber

/-- Reads what follows the whole part of a number. Digits that no longer fit into 64 bits count only
for the size of the number. -/
def readAfterWhole (negative : Bool) (whole : List Char) : Reading Number := do
  let (n, dropped) := appendDigits 0 whole
  match ← peek with
  | some '.' =>
    let _ ← next
    let places ← readWhile Char.isDigit
    if places.isEmpty then
      match ← peek with
      | some _ => failAtNext .invalidNumber
      | none => failAtNext .endInValue
    else
      let (m, unread) := appendDigits n places
      let exponent : Int := dropped + unread - places.length
      match ← peek with
      | some 'e' | some 'E' =>
        let _ ← next
        readExponent negative m exponent
      | _ => finite negative m exponent
  | some 'e' | some 'E' =>
    let _ ← next
    readExponent negative n dropped
  | _ =>
    if 0 < dropped then finite negative n dropped
    else if negative then
      if n = 0 || 2 ^ 63 < n then finite true n 0 else return .int (-n)
    else return .int n

/-- Reads a number after its sign. -/
def readNumber (negative : Bool) : Reading Number := do
  match ← peek with
  | none => failHere .endInValue
  | some '0' =>
    let _ ← next
    match ← peek with
    | some c => if c.isDigit then failAtNext .invalidNumber else readAfterWhole negative ['0']
    | none => readAfterWhole negative ['0']
  | some c =>
    if c.isDigit then
      let digits ← readWhile Char.isDigit
      readAfterWhole negative digits
    else failAtNext .invalidNumber

/-- The place that is some bytes further on, perhaps inside a character; none if the text ends
before. -/
def Cursor.afterBytes (cursor : Cursor) : (bytes : Nat) → List Char → Option Cursor
  | 0, _ => some cursor
  | _ + 1, [] => none
  | bytes + 1, c :: cs =>
    if c.utf8Size ≤ bytes + 1 then (cursor.after c cs).afterBytes (bytes + 1 - c.utf8Size) cs
    else some { cursor with column := cursor.column + (bytes + 1) }

/-- The value of four hexadecimal digits. -/
def hexValue? : List Char → Option Nat
  | [a, b, c, d] =>
    if a = '+' then none
    else (Decimal.readRadix 16 0 0xFFFF (String.ofList [a, b, c, d])).toOption.map Int.toNat
  | _ => none

/-- Reads four hexadecimal digits. -/
def readHex : Reading Nat := do
  let cursor ← get
  match cursor.afterBytes 4 cursor.rest with
  | some after =>
    set after
    match hexValue? (cursor.rest.take 4) with
    | some n => return n
    | none => failHere .invalidEscape
  | none =>
    let _ ← readWhile fun _ => true
    failHere .endInString

/-- Reads one character that has to be `expected`, as the start of the second escape of a pair. -/
def readPairMark (expected : Char) : Reading Unit := do
  match ← peek with
  | none => failHere .endInString
  | some c =>
    if c = expected then
      let _ ← next
    else failAtNext .endOfHexEscape

/-- Reads an escape of four hexadecimal digits, or of two such escapes for a character beyond the
basic plane. -/
def readUnicodeEscape : Reading Char := do
  let n ← readHex
  if 0xDC00 ≤ n && n ≤ 0xDFFF then failHere .loneSurrogate
  else if 0xD800 ≤ n && n ≤ 0xDBFF then
    readPairMark '\\'
    readPairMark 'u'
    let m ← readHex
    if 0xDC00 ≤ m && m ≤ 0xDFFF then
      return Char.ofNat ((n - 0xD800) * 0x400 + (m - 0xDC00) + 0x10000)
    else failHere .loneSurrogate
  else return Char.ofNat n

/-- The character that one character after a backslash stands for. -/
def escape? : Char → Option Char
  | '"' => some '"'
  | '\\' => some '\\'
  | '/' => some '/'
  | 'b' => some '\x08'
  | 'f' => some '\x0c'
  | 'n' => some '\n'
  | 'r' => some '\r'
  | 't' => some '\t'
  | _ => none

/-- Reads an escape after its backslash. -/
def readEscape : Reading Char := do
  match ← peek with
  | none => failHere .endInString
  | some c =>
    match escape? c with
    | some d =>
      let _ ← next
      return d
    | none =>
      if c = 'u' then
        let _ ← next
        readUnicodeEscape
      else failAtNext .invalidEscape

/-- Reads a text up to its closing quote; `reversed` holds the characters read before. Each step
reads at least one character, so `fuel` above the length of the text is enough. -/
def readString : (fuel : Nat) → (reversed : List Char) → Reading String
  | 0, _ => failHere .endInString
  | fuel + 1, reversed => do
    match ← peek with
    | none => failHere .endInString
    | some '"' =>
      let _ ← next
      return String.ofList reversed.reverse
    | some '\\' =>
      let _ ← next
      readString fuel ((← readEscape) :: reversed)
    | some c =>
      let _ ← next
      if c.toNat < 0x20 then failHere .controlCharacter else readString fuel (c :: reversed)

mutual

/-- Reads a value. `depth` counts the arrays and objects that may still be opened, and `fuel` above
the length of the text is enough. -/
def readValue (depth : Nat) : (fuel : Nat) → Reading Json
  | 0 => failAtNext .endInValue
  | fuel + 1 => do
    match ← peekPastSpace with
    | none => failAtNext .endInValue
    | some 'n' =>
      let _ ← next
      readWord ['u', 'l', 'l']
      return .null
    | some 't' =>
      let _ ← next
      readWord ['r', 'u', 'e']
      return .bool true
    | some 'f' =>
      let _ ← next
      readWord ['a', 'l', 's', 'e']
      return .bool false
    | some '-' =>
      let _ ← next
      return .number (← readNumber true)
    | some '"' =>
      let _ ← next
      return .string (← readString (fuel + 1) [])
    | some '[' =>
      if depth ≤ 1 then failAtNext .tooDeep
      else
        let _ ← next
        return .array (← readItems (depth - 1) fuel [])
    | some '{' =>
      if depth ≤ 1 then failAtNext .tooDeep
      else
        let _ ← next
        return .object (← readFields (depth - 1) fuel [])
    | some c =>
      if c.isDigit then return .number (← readNumber false) else failAtNext .expectedValue

/-- Reads the items of an array up to its bracket; `reversed` holds the items read before. -/
def readItems (depth : Nat) : (fuel : Nat) → (reversed : List Json) → Reading (List Json)
  | 0, _ => failAtNext .endInArray
  | fuel + 1, reversed => do
    match ← peekPastSpace with
    | none => failAtNext .endInArray
    | some ']' =>
      let _ ← next
      return reversed.reverse
    | some ',' =>
      if reversed.isEmpty then
        let v ← readValue depth fuel
        readItems depth fuel (v :: reversed)
      else
        let _ ← next
        match ← peekPastSpace with
        | some ']' => failAtNext .trailingComma
        | none => failAtNext .endInValue
        | some _ =>
          let v ← readValue depth fuel
          readItems depth fuel (v :: reversed)
    | some _ =>
      if reversed.isEmpty then
        let v ← readValue depth fuel
        readItems depth fuel (v :: reversed)
      else failAtNext .expectedCommaOrBracket

/-- Reads the fields of an object up to its brace; `fields` holds the fields read before. A name
that stands twice keeps its first place and its last value. -/
def readFields (depth : Nat) :
    (fuel : Nat) → (fields : List (String × Json)) → Reading (List (String × Json))
  | 0, _ => failAtNext .endInObject
  | fuel + 1, fields => do
    match ← peekPastSpace with
    | none => failAtNext .endInObject
    | some '}' =>
      let _ ← next
      return fields
    | some c =>
      let start ← do
        if fields.isEmpty then pure (some c)
        else if c = ',' then
          let _ ← next
          peekPastSpace
        else failAtNext .expectedCommaOrBrace
      match start with
      | some '"' =>
        let _ ← next
        let name ← readString (fuel + 1) []
        match ← peekPastSpace with
        | some ':' =>
          let _ ← next
          let v ← readValue depth fuel
          readFields depth fuel (Named.set name v fields)
        | some _ => failAtNext .expectedColon
        | none => failAtNext .endInObject
      | some '}' => failAtNext .trailingComma
      | some _ => failAtNext .keyNotString
      | none => failAtNext .endInValue

end

/-- Values may be nested one level less than this. -/
def maxDepth : Nat := 128

/-- The value of a text that holds one value and nothing else but blanks. -/
def parse (s : String) : Except SyntaxError Json :=
  let cursor := Cursor.start s
  let reading : Reading Json := do
    let v ← readValue maxDepth (2 * cursor.rest.length + 2)
    match ← peekPastSpace with
    | none => return v
    | some _ => failAtNext .trailingCharacters
  (reading.run cursor).map Prod.fst

end OpticScene.Json
