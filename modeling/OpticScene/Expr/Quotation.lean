import OpticScene.Expr.Scan
import OpticScene.Decimal.Read
import OpticScene.Text.Blank

/-!
# Texts and characters between quotes

A text stands between double quotes, where a backslash starts an escape, or between back-ticks,
where every character stands for itself except that a dollar sign and a brace start an expression
whose value belongs to the text. Single quotes enclose one character. Between a number sign and a
double quote on either side stands a raw text, in which nothing has a meaning.

## Main definitions

* `Expr.scanTextFrom`: the characters up to a closing quote, or up to an expression in the text.
* `Expr.scanText`: the token after an opening quote.
* `Expr.scanTextAfterBrace`: how a text goes on after an expression in it.
* `Expr.scanRawText`: the token after the number sign of a raw text.
-/

namespace OpticScene.Expr

/-- What has been read of an escape. -/
inductive Escape where
  /-- No escape. -/
  | none
  /-- The backslash. -/
  | backslash
  /-- A backslash, a letter and some hexadecimal digits, backwards, with their value and the number
  of digits that are missing. -/
  | digits (read : List Char) (value missing : Nat)

/-- A text as far as it has been read. -/
structure Reading where
  /-- The characters of its value, backwards. -/
  value : List Char
  /-- The number of bytes of the value. -/
  bytes : Nat
  /-- The number of characters read. -/
  length : Nat
  /-- The number of columns in which blanks are left out, after a line that goes on. -/
  indent : Nat
  /-- Whether the text is interrupted by an expression. -/
  interrupted : Bool

/-- A text of which `length` characters have been read that stand for nothing. -/
def Reading.start (length : Nat) : Reading := ⟨[], 0, length, 0, false⟩

/-- Reads a character that stands for itself. -/
def Reading.push (r : Reading) (c : Char) : Reading :=
  { r with
    value := c :: r.value
    bytes := r.bytes + c.utf8Size
    length := r.length + 1
    indent := 0 }

/-- Reads a character that stands for nothing. -/
def Reading.skip (r : Reading) : Reading :=
  { r with length := r.length + 1, indent := r.indent - 1 }

/-- Reads the last character of an escape that stands for `c`. -/
def Reading.unescape (r : Reading) (c : Char) : Reading :=
  { r.skip with value := c :: r.value, bytes := r.bytes + c.utf8Size }

/-- A text ends with its value or with an error and its place. -/
abbrev TextScan := Except (LexicalCause × Nat) Reading

/-- An error at the character read last. -/
def Reading.failEscape (r : Reading) (text : List Char) : TextScan :=
  .error (.badEscape (String.ofList text), r.length - 1)

/-- The text if it is not too long. -/
def Reading.finish (r : Reading) : TextScan :=
  if maxTextBytes < r.bytes then .error (.longText maxTextBytes, 0) else .ok r

/-- The character with a number, if there is one. -/
def charOf? (n : Nat) : Option Char :=
  if h : n.isValidChar then some ⟨UInt32.ofNatLT n (by
    cases h with
    | inl h => exact Nat.lt_trans h (by decide)
    | inr h => exact Nat.lt_trans h.2 (by decide)), by
      simpa [UInt32.isValidChar] using h⟩
  else none

/-- The back-tick. -/
def backTick : Char := '\x60'

/-- The character that a letter after a backslash stands for, or the number of digits that follow
it. -/
def escapeOf? (quote c : Char) : Option (Char ⊕ Nat) :=
  if c = '\\' || c = quote then some (.inl c)
  else if c = 't' then some (.inl '\t')
  else if c = 'n' then some (.inl '\n')
  else if c = 'r' then some (.inl '\r')
  else if c = 'x' then some (.inr 2)
  else if c = 'u' then some (.inr 4)
  else if c = 'U' then some (.inr 8)
  else none

/-- Reads a text up to its closing quote. Two quotes in a row stand for one. A text in back-ticks
has no escapes, may run over several lines and may be interrupted by an expression; of other texts,
only those in double quotes may go on in the next line, after a backslash at the end of a line.
`column` is the column of the opening quote. -/
def scanTextFrom (quote : Char) (column : Nat) : Escape → Reading → List Char → TextScan
  | .digits read _ _, r, [] => r.failEscape read.reverse
  | _, _, [] => .error (.openText, 0)
  | .digits read value missing, r, c :: cs =>
    let read := c :: read
    match (Decimal.radixDigit? c).filter (· < 16) with
    | none => r.skip.failEscape read.reverse
    | some d =>
      let value := 16 * value + d
      if missing ≤ 1 then
        match charOf? value with
        | some v => scanTextFrom quote column .none (r.unescape v) cs
        | none => r.skip.failEscape read.reverse
      else scanTextFrom quote column (.digits read value (missing - 1)) r.skip cs
  | .backslash, r, c :: cs =>
    if maxTextBytes < r.bytes then .error (.longText maxTextBytes, 0)
    else
      match escapeOf? quote c with
      | some (.inl v) => scanTextFrom quote column .none (r.unescape v) cs
      | some (.inr n) => scanTextFrom quote column (.digits [c, '\\'] 0 n) r.skip cs
      | none =>
        if c = '\r' && cs.head? = some '\n' then scanTextFrom quote column .backslash r.skip cs
        else if c = '\n' then
          if quote = '"' then scanTextFrom quote column .none { r.skip with indent := column } cs
          else .error (.openText, 0)
        else r.skip.failEscape ['\\', c]
  | .none, r, c :: cs =>
    if quote = backTick && c = '$' && cs.head? = some '\x7b' then
      { r.skip with interrupted := true }.finish
    else if maxTextBytes < r.bytes then .error (.longText maxTextBytes, 0)
    else if c = quote then
      match cs with
      | d :: cs' =>
        if d = quote then
          scanTextFrom quote column .none { r.push c with length := r.length + 2 } cs'
        else .ok r.skip
      | [] => .ok r.skip
    else if c = '\r' && cs.head? = some '\n' then scanTextFrom quote column .none r.skip cs
    else if c = '\\' && quote ≠ backTick then scanTextFrom quote column .backslash r.skip cs
    else if c = '\n' && quote ≠ backTick then .error (.openText, 0)
    else if Text.isBlank c && 0 < r.indent then scanTextFrom quote column .none r.skip cs
    else scanTextFrom quote column .none (r.push c) cs

/-- The token of a text that was read. -/
def TextScan.toScan (token : String → Token) : TextScan → Scan
  | .ok r => .found (token (String.ofList r.value.reverse)) r.length
  | .error (cause, offset) => { token := some (.bad cause), length := 1, offset }

/-- The token of the text between single quotes. -/
def characterToken (s : String) : Token :=
  match s.toList with
  | [c] => .character c
  | _ => .bad (.badCharacter s)

/-- The text in back-ticks from some character on, after `length` characters before it. -/
def scanVerbatim (length : Nat) (cs : List Char) : Scan :=
  match scanTextFrom backTick 0 .none (.start length) cs with
  | .ok r => TextScan.toScan (if r.interrupted then .interrupted else .text) (.ok r)
  | failed => failed.toScan .text

/-- The text after an opening quote. A line break directly after a back-tick does not count. -/
def scanText (quote : Char) (column : Nat) (cs : List Char) : Scan :=
  if quote = '\'' then
    if cs.head? = some '\'' then .found (.bad (.badCharacter "")) 1
    else (scanTextFrom quote column .none (.start 1) cs).toScan characterToken
  else if quote = '"' then (scanTextFrom quote column .none (.start 1) cs).toScan .text
  else
    match cs with
    | '\r' :: '\n' :: cs => scanVerbatim 3 cs
    | '\r' :: cs => { scanVerbatim 2 cs with lineStart := some 2 }
    | '\n' :: cs => scanVerbatim 2 cs
    | cs => scanVerbatim 1 cs

/-- How a text in back-ticks goes on after the brace that closes an expression in it. -/
def scanTextAfterBrace (cs : List Char) : Scan := scanVerbatim 1 cs

/-- Reads a raw text after its opening quote, up to a quote with `hashes` number signs after it.
`pending` counts the number signs after the last quote, if nothing else came after it. -/
def scanRawFrom (hashes : Nat) : (pending : Option Nat) → Reading → List Char → TextScan
  | _, _, [] => .error (.openText, 0)
  | pending, r, c :: cs =>
    if maxTextBytes < r.bytes then .error (.longText maxTextBytes, 0)
    else
      match pending with
      | none =>
        if c = '"' then scanRawFrom hashes (some 0) r.skip cs
        else scanRawFrom hashes none (r.push c) cs
      | some n =>
        if c = '#' && n + 1 = hashes then r.skip.finish
        else if c = '#' then scanRawFrom hashes (some (n + 1)) r.skip cs
        else
          let kept := List.replicate n '#' ++ '"' :: r.value
          let r := { r with value := kept, bytes := r.bytes + n + 1 }
          if c = '"' then scanRawFrom hashes (some 0) r.skip cs
          else scanRawFrom hashes none (r.push c) cs

/-- A raw text after its first number sign. -/
def scanRawText (cs : List Char) : Scan :=
  let hashes := 1 + (cs.takeWhile (· = '#')).length
  match cs.dropWhile (· = '#') with
  | '"' :: cs => (scanRawFrom hashes none (.start (hashes + 1)) cs).toScan .text
  | c :: _ => .found (.bad (.unexpected c.toString)) 1
  | [] => .found (.bad .openText) 1

end OpticScene.Expr
