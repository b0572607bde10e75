import OpticScene.Expr.Numeral
import OpticScene.Expr.Quotation

/-!
# From text to tokens

Each scanner looks at the characters from one place on. Blanks and comments take characters and give
no token. An expression inside a text in back-ticks becomes tokens between braces, which stand
between the parts of the text.

## Main definitions

* `Expr.scanSymbol`, `Expr.scanName`: the scanners of operators and words.
* `Expr.scan`: what starts with a character.
* `Expr.tokens`: all tokens of a text with their places, the last one being `finish`.
-/

namespace OpticScene.Expr

/-! ### Names -/

/-- Whether a name may go on with a character. -/
def isNamePart (c : Char) : Bool := c.isAlphanum || c = '_'

/-- Whether a word is a name: underscores, then a letter, then letters, digits and underscores. -/
def isProperName (word : List Char) : Bool :=
  match word.dropWhile (· = '_') with
  | [] => false
  | c :: cs => c.isAlpha && cs.all isNamePart

/-- Words that belong to statements. -/
def statementWords : List String :=
  ["let", "const", "do", "while", "until", "loop", "for", "fn", "private", "continue", "break",
    "return", "throw", "try", "catch"]

/-- Words that are kept for other uses. -/
def reservedWords : List String :=
  ["import", "export", "as", "public", "protected", "super", "new", "use", "module", "package",
    "var", "static", "shared", "with", "is", "goto", "match", "case", "default", "void",
    "null", "nil", "spawn", "thread", "go", "sync", "async", "await", "yield", "print", "debug",
    "type_of", "eval", "Fn", "call", "curry", "this", "is_def_var", "is_def_fn", "is_shared"]

/-- The token of a word. -/
def wordToken (word : String) : Token :=
  if word = "_" then .mark .underscore
  else if word = "true" then .truth true
  else if word = "false" then .truth false
  else if word = "if" then .ifWord
  else if word = "else" then .elseWord
  else if word = "switch" then .switchWord
  else if word = "in" then .operator .isIn
  else if statementWords.contains word then .statement word
  else if reservedWords.contains word then .reserved word
  else if isProperName word.toList then .name word
  else .bad (.badName word)

/-- The word at the front of the characters. -/
def scanName (cs : List Char) : Scan :=
  let word := cs.takeWhile isNamePart
  .found (wordToken (String.ofList word)) word.length

/-! ### Comments -/

/-- The number of characters up to the end of a comment that is `depth + 1` comments deep. -/
def blockLength : (depth : Nat) → List Char → Nat
  | _, [] => 0
  | depth, '/' :: '*' :: cs => 2 + blockLength (depth + 1) cs
  | 0, '*' :: '/' :: _ => 2
  | depth + 1, '*' :: '/' :: cs => 2 + blockLength depth cs
  | depth, _ :: cs => 1 + blockLength depth cs

/-- The characters of a comment that goes on to the end of its line, after the first one. A carriage
return ends the line too. -/
def lineComment (cs : List Char) : Scan :=
  let text := cs.takeWhile fun c => c ≠ '\n' && c ≠ '\r'
  let length := 1 + text.length
  match cs.drop text.length with
  | '\r' :: '\n' :: _ => .skipped (length + 2)
  | '\r' :: _ => { Scan.skipped (length + 1) with lineStart := some (length + 1) }
  | _ => .skipped length

/-! ### Symbols -/

/-- The message about a symbol that other languages have in place of `instead`. -/
def improper (symbol complaint : String) : Token :=
  .bad (.improper ("'" ++ symbol ++ "' is not a valid " ++ complaint))

/-- The message about a comment between round brackets. -/
def improperComment : Token :=
  improper "(* .. *)" "comment format. This is not Pascal! Should it be '/* .. */'?"

/-- The symbol at the front of the characters: the longest one that fits. -/
def scanSymbol : List Char → Token × Nat
  | '{' :: _ => (.mark .openBrace, 1)
  | '}' :: _ => (.mark .closeBrace, 1)
  | '(' :: ')' :: _ => (.mark .unit, 2)
  | '(' :: '*' :: _ => (improperComment, 2)
  | '(' :: _ => (.mark .openParen, 1)
  | ')' :: _ => (.mark .closeParen, 1)
  | '[' :: _ => (.mark .openBracket, 1)
  | ']' :: _ => (.mark .closeBracket, 1)
  | '#' :: '{' :: _ => (.mark .openMap, 2)
  | '#' :: '!' :: _ => (.reserved "#!", 2)
  | '#' :: ' ' :: '{' :: _ => (improper "# \x7b" "symbol. Should it be '#\x7b'?", 3)
  | '#' :: _ => (.reserved "#", 1)
  | '+' :: '=' :: _ => (.assignment "+=", 2)
  | '+' :: '+' :: _ => (.reserved "++", 2)
  | '+' :: _ => (.operator .add, 1)
  | '-' :: '=' :: _ => (.assignment "-=", 2)
  | '-' :: '>' :: _ => (improper "->" "symbol. This is not C or C++!", 2)
  | '-' :: '-' :: _ => (.reserved "--", 2)
  | '-' :: _ => (.operator .subtract, 1)
  | '*' :: ')' :: _ => (improperComment, 2)
  | '*' :: '=' :: _ => (.assignment "*=", 2)
  | '*' :: '*' :: '=' :: _ => (.assignment "**=", 3)
  | '*' :: '*' :: _ => (.operator .power, 2)
  | '*' :: _ => (.operator .multiply, 1)
  | '/' :: '=' :: _ => (.assignment "/=", 2)
  | '/' :: _ => (.operator .divide, 1)
  | ';' :: _ => (.mark .semicolon, 1)
  | ',' :: _ => (.mark .comma, 1)
  | '.' :: '.' :: '.' :: _ => (.reserved "...", 3)
  | '.' :: '.' :: '=' :: _ => (.operator .closedRange, 3)
  | '.' :: '.' :: _ => (.operator .range, 2)
  | '.' :: _ => (.mark .period, 1)
  | '=' :: '=' :: '=' :: _ =>
    (improper "===" "operator. This is not JavaScript! Should it be '=='?", 3)
  | '=' :: '=' :: _ => (.operator .equal, 2)
  | '=' :: '>' :: _ => (.mark .arrow, 2)
  | '=' :: _ => (.mark .assign, 1)
  | ':' :: '=' :: _ =>
    (improper ":=" "assignment operator. This is not Go or Pascal! Should it be simply '='?", 2)
  | ':' :: ';' :: _ => (improper ":;" "symbol. Should it be '::'?", 2)
  | ':' :: _ => (.mark .colon, 1)
  | '<' :: '=' :: _ => (.operator .lessEqual, 2)
  | '<' :: '-' :: _ => (improper "<-" "symbol. This is not Go! Should it be '<='?", 2)
  | '<' :: '<' :: '=' :: _ => (.assignment "<<=", 3)
  | '<' :: '<' :: _ => (.operator .shiftLeft, 2)
  | '<' :: '|' :: _ => (.reserved "<|", 2)
  | '<' :: _ => (.operator .less, 1)
  | '>' :: '=' :: _ => (.operator .greaterEqual, 2)
  | '>' :: '>' :: '=' :: _ => (.assignment ">>=", 3)
  | '>' :: '>' :: _ => (.operator .shiftRight, 2)
  | '>' :: _ => (.operator .greater, 1)
  | '!' :: 'i' :: 'n' :: cs =>
    if cs.head?.any isNamePart then (.mark .bang, 1) else (.operator .notIn, 3)
  | '!' :: '=' :: '=' :: _ =>
    (improper "!==" "operator. This is not JavaScript! Should it be '!='?", 3)
  | '!' :: '=' :: _ => (.operator .notEqual, 2)
  | '!' :: '.' :: _ => (.reserved "!.", 2)
  | '!' :: _ => (.mark .bang, 1)
  | '|' :: '|' :: _ => (.operator .or, 2)
  | '|' :: '=' :: _ => (.assignment "|=", 2)
  | '|' :: '>' :: _ => (.reserved "|>", 2)
  | '|' :: _ => (.operator .bitOr, 1)
  | '&' :: '&' :: _ => (.operator .and, 2)
  | '&' :: '=' :: _ => (.assignment "&=", 2)
  | '&' :: _ => (.operator .bitAnd, 1)
  | '^' :: '=' :: _ => (.assignment "^=", 2)
  | '^' :: _ => (.operator .bitXor, 1)
  | '%' :: '=' :: _ => (.assignment "%=", 2)
  | '%' :: _ => (.operator .modulo, 1)
  | '~' :: _ => (.reserved "~", 1)
  | '@' :: _ => (.reserved "@", 1)
  | '$' :: _ => (.reserved "$", 1)
  | '?' :: '.' :: _ => (.mark .optionalPeriod, 2)
  | '?' :: '?' :: _ => (.operator .coalesce, 2)
  | '?' :: '[' :: _ => (.mark .optionalBracket, 2)
  | '?' :: _ => (.reserved "?", 1)
  | c :: _ => (.bad (.unexpected c.toString), 1)
  | [] => (.finish, 1)

/-! ### All tokens -/

/-- The blanks between tokens. -/
def isGap (c : Char) : Bool :=
  c = ' ' || c = '\t' || c = '\n' || c = '\r' || c = '\x0c'

/-- What starts with the character `c`. A minus sign directly before a digit belongs to the number
if `signed` holds. -/
def scan (signed : Bool) (column : Nat) (c : Char) (cs : List Char) : Scan :=
  if isGap c then .skipped 1
  else if c.isAlpha || c = '_' then scanName (c :: cs)
  else if c.isDigit then scanNumber false (c :: cs)
  else if c = '-' && signed && cs.head?.any Char.isDigit then scanNumber true cs
  else if c = '"' || c = '\'' || c = backTick then scanText c column cs
  else if c = '#' && (cs.head? = some '#' || cs.head? = some '"') then scanRawText cs
  else if c = '/' && cs.head? = some '/' then lineComment cs
  else if c = '/' && cs.head? = some '*' then .skipped (2 + blockLength 0 (cs.drop 1))
  else
    let (token, length) := scanSymbol (c :: cs)
    .found token length

/-- The numbers of braces that are open in each expression inside a text, innermost first. -/
abbrev Braces := List Nat

/-- The open braces after a token. -/
def Braces.after (braces : Braces) : Token → Braces
  | .interrupted _ => 0 :: braces
  | .mark .openBrace | .mark .openMap =>
    match braces with
    | n :: outer => (n + 1) :: outer
    | [] => []
  | .mark .closeBrace =>
    match braces with
    | n :: outer => (n - 1) :: outer
    | [] => []
  | _ => braces

/-- Whether a token closes an expression inside a text. -/
def Braces.closedBy (braces : Braces) (token : Token) : Bool :=
  match braces, token with
  | 1 :: _, .mark .closeBrace => true
  | _, _ => false

/-- The tokens from a place on. -/
def tokensFrom (braces : Braces) (signed : Bool) (p : Position) (cs : List Char) : List Placed :=
  match cs with
  | [] => [⟨.finish, p⟩]
  | c :: rest =>
    let found := scan signed p.column c rest
    match found.token with
    | none =>
      tokensFrom braces signed (found.after p (c :: rest)) (rest.drop (found.length - 1))
    | some token =>
      let place := p.afterAll ((c :: rest).take found.offset)
      if braces.closedBy token then
        let more := scanTextAfterBrace rest
        let text := more.token.getD .finish
        ⟨token, place⟩ :: ⟨text, place⟩ ::
          tokensFrom (Braces.after (braces.drop 1) text) text.allowsSign (more.after p (c :: rest))
            (rest.drop (more.length - 1))
      else
        ⟨token, place⟩ ::
          tokensFrom (braces.after token) token.allowsSign (found.after p (c :: rest))
            (rest.drop (found.length - 1))
termination_by cs.length
decreasing_by
  all_goals simp only [List.length_drop, List.length_cons]; omega

/-- All tokens of a text. -/
def tokens (s : String) : List Placed := tokensFrom [] true .start s.toList

end OpticScene.Expr
