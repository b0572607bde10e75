import OpticScene.Decimal.Style

/-!
# Tokens of expressions

An expression is a sequence of tokens: literals, names, operators and marks. A piece of text that is
no token of the language stays in the sequence as a `bad` token, so that an error is reported only
where the text is used.

## Main definitions

* `Expr.maxTextBytes`, `Expr.maxItems`, `Expr.maxFields`, `Expr.maxInt`: how large values may get.
* `Expr.Position`: a line and a column.
* `Expr.Operator`, `Expr.Operator.precedence`: the infix operators and how tightly they bind.
* `Expr.Mark`: brackets and separators.
* `Expr.Token`: the tokens, and `Expr.Token.show` as they stand in messages.
-/

namespace OpticScene.Expr

/-- The largest number of bytes of a text. -/
def maxTextBytes : Nat := 10000

/-- The largest number of items of arrays. -/
def maxItems : Nat := 1000

/-- The largest number of fields of object maps. -/
def maxFields : Nat := 500

/-- The largest integer. -/
def maxInt : Int := 2 ^ 63 - 1

/-- A place in the text of an expression. Lines and columns are counted from 1, columns in
characters. -/
structure Position where
  /-- The line. -/
  line : Nat
  /-- The column on the line. -/
  column : Nat
  deriving Repr, DecidableEq, Inhabited

/-- The place of the first character. -/
def Position.start : Position := ⟨1, 1⟩

/-- The place after a character. -/
def Position.after (p : Position) (c : Char) : Position :=
  if c = '\n' then ⟨p.line + 1, 1⟩ else ⟨p.line, p.column + 1⟩

/-- The place after several characters. -/
def Position.afterAll (p : Position) (cs : List Char) : Position := cs.foldl Position.after p

/-- The end of an error message that names a place. -/
def Position.suffix (p : Position) : String :=
  " (line " ++ toString p.line ++ ", position " ++ toString p.column ++ ")"

/-- The operators that stand between two operands. -/
inductive Operator where
  /-- `||`: at least one of two truth values, the second looked at only if needed. -/
  | or
  /-- `|`: bits of either operand. -/
  | bitOr
  /-- `^`: bits of exactly one operand. -/
  | bitXor
  /-- `&&`: both of two truth values, the second looked at only if needed. -/
  | and
  /-- `&`: bits of both operands. -/
  | bitAnd
  /-- `==`. -/
  | equal
  /-- `!=`. -/
  | notEqual
  /-- `in`: the right operand contains the left one. -/
  | isIn
  /-- `!in`: the right operand does not contain the left one. -/
  | notIn
  /-- `<`. -/
  | less
  /-- `<=`. -/
  | lessEqual
  /-- `>`. -/
  | greater
  /-- `>=`. -/
  | greaterEqual
  /-- `??`: the right operand where the left one is `()`. -/
  | coalesce
  /-- `..`: the integers up to the right operand, without it. -/
  | range
  /-- `..=`: the integers up to the right operand, with it. -/
  | closedRange
  /-- `+`. -/
  | add
  /-- `-`. -/
  | subtract
  /-- `*`. -/
  | multiply
  /-- `/`. -/
  | divide
  /-- `%`. -/
  | modulo
  /-- `**`. -/
  | power
  /-- `<<`. -/
  | shiftLeft
  /-- `>>`. -/
  | shiftRight
  deriving Repr, DecidableEq, Inhabited

/-- How an operator is written. -/
def Operator.symbol : Operator → String
  | .or => "||"
  | .bitOr => "|"
  | .bitXor => "^"
  | .and => "&&"
  | .bitAnd => "&"
  | .equal => "=="
  | .notEqual => "!="
  | .isIn => "in"
  | .notIn => "!in"
  | .less => "<"
  | .lessEqual => "<="
  | .greater => ">"
  | .greaterEqual => ">="
  | .coalesce => "??"
  | .range => ".."
  | .closedRange => "..="
  | .add => "+"
  | .subtract => "-"
  | .multiply => "*"
  | .divide => "/"
  | .modulo => "%"
  | .power => "**"
  | .shiftLeft => "<<"
  | .shiftRight => ">>"

/-- How tightly an operator binds: of two neighbours, the larger number takes the operand. -/
def Operator.precedence : Operator → Nat
  | .or | .bitOr | .bitXor => 30
  | .and | .bitAnd => 60
  | .equal | .notEqual => 90
  | .isIn | .notIn => 110
  | .less | .lessEqual | .greater | .greaterEqual => 130
  | .coalesce => 135
  | .range | .closedRange => 140
  | .add | .subtract => 150
  | .multiply | .divide | .modulo => 180
  | .power => 190
  | .shiftLeft | .shiftRight => 210

/-- Powers group to the right, all other operators to the left. -/
def Operator.groupsRight (op : Operator) : Bool := op = .power

/-- Brackets, separators and other marks. -/
inductive Mark where
  /-- `(`. -/
  | openParen
  /-- `)`. -/
  | closeParen
  /-- `()`, the empty value or the lack of arguments. -/
  | unit
  /-- `[`. -/
  | openBracket
  /-- `]`. -/
  | closeBracket
  /-- `?[`, an index that passes `()` on. -/
  | optionalBracket
  /-- `{`. -/
  | openBrace
  /-- `}`. -/
  | closeBrace
  /-- `#{`, the start of an object map. -/
  | openMap
  /-- `.`. -/
  | period
  /-- `?.`, a property that passes `()` on. -/
  | optionalPeriod
  /-- `,`. -/
  | comma
  /-- `:`. -/
  | colon
  /-- `;`. -/
  | semicolon
  /-- `=`. -/
  | assign
  /-- `=>`. -/
  | arrow
  /-- `!`. -/
  | bang
  /-- `_`. -/
  | underscore
  deriving Repr, DecidableEq, Inhabited

/-- How a mark is written. -/
def Mark.text : Mark → String
  | .openParen => "("
  | .closeParen => ")"
  | .unit => "()"
  | .openBracket => "["
  | .closeBracket => "]"
  | .optionalBracket => "?["
  | .openBrace => "\x7b"
  | .closeBrace => "\x7d"
  | .openMap => "#\x7b"
  | .period => "."
  | .optionalPeriod => "?."
  | .comma => ","
  | .colon => ":"
  | .semicolon => ";"
  | .assign => "="
  | .arrow => "=>"
  | .bang => "!"
  | .underscore => "_"

/-- What is wrong with a piece of text that is no token. -/
inductive LexicalCause where
  /-- The piece does not belong where it stands. -/
  | unexpected (text : String)
  /-- A text has no closing quote. -/
  | openText
  /-- A text is longer than allowed. -/
  | longText (limit : Nat)
  /-- A backslash is followed by no escape. -/
  | badEscape (text : String)
  /-- A number cannot be read. -/
  | badNumber (text : String)
  /-- Not exactly one character stands between single quotes. -/
  | badCharacter (text : String)
  /-- A name has no letter before its first digit. -/
  | badName (text : String)
  /-- A symbol that other languages have. -/
  | improper (message : String)
  deriving Repr, DecidableEq, Inhabited

/-- The text of a cause. -/
def LexicalCause.message : LexicalCause → String
  | .unexpected text => "Unexpected '" ++ text ++ "'"
  | .openText => "Open string is not terminated"
  | .longText limit => "String is too long (max " ++ toString limit ++ ")"
  | .badEscape text => "Invalid escape sequence: '" ++ text ++ "'"
  | .badNumber text => "Invalid number: '" ++ text ++ "'"
  | .badCharacter text => "Invalid character: '" ++ text ++ "'"
  | .badName text => "Variable name is not proper: '" ++ text ++ "'"
  | .improper message => message

/-- The tokens of an expression. -/
inductive Token where
  /-- A whole number. -/
  | int (value : Int)
  /-- A number with a fraction or exponent. -/
  | float (value : Float)
  /-- A character between single quotes. -/
  | character (value : Char)
  /-- A text between quotes, or its last part. -/
  | text (value : String)
  /-- A part of a text that an expression between braces follows. -/
  | interrupted (value : String)
  /-- `true` or `false`. -/
  | truth (value : Bool)
  /-- The name of a variable, function or property. -/
  | name (value : String)
  /-- A word or symbol that is kept for other uses. -/
  | reserved (value : String)
  /-- A word that starts or belongs to a statement. -/
  | statement (word : String)
  /-- The word `if`. -/
  | ifWord
  /-- The word `else`. -/
  | elseWord
  /-- The word `switch`. -/
  | switchWord
  /-- An operator. -/
  | operator (op : Operator)
  /-- A mark. -/
  | mark (m : Mark)
  /-- An operator joined to an equals sign. -/
  | assignment (symbol : String)
  /-- A piece of text that is no token. -/
  | bad (cause : LexicalCause)
  /-- The end of the text. -/
  | finish
  deriving Repr, Inhabited

/-- Numbers with a fraction or exponent are written with a point; very large and very small ones
get an exponent, and zero has no sign. The two limits are the single-precision values nearest to
`1e13` and `1e-13`. -/
def numberStyle : Decimal.Style where
  tie := .up
  isPositional := fun x => 9.9999998245167e-14 ≤ x && x ≤ 9999999827968.0
  fraction := true
  plus := false
  signedZero := false

/-- How a token stands in a message. -/
def Token.show : Token → String
  | .int n => toString n
  | .float x => numberStyle.write x
  | .character c => c.toString
  | .text s => "\"" ++ s ++ "\""
  | .interrupted _ => "string"
  | .truth b => if b then "true" else "false"
  | .name s => s
  | .reserved s => s
  | .statement s => s
  | .ifWord => "if"
  | .elseWord => "else"
  | .switchWord => "switch"
  | .operator op => op.symbol
  | .mark m => m.text
  | .assignment s => s
  | .bad cause => cause.message
  | .finish => "\x7bEOF\x7d"

/-- Whether a minus sign after a token belongs to a number that directly follows it. -/
def Token.allowsSign : Token → Bool
  | .operator _ | .assignment _ | .ifWord | .bad _ => true
  | .statement word => word = "while" || word = "until" || word = "return" || word = "throw"
  | .mark m =>
    match m with
    | .openParen | .openBracket | .openBrace => true
    | .comma | .colon | .semicolon | .assign | .bang => true
    | _ => false
  | _ => false

/-- A token with the place where it starts. -/
structure Placed where
  /-- The token. -/
  token : Token
  /-- Its first character. -/
  place : Position
  deriving Repr, Inhabited

end OpticScene.Expr
