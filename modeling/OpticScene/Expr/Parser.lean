import OpticScene.Expr.Lexer
import OpticScene.Expr.Syntax
import OpticScene.Expr.Error

/-!
# From tokens to expressions

A parser by recursive descent, with operator precedence for the infix operators. Every step down
counts towards a limit on the depth of an expression; so does every operator of a row.

## Main definitions

* `Expr.Context`: the depth reached, and the place that an error about the depth names.
* `Expr.Parsing`: parsers over the tokens still to be read.
* `Expr.parse`: the expression of a text.
-/

namespace OpticScene.Expr

/-- What a parser knows about the expressions around it. -/
structure Context where
  /-- How deep it stands. -/
  level : Nat
  /-- The place that is named when it gets too deep. -/
  place : Position
  /-- Whether a bar ends the expression, as it does between the patterns of a case. -/
  stopAtBar : Bool

/-- The largest depth of an expression. -/
def maxLevel : Nat := 64

/-- Parsers read tokens from the front of a list that ends with `finish`. -/
abbrev Parsing := StateT (List Placed) (Except Failure)

/-- Fails at a place. -/
def failAt (cause : FormCause) (p : Position) : Parsing α := throw ⟨.form cause, p⟩

/-- The next token, which stays unread. -/
def peek : Parsing Placed := do
  match ← get with
  | [] => return ⟨.finish, .start⟩
  | t :: _ => return t

/-- Reads the next token. -/
def next : Parsing Placed := do
  let t ← peek
  modify (List.drop 1)
  return t

/-- One level further down. -/
def Context.deeper (ctx : Context) : Parsing Context :=
  if maxLevel ≤ ctx.level then failAt .tooDeep ctx.place
  else return { ctx with level := ctx.level + 1 }

/-- Whether a token ends the expression because it is a bar. -/
def Context.stopsAt (ctx : Context) (t : Token) : Bool :=
  ctx.stopAtBar && match t with
    | .operator .bitOr => true
    | _ => false

/-- The error about a token where an operand should start. -/
def operandCause : Token → FormCause
  | .finish => .incomplete
  | .bad cause => .ofLexical cause
  | .reserved "this" => .lexical (.improper "'this' can only be used in functions")
  | .reserved s => if isProperName s.toList then .reservedWord s else .reservedSymbol s
  | t => .lexical (.unexpected t.show)

/-- Reads the mark `m`; anything else is an error that says what `m` is for. -/
def expect (m : Mark) (purpose : String) : Parsing Unit := do
  let t ← next
  match t.token with
  | .mark m' => unless m = m' do failAt (.missing m.text purpose) t.place
  | .bad cause => failAt (.ofLexical cause) t.place
  | _ => failAt (.missing m.text purpose) t.place

/-- Reads the mark `m` if it is next. -/
def tryMark (m : Mark) : Parsing Bool := do
  match (← peek).token with
  | .mark m' => if m = m' then modify (List.drop 1); return true else return false
  | _ => return false

/-- How tightly the next token binds as an operator; `0` if it is none. -/
def nextPrecedence : Parsing Nat := do
  let t ← peek
  match t.token with
  | .operator op => return op.precedence
  | .reserved s =>
    if isProperName s.toList then return 0 else failAt (.unknownOperator s) t.place
  | _ => return 0

/-- An expression that may stand where a truth value is needed: no literal of another type. -/
def requireTruth (e : Expr) : Parsing Unit :=
  match e with
  | .literal (.truth _) _ => return
  | e =>
    match e.kind? with
    | some kind => failAt (.truthExpected kind) e.start
    | none => return

/-- What an index literal that fits no array, text or bits is called. -/
def wrongItem? : Expr → Option String
  | .literal (.text _) _ | .interpolated .. => some "numeric index, not a string"
  | .literal (.float _) _ => some "integer index, not a float"
  | .literal (.character _) _ => some "integer index, not a character"
  | .literal .unit _ => some "integer index, not ()"
  | .literal (.truth _) _ | .connect .. => some "integer index, not a boolean"
  | _ => none

/-- What an index literal that fits no object map is called. -/
def wrongKey? : Expr → Option String
  | .literal (.int _) _ => some "not a number"
  | .literal (.float _) _ => some "not a float"
  | .literal (.character _) _ => some "not a character"
  | .literal .unit _ => some "not ()"
  | .literal (.truth _) _ | .connect .. => some "not a boolean"
  | _ => none

/-- Refuses an index that can never fit the literal before it. -/
def checkIndex (root item : Expr) : Parsing Unit :=
  let refuse (what : String) : Option String → Parsing Unit
    | some wrong => failAt (.indexType (what ++ wrong)) item.start
    | none => return
  match root with
  | .array .. | .literal (.text _) _ | .literal (.int _) _ | .interpolated .. =>
    refuse "Array, string or bit-field expects " (wrongItem? item)
  | .map .. => refuse "Object map expects string index, " (wrongKey? item)
  | _ => return

/-- Words that are kept for other uses but may be called as functions. -/
def callableWords : List String :=
  ["print", "debug", "type_of", "eval", "Fn", "call", "curry", "is_def_var", "is_def_fn",
    "is_shared"]

/-- Words that are kept for other uses but may be called as methods. -/
def methodWords : List String := ["call", "curry", "type_of", "is_shared"]

/-- The expression that an operator makes of its operands. -/
def combine (op : Operator) (left right : Expr) (p : Position) : Parsing Expr := do
  match op with
  | .or =>
    requireTruth left
    requireTruth right
    return .connect .or left right p
  | .and =>
    requireTruth left
    requireTruth right
    return .connect .and left right p
  | .coalesce => return .coalesce left right p
  | .isIn => return .call "contains" [right, left] false p
  | .notIn => return .unary .not (.call "contains" [right, left] false p) p
  | op => return .binary op left right p

/-- The expression that a sign makes of its operand: literals take it in. -/
def applySign (op : UnaryOperator) (e : Expr) (p : Position) : Expr :=
  match op, e with
  | .negate, .literal (.int n) _ =>
    if n = -2 ^ 63 then .literal (.float 9223372036854775808.0) p else .literal (.int (-n)) p
  | .negate, .literal (.float x) _ => .literal (.float (-x)) p
  | .plus, .literal (.int n) q => .literal (.int n) q
  | .plus, .literal (.float x) q => .literal (.float x) q
  | op, e => .unary op e p

/-- The link that a name or call after a dot stands for. -/
def linkAfterDot (optional : Bool) (p : Position) : Expr → Parsing Link
  | .variable name q => return .property optional p name q
  | .call name arguments inScope q => do
    if inScope then failAt .methodInScope q
    return .method optional p name arguments q
  | e => failAt .propertyExpected e.start

/-- The links that the operand after a dot stands for. -/
def linksAfterDot (optional : Bool) (p : Position) : Expr → Parsing (List Link)
  | .chain root links _ => return (← linkAfterDot optional p root) :: links
  | e => return [← linkAfterDot optional p e]

/-- Whether a link is an index. -/
def Link.isIndex : Link → Bool
  | .index .. => true
  | _ => false

/-- Whether a link passes `()` on. -/
def Link.isOptional : Link → Bool
  | .property optional .. => optional
  | .index optional .. => optional
  | .method optional .. => optional

/-- The link with or without passing `()` on. -/
def Link.withOptional (optional : Bool) : Link → Link
  | .property _ operator name p => .property optional operator name p
  | .index _ operator item => .index optional operator item
  | .method _ operator name arguments p => .method optional operator name arguments p

/-- Adds the links after a dot to an expression. They continue a row of indexes if `inRow` holds;
then the first of them passes `()` on when one of the indexes did, which no longer do. Any other
expression is the root of a new chain. -/
def addLinks (inRow : Bool) (e : Expr) (links : List Link) (p : Position) : Expr :=
  match inRow, e, links with
  | true, .chain root row q, first :: others =>
    let optional := first.isOptional || row.any Link.isOptional
    .chain root (row.map (.withOptional false) ++ first.withOptional optional :: others) q
  | _, e, links => .chain e links p

/-- The text about the end of a list of arguments. -/
def argumentsPurpose (name : String) : String :=
  "to close the arguments list of this function call '" ++ name ++ "'"

/-- Refuses an assignment where a condition ends. -/
def refuseAssignment : Parsing Unit := do
  let t ← peek
  match t.token with
  | .mark .assign => failAt (.lexical (.improper "Possibly a typo of '=='?")) t.place
  | _ => return

/-- The range between two literals. A start that is missing is zero; an end that is missing is the
largest integer. -/
def rangeOf? (closed : Bool) : Literal → Literal → Option Pattern
  | .int m, .int n => some (.range m n closed)
  | .int m, .unit => some (.range m maxInt closed)
  | .unit, .int n => some (.range 0 n closed)
  | _, _ => none

/-- The pattern that an expression is. -/
def patternOf? : Expr → Option Pattern
  | .binary .range (.literal m _) (.literal n _) _ => rangeOf? false m n
  | .binary .closedRange (.literal m _) (.literal n _) _ => rangeOf? true m n
  | e => e.literal?.map .value

/-- Whether a pattern is a number. -/
def Pattern.isNumber : Pattern → Bool
  | .value (.int _) | .value (.float _) => true
  | _ => false

/-- Whether a pattern is a range. -/
def Pattern.isRange : Pattern → Bool
  | .range .. => true
  | _ => false

/-- Whether no value fits a pattern. -/
def Pattern.isEmpty : Pattern → Bool
  | .range start stop closed => if closed then stop < start else stop ≤ start
  | _ => false

/-- The cases of a switch as far as they have been read. -/
structure Cases where
  /-- The cases, backwards. -/
  cases : List Case
  /-- Whether a range stands among their patterns. -/
  hasRange : Bool
  /-- The default case with its place. -/
  otherwise : Option (Expr × Position)

/-- The patterns that expressions stand for; a number may not follow a range. Empty ranges are left
out. -/
def patternsOf (hasRange : Bool) : List Expr → Parsing (List Pattern × Bool)
  | [] => return ([], hasRange)
  | e :: es => do
    match patternOf? e with
    | none => failAt (.expressionExpected "a literal") e.start
    | some pattern =>
      if pattern.isNumber && hasRange then failAt .numberAfterRange e.start
      else if pattern.isEmpty then patternsOf hasRange es
      else
        let (patterns, hasRange) ← patternsOf (hasRange || pattern.isRange) es
        return (pattern :: patterns, hasRange)

/-- Whether no operand can start with a token, so that the end of a range is missing before it. -/
def endsRange : Token → Bool
  | .finish => true
  | .mark m =>
    match m with
    | .closeParen | .closeBracket | .closeBrace | .openBrace | .comma | .semicolon | .colon
    | .arrow => true
    | _ => false
  | _ => false

/-- A part of a text that stands in the text itself, unless it is empty. -/
def textPart (s : String) (p : Position) : List (Expr × Position) :=
  if s.isEmpty then [] else [(.literal (.text s) p, p)]

/-! ### Recursive descent

`fuel` bounds the number of steps; `parse` provides more of it than the tokens can use up. -/

mutual

/-- An expression. -/
def parseExpr : (fuel : Nat) → Context → Parsing Expr
  | 0, ctx => failAt .tooDeep ctx.place
  | fuel + 1, ctx => do
    let ctx ← Context.deeper { ctx with place := (← peek).place }
    let left ← parseUnary fuel ctx
    parseBinary fuel 1 { ctx with place := left.place } left

/-- An operand with the signs before it. -/
def parseUnary : (fuel : Nat) → Context → Parsing Expr
  | 0, ctx => failAt .tooDeep ctx.place
  | fuel + 1, ctx => do
    let t ← peek
    if ctx.stopsAt t.token then failAt (.lexical (.unexpected t.token.show)) t.place
    let ctx := { ctx with place := t.place }
    let sign (op : UnaryOperator) : Parsing Expr := do
      let _ ← next
      let operand ← parseUnary fuel (← ctx.deeper)
      return applySign op operand t.place
    match t.token with
    | .operator .subtract => sign .negate
    | .operator .add => sign .plus
    | .mark .bang => sign .not
    | _ => parsePrimary fuel ctx

/-- The operators after an operand that bind at least as tightly as `least` asks for. -/
def parseBinary : (fuel : Nat) → (least : Nat) → Context → Expr → Parsing Expr
  | 0, _, ctx, _ => failAt .tooDeep ctx.place
  | fuel + 1, least, ctx, left => do
    let t ← peek
    if ctx.stopsAt t.token then return left
    let _ ← nextPrecedence
    match t.token with
    | .operator op =>
      if op.precedence < least || (op.precedence = least && !op.groupsRight) then return left
      let _ ← next
      let start ← peek
      let right ←
        if (op = .range || op = .closedRange) && endsRange start.token then
          pure (.literal .unit start.place)
        else parseUnary fuel ctx
      let following ← nextPrecedence
      let right ←
        if (op.precedence = following && op.groupsRight) || op.precedence < following then do
          let inner ← ctx.deeper
          parseBinary fuel op.precedence { inner with place := right.place } right
        else pure right
      let ctx ← ctx.deeper
      let e ← combine op left right t.place
      parseBinary fuel least { ctx with place := t.place } e
    | _ => return left

/-- An operand with everything that directly follows it. -/
def parsePrimary : (fuel : Nat) → Context → Parsing Expr
  | 0, ctx => failAt .tooDeep ctx.place
  | fuel + 1, ctx => do
    let t ← peek
    let p := t.place
    let ctx := { ctx with place := p }
    let constant (value : Literal) : Parsing Expr := do
      let _ ← next
      return .literal value p
    let root ←
      match t.token with
      | .mark .unit => constant .unit
      | .truth b => constant (.truth b)
      | .int n => constant (.int n)
      | .float x => constant (.float x)
      | .character c => constant (.character c)
      | .text s => constant (.text s)
      | .interrupted s => do
        let _ ← next
        let parts ← parseParts fuel (← ctx.deeper)
        pure (.interpolated (textPart s p ++ parts) p)
      | .operator .range | .operator .closedRange => pure (.literal .unit p)
      | .mark .openParen => do
        let _ ← next
        let e ← parseExpr fuel (← ctx.deeper)
        expect .closeParen "for a matching ( in this expression"
        pure e
      | .mark .openBracket => do
        let _ ← next
        let items ← parseItems fuel (← ctx.deeper) 0
        pure (.array items p)
      | .mark .openMap => do
        let _ ← next
        let fields ← parseFields fuel (← ctx.deeper) []
        pure (.map fields p)
      | .ifWord => parseBranch fuel (← ctx.deeper)
      | .switchWord => parseSelect fuel (← ctx.deeper)
      | .name s => do
        let _ ← next
        pure (.variable s p)
      | .reserved s => do
        let _ ← next
        let called :=
          match (← peek).token with
          | .mark .openParen | .mark .bang | .mark .unit => true
          | _ => false
        if called && callableWords.contains s then pure (.variable s p)
        else failAt (operandCause t.token) p
      | other => failAt (operandCause other) p
    parseAfter fuel ctx false root

/-- The rest of a text after the part before an expression. -/
def parseParts : (fuel : Nat) → Context → Parsing (List (Expr × Position))
  | 0, ctx => failAt .tooDeep ctx.place
  | fuel + 1, ctx => do
    let p := (← peek).place
    let part := (← parseBlock fuel ctx, p)
    let t ← next
    match t.token with
    | .text s => return part :: textPart s t.place
    | .interrupted s => return part :: (textPart s t.place ++ (← parseParts fuel ctx))
    | token => failAt (operandCause token) t.place

/-- Calls, indexes, properties and methods after an expression. `inRow` tells that the expression is
a row of indexes that goes on. -/
def parseAfter : (fuel : Nat) → Context → (inRow : Bool) → Expr → Parsing Expr
  | 0, ctx, _, _ => failAt .tooDeep ctx.place
  | fuel + 1, ctx, inRow, e => do
    let t ← peek
    let p := t.place
    let ctx := { ctx with place := p }
    match t.token, e with
    | .mark .bang, .variable name q => do
      let _ ← next
      let opening ← next
      match opening.token with
      | .mark .openParen | .mark .unit =>
        let closed := opening.token matches .mark .unit
        let call ← parseCall fuel { ctx with place := q } name closed true q
        parseAfter fuel ctx false call
      | _ =>
        failAt (.missing "(" "to start arguments list of function call") opening.place
    | .mark .openParen, .variable name q => do
      let _ ← next
      let call ← parseCall fuel { ctx with place := q } name false false q
      parseAfter fuel ctx false call
    | .mark .unit, .variable name q => do
      let _ ← next
      let call ← parseCall fuel { ctx with place := q } name true false q
      parseAfter fuel ctx false call
    | .mark .openBracket, e => do
      let _ ← next
      let links ← parseIndexes fuel (← ctx.deeper) (some e) false
      parseAfter fuel ctx true (.chain e links p)
    | .mark .optionalBracket, e => do
      let _ ← next
      let links ← parseIndexes fuel (← ctx.deeper) (some e) true
      parseAfter fuel ctx true (.chain e links p)
    | .mark .period, e => parseProperty fuel ctx inRow e false
    | .mark .optionalPeriod, e => parseProperty fuel ctx inRow e true
    | _, e => return e

/-- A property or method, with everything that directly follows it. -/
def parseProperty : (fuel : Nat) → Context → (inRow : Bool) → Expr → (optional : Bool) →
    Parsing Expr
  | 0, ctx, _, _, _ => failAt .tooDeep ctx.place
  | fuel + 1, ctx, inRow, e, optional => do
    let _ ← next
    let t ← peek
    match t.token with
    | .name _ => pure ()
    | .reserved s =>
      unless methodWords.contains s do
        failAt (if isProperName s.toList then .reservedWord s else .reservedSymbol s) t.place
    | _ => failAt .propertyExpected t.place
    let operand ← parsePrimary fuel (← ctx.deeper)
    let links ← linksAfterDot optional ctx.place operand
    parseAfter fuel ctx false (addLinks inRow e links ctx.place)

/-- One index after an opening bracket, and all that directly follow it. The first one is checked
against the expression before it. -/
def parseIndexes : (fuel : Nat) → Context → (root : Option Expr) → (optional : Bool) →
    Parsing (List Link)
  | 0, ctx, _, _ => failAt .tooDeep ctx.place
  | fuel + 1, ctx, root, optional => do
    let item ← parseExpr fuel (← ctx.deeper)
    match root with
    | some root => checkIndex root item
    | none => pure ()
    let t ← peek
    match t.token with
    | .mark .closeBracket => do
      let _ ← next
      let link := Link.index optional ctx.place item
      let following ← peek
      let further (optional : Bool) : Parsing (List Link) := do
        let _ ← next
        let ctx ← Context.deeper { ctx with place := following.place }
        return link :: (← parseIndexes fuel ctx none optional)
      match following.token with
      | .mark .openBracket => further false
      | .mark .optionalBracket => further true
      | _ => return [link]
    | .bad cause => failAt (.ofLexical cause) t.place
    | _ => failAt (.missing "]" "for a matching [ in this index expression") t.place

/-- The arguments of a call, after its opening bracket, or without any where it has none. -/
def parseCall : (fuel : Nat) → Context → (name : String) → (closed inScope : Bool) → Position →
    Parsing Expr
  | 0, ctx, _, _, _, _ => failAt .tooDeep ctx.place
  | fuel + 1, ctx, name, closed, inScope, p => do
    if closed then return .call name [] inScope p
    let t ← peek
    match t.token with
    | .finish => failAt (.missing ")" (argumentsPurpose name)) t.place
    | .bad cause => failAt (.ofLexical cause) t.place
    | .mark .closeParen => do
      let _ ← next
      return .call name [] inScope p
    | _ => do
      let arguments ← parseArguments fuel (← ctx.deeper) name
      return .call name arguments inScope p

/-- The arguments of a call from one of them on. A comma may stand after the last one. -/
def parseArguments : (fuel : Nat) → Context → (name : String) → Parsing (List Expr)
  | 0, ctx, _ => failAt .tooDeep ctx.place
  | fuel + 1, ctx, name => do
    if ← tryMark .closeParen then return []
    let argument ← parseExpr fuel ctx
    let t ← peek
    match t.token with
    | .mark .closeParen => do
      let _ ← next
      return [argument]
    | .mark .comma => do
      let _ ← next
      return argument :: (← parseArguments fuel ctx name)
    | .finish => failAt (.missing ")" (argumentsPurpose name)) t.place
    | .bad cause => failAt (.ofLexical cause) t.place
    | _ =>
      failAt (.missing "," ("to separate the arguments to function call '" ++ name ++ "'")) t.place

/-- The items of an array from one of them on, after `count` others. -/
def parseItems : (fuel : Nat) → Context → (count : Nat) → Parsing (List Expr)
  | 0, ctx, _ => failAt .tooDeep ctx.place
  | fuel + 1, ctx, count => do
    let t ← peek
    if maxItems ≤ count then failAt (.literalTooLarge "Size of array literal" maxItems) t.place
    match t.token with
    | .mark .closeBracket => do
      let _ ← next
      return []
    | .finish => failAt (.missing "]" "to end this array literal") t.place
    | _ => do
      let item ← parseExpr fuel (← ctx.deeper)
      let t ← peek
      match t.token with
      | .mark .comma => do
        let _ ← next
        return item :: (← parseItems fuel ctx (count + 1))
      | .mark .closeBracket => return item :: (← parseItems fuel ctx (count + 1))
      | .finish => failAt (.missing "]" "to end this array literal") t.place
      | .bad cause => failAt (.ofLexical cause) t.place
      | _ => failAt (.missing "," "to separate the items of this array literal") t.place

/-- The properties of an object map from one of them on, after those with the names `before`. -/
def parseFields : (fuel : Nat) → Context → (before : List String) →
    Parsing (List (String × Expr))
  | 0, ctx, _ => failAt .tooDeep ctx.place
  | fuel + 1, ctx, before => do
    let unclosed : FormCause := .missing "\x7d" "to end this object map literal"
    if ← tryMark .closeBrace then return []
    let t ← next
    let name ←
      match t.token with
      | .name s | .text s =>
        if before.contains s then failAt (.duplicateProperty s) t.place else pure s
      | .reserved s =>
        if isProperName s.toList then failAt (.reservedWord s) t.place
        else failAt (if before.isEmpty then unclosed else .propertyExpected) t.place
      | .bad cause => failAt (.ofLexical cause) t.place
      | .finish => failAt unclosed t.place
      | _ => failAt (if before.isEmpty then unclosed else .propertyExpected) t.place
    expect .colon ("to follow the property '" ++ name ++ "' in this object map literal")
    if maxFields ≤ before.length then
      failAt (.literalTooLarge "Number of properties in object map literal" maxFields)
        (← peek).place
    let value ← parseExpr fuel (← ctx.deeper)
    let t ← peek
    match t.token with
    | .mark .comma => do
      let _ ← next
      return (name, value) :: (← parseFields fuel ctx (name :: before))
    | .mark .closeBrace => return (name, value) :: (← parseFields fuel ctx (name :: before))
    | .name _ => failAt (.missing "," "to separate the items of this object map literal") t.place
    | .bad cause => failAt (.ofLexical cause) t.place
    | _ => failAt unclosed t.place

/-- A choice between two expressions. -/
def parseBranch : (fuel : Nat) → Context → Parsing Expr
  | 0, ctx => failAt .tooDeep ctx.place
  | fuel + 1, ctx => do
    let p := (← next).place
    let ctx ← Context.deeper { ctx with place := p }
    let t ← peek
    if t.token matches .mark .openBrace then failAt (.expressionExpected "a boolean") t.place
    let condition ← parseExpr fuel ctx
    requireTruth condition
    refuseAssignment
    let body ← parseBlock fuel ctx
    if (← peek).token matches .elseWord then
      let _ ← next
      let otherwise ←
        if (← peek).token matches .ifWord then parseBranch fuel ctx else parseBlock fuel ctx
      return .branch condition body (some otherwise) p
    else return .branch condition body none p

/-- An expression between braces. -/
def parseBlock : (fuel : Nat) → Context → Parsing Expr
  | 0, ctx => failAt .tooDeep ctx.place
  | fuel + 1, ctx => do
    let start := "to start a statement block"
    let p := (← peek).place
    expect .openBrace start
    let e ← parseExpr fuel (← Context.deeper { ctx with place := p })
    let t ← next
    match t.token with
    | .mark .closeBrace => return e
    | .bad cause => failAt (.ofLexical cause) t.place
    | _ => failAt (.missing "\x7b" start) t.place

/-- A choice between many expressions. -/
def parseSelect : (fuel : Nat) → Context → Parsing Expr
  | 0, ctx => failAt .tooDeep ctx.place
  | fuel + 1, ctx => do
    let p := (← next).place
    let ctx ← Context.deeper { ctx with place := p }
    let subject ← parseExpr fuel ctx
    expect .openBrace "to start a switch block"
    let read ← parseCases fuel ctx ⟨[], false, none⟩
    return .select subject read.cases.reverse (read.otherwise.map Prod.fst) p

/-- The cases of a switch from one of them on. -/
def parseCases : (fuel : Nat) → Context → Cases → Parsing Cases
  | 0, ctx, _ => failAt .tooDeep ctx.place
  | fuel + 1, ctx, read => do
    let unclosed : FormCause := .missing ")" "to end this switch block"
    let t ← peek
    match t.token, read.otherwise with
    | .mark .closeBrace, _ => do
      let _ ← next
      return read
    | .finish, _ => failAt unclosed t.place
    | .mark .underscore, none => do
      let _ ← next
      let following ← peek
      if following.token matches .ifWord then failAt .conditionalDefault following.place
      expect .arrow "in this switch case"
      let body ← parseExpr fuel (← ctx.deeper)
      parseCaseEnd fuel ctx { read with otherwise := some (body, t.place) }
    | _, some (_, p) => failAt .defaultNotLast p
    | _, none => do
      let alternatives ← parsePatterns fuel ctx
      let condition ←
        if (← peek).token matches .ifWord then do
          let _ ← next
          let t ← peek
          if t.token matches .mark .openBrace then
            failAt (.expressionExpected "a boolean") t.place
          let condition ← parseExpr fuel ctx
          requireTruth condition
          refuseAssignment
          pure (some condition)
        else pure none
      expect .arrow "in this switch case"
      let body ← parseExpr fuel (← ctx.deeper)
      let (patterns, hasRange) ← patternsOf read.hasRange alternatives
      parseCaseEnd fuel ctx
        { read with cases := .mk patterns condition body :: read.cases, hasRange := hasRange }

/-- What follows a case of a switch. -/
def parseCaseEnd : (fuel : Nat) → Context → Cases → Parsing Cases
  | 0, ctx, _ => failAt .tooDeep ctx.place
  | fuel + 1, ctx, read => do
    let t ← peek
    match t.token with
    | .mark .comma => do
      let _ ← next
      parseCases fuel ctx read
    | .mark .closeBrace => parseCases fuel ctx read
    | .finish => failAt (.missing ")" "to end this switch block") t.place
    | .bad cause => failAt (.ofLexical cause) t.place
    | _ => failAt (.missing "," "to separate the items in this switch block") t.place

/-- The expressions between bars that a case starts with. -/
def parsePatterns : (fuel : Nat) → Context → Parsing (List Expr)
  | 0, ctx => failAt .tooDeep ctx.place
  | fuel + 1, ctx => do
    let pattern ← tryCatch (parseExpr fuel { ctx with stopAtBar := true })
      fun failure => failAt (.expressionExpected "literal") failure.place
    if (← peek).token matches .operator .bitOr then
      let _ ← next
      return pattern :: (← parsePatterns fuel ctx)
    else return [pattern]

end

/-- The expression that all the tokens make up. -/
def parseTokens (ts : List Placed) : Except Failure Expr := do
  let (e, rest) ← (parseExpr (8 * ts.length + 16) ⟨0, .start, false⟩).run ts
  match rest with
  | [] => return e
  | t :: _ =>
    match t.token with
    | .finish => return e
    | token => throw ⟨.form (.lexical (.unexpected token.show)), t.place⟩

/-- The expression of a text. -/
def parse (s : String) : Except Failure Expr := parseTokens (tokens s)

end OpticScene.Expr
