import OpticScene.Expr.Token

/-!
# Expressions

The tree of an expression. Every node keeps the place that an error about it names.

## Main definitions

* `Expr.Literal`: the values that stand in the text itself.
* `Expr`: expressions, with the links of a chain (`Expr.Link`) and the cases of a switch
  (`Expr.Case`).
* `Expr.place`, `Expr.start`: the place of an expression as an operand, and where it begins.
-/

namespace OpticScene

namespace Expr

/-- A value that stands in the text itself. -/
inductive Literal where
  /-- `()`. -/
  | unit
  /-- `true` or `false`. -/
  | truth (value : Bool)
  /-- A whole number. -/
  | int (value : Int)
  /-- A number with a fraction or exponent. -/
  | float (value : Float)
  /-- A character. -/
  | character (value : Char)
  /-- A text. -/
  | text (value : String)
  /-- A list of such values. -/
  | array (items : List Literal)
  /-- Such values under names. -/
  | map (fields : List (String × Literal))
  deriving Repr, Inhabited

/-- The operators that stand before one operand. -/
inductive UnaryOperator where
  /-- `-`. -/
  | negate
  /-- `+`. -/
  | plus
  /-- `!`. -/
  | not
  deriving Repr, DecidableEq, Inhabited

/-- How the operator is written. -/
def UnaryOperator.symbol : UnaryOperator → String
  | .negate => "-"
  | .plus => "+"
  | .not => "!"

/-- The operators that look at their second operand only if the first one asks for it. -/
inductive Connective where
  /-- `||`. -/
  | or
  /-- `&&`. -/
  | and
  deriving Repr, DecidableEq, Inhabited

/-- The values that a case of a switch is taken for. -/
inductive Pattern where
  /-- One value. -/
  | value (literal : Literal)
  /-- The numbers from `start` to `stop`, the last one included when `closed` holds. -/
  | range (start stop : Int) (closed : Bool)
  deriving Repr, Inhabited

end Expr

mutual

/-- An expression. -/
inductive Expr where
  /-- A value that stands in the text. -/
  | literal (value : Expr.Literal) (place : Expr.Position)
  /-- The value of a name. -/
  | variable (name : String) (place : Expr.Position)
  /-- A text made up of the texts of several values, each with the place where its part begins. -/
  | interpolated (parts : List (Expr × Expr.Position)) (place : Expr.Position)
  /-- A list of values. -/
  | array (items : List Expr) (place : Expr.Position)
  /-- Named values. -/
  | map (fields : List (String × Expr)) (place : Expr.Position)
  /-- An operator before its operand. -/
  | unary (op : Expr.UnaryOperator) (operand : Expr) (place : Expr.Position)
  /-- An operator between its operands. -/
  | binary (op : Expr.Operator) (left right : Expr) (place : Expr.Position)
  /-- Two truth values, the second looked at only if needed. -/
  | connect (op : Expr.Connective) (left right : Expr) (place : Expr.Position)
  /-- The second value where the first one is `()`. -/
  | coalesce (left right : Expr) (place : Expr.Position)
  /-- A function applied to arguments. `inScope` tells that it is asked to see the scope of the
  call. -/
  | call (name : String) (arguments : List Expr) (inScope : Bool) (place : Expr.Position)
  /-- Properties, items and methods taken of a value one after the other. -/
  | chain (root : Expr) (links : List Expr.Link) (place : Expr.Position)
  /-- One of two expressions, as a condition tells; `()` when there is no second one. -/
  | branch (condition body : Expr) (otherwise : Option Expr) (place : Expr.Position)
  /-- The first case whose pattern and condition fit a value; `()` when there is none. -/
  | select (subject : Expr) (cases : List Expr.Case) (otherwise : Option Expr)
    (place : Expr.Position)

/-- One step of a chain. `optional` passes `()` on; `operator` is the place of the dot or
bracket. -/
inductive Expr.Link where
  /-- A property. -/
  | property (optional : Bool) (operator : Expr.Position) (name : String)
    (place : Expr.Position)
  /-- An item. -/
  | index (optional : Bool) (operator : Expr.Position) (item : Expr)
  /-- A method. -/
  | method (optional : Bool) (operator : Expr.Position) (name : String)
    (arguments : List Expr) (place : Expr.Position)

/-- One case of a switch. -/
inductive Expr.Case where
  /-- The patterns, of which one has to fit, the condition, and the value of the case. -/
  | mk (patterns : List Expr.Pattern) (condition : Option Expr) (body : Expr)

end

namespace Expr

/-- The place of an expression as an operand: that of its operator, name or first character. -/
def place : Expr → Position
  | .literal _ p | .variable _ p | .interpolated _ p | .array _ p | .map _ p | .unary _ _ p
  | .binary _ _ _ p | .connect _ _ _ p | .coalesce _ _ p | .call _ _ _ p | .chain _ _ p
  | .branch _ _ _ p | .select _ _ _ p => p

/-- Where an expression begins; operators that are functions count from the operator on. -/
def start : Expr → Position
  | .connect _ left _ _ => left.start
  | .coalesce left _ _ => left.start
  | .chain root _ _ => root.start
  | e => e.place

/-- What a literal is called in a message about another type. -/
def kind? : Expr → Option String
  | .literal value _ =>
    match value with
    | .unit => some "()"
    | .truth _ => some "a boolean"
    | .int _ => some "a number"
    | .float _ => some "a floating-point number"
    | .character _ => some "a character"
    | .text _ => some "a string"
    | .array _ => some "an array"
    | .map _ => some "an object map"
  | .interpolated _ _ => some "a string"
  | .array _ _ => some "an array"
  | .map _ _ => some "an object map"
  | _ => none

mutual

/-- The literal that an expression is, if all its parts are literals. -/
def literal? : Expr → Option Literal
  | .literal value _ => some value
  | .array items _ => (literals? items).map .array
  | .map fields _ => (literalFields? fields).map .map
  | _ => none

/-- The literals that several expressions are. -/
def literals? : List Expr → Option (List Literal)
  | [] => some []
  | e :: es => do
    let value ← literal? e
    return value :: (← literals? es)

/-- The literals under several names. -/
def literalFields? : List (String × Expr) → Option (List (String × Literal))
  | [] => some []
  | (k, e) :: fields => do
    let value ← literal? e
    return (k, value) :: (← literalFields? fields)

end

end Expr

end OpticScene
