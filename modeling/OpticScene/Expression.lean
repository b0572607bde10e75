import OpticScene.Expr.Evaluation
import OpticScene.Bindings

/-!
# Evaluating expressions in bindings

The entry to the expression language: an expression is evaluated with the constants `pi` and `e` and
the bindings in force, and its value is a JSON value again. A caret stands for a power.

## Main definitions

* `Expression.expandCarets`: the text of an expression with each caret outside quotes written as
  `**`.
* `Expression.scope`: the named values that an expression sees.
* `Expression.evaluate`: the value of an expression.
* `Expression.condition`: the truth of an expression; numbers are true unless they are zero.
-/

namespace OpticScene

/-- An expression that could not be evaluated. -/
structure EvalError where
  /-- The expression. -/
  expr : String
  /-- What went wrong. -/
  message : String
  deriving Repr, DecidableEq, Inhabited

/-- The text of the error. -/
def EvalError.text (e : EvalError) : String :=
  "failed to evaluate \x60" ++ e.expr ++ "\x60: " ++ e.message

namespace Expression

open OpticScene.Random (Draws)

/-- Writes each caret outside quotes as two stars. `quote` is the quote around the characters, and
`escaped` tells whether a backslash precedes them. -/
def expandCaretsFrom : (quote : Option Char) → (escaped : Bool) → List Char → List Char
  | _, _, [] => []
  | some q, true, c :: cs => c :: expandCaretsFrom (some q) false cs
  | some q, false, c :: cs =>
    if c = '\\' then c :: expandCaretsFrom (some q) true cs
    else if c = q then c :: expandCaretsFrom none false cs
    else c :: expandCaretsFrom (some q) false cs
  | none, _, c :: cs =>
    if c = '^' then '*' :: '*' :: expandCaretsFrom none false cs
    else if c = '"' || c = '\'' || c = '\x60' then c :: expandCaretsFrom (some c) false cs
    else c :: expandCaretsFrom none false cs

/-- The text with each caret outside quotes written as two stars. -/
def expandCarets (s : String) : String :=
  if s.toList.contains '^' then String.ofList (expandCaretsFrom none false s.toList) else s

/-- The named values that an expression sees: two constants, then the bindings from the outermost
layer inward. -/
def scope (b : Bindings) : Expr.Scope :=
  [("pi", .float Expr.pi), ("e", .float Expr.euler)] ++
    b.toList.map fun (name, value) => (name, Expr.Value.ofJson value)

/-- Why an expression has no result. -/
inductive Cause where
  /-- It is not well formed or its evaluation fails. -/
  | fails (failure : Expr.Failure)
  /-- Its value is no JSON value. -/
  | noResult (error : Expr.Value.ResultError)
  /-- Its value is neither true nor false. -/
  | notCondition (value : Json)
  deriving Inhabited

/-- The text of a cause. -/
def Cause.message : Cause → String
  | .fails failure => failure.message
  | .noResult error => error.message
  | .notCondition value => "condition must be a boolean or number, got " ++ value.compact

/-- The value of an expression, or why it has none. -/
def value (b : Bindings) (s : String) : Draws Cause Json := do
  let e ← (Expr.parse (expandCarets s)).mapError Cause.fails
  let v ← (Expr.evaluate (scope b) e).adapt Cause.fails
  v.toJson.mapError Cause.noResult

/-- The error about an expression. -/
def failed (s : String) (cause : Cause) : EvalError := ⟨s, cause.message⟩

/-- The value of an expression. -/
def evaluate (b : Bindings) (s : String) : Draws EvalError Json := (value b s).adapt (failed s)

/-- The truth that a value stands for. -/
def truth : Json → Except Cause Bool
  | .bool b => .ok b
  | .number n => .ok (n.toFloat != 0.0)
  | v => .error (.notCondition v)

/-- The truth of an expression. -/
def condition (b : Bindings) (s : String) : Draws EvalError Bool := do
  let v ← evaluate b s
  (truth v).mapError (failed s)

end Expression

end OpticScene
