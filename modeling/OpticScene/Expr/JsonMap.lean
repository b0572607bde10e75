import OpticScene.Expr.Parser
import OpticScene.Expr.Constant

/-!
# Object maps from JSON texts

A JSON object reads like an object map of the language, with three differences: no number sign
stands before the brace, names always have quotes, and `null` is written for `()`.

## Main definitions

* `Expr.jsonTokens`: the tokens of a JSON text in terms of those of an expression.
* `Expr.mapOfJson`: the object map of a JSON text.
-/

namespace OpticScene.Expr

/-- A token of a JSON text as the token of an expression that means the same. -/
def jsonToken : Token → Token
  | .reserved word => if word = "null" then .mark .unit else .reserved word
  | .interrupted _ => .bad (.improper "Invalid JSON syntax")
  | .mark m =>
    match m with
    | .openBrace => .mark .openMap
    | .unit | .openMap => .bad (.improper "Invalid JSON syntax")
    | m => .mark m
  | t => t

/-- The tokens of a JSON text as those of an expression. A name without quotes cannot be that of a
field. -/
def jsonTokens : List Placed → Except Failure (List Placed)
  | [] => .ok []
  | ⟨.name _, p⟩ :: ⟨.mark .colon, _⟩ :: _ => .error ⟨.form .propertyExpected, p⟩
  | t :: ts => do
    let others ← jsonTokens ts
    return ⟨jsonToken t.token, t.place⟩ :: others

/-- The object map of a JSON text that is read at a place. -/
def mapOfJson (p : Position) (s : String) : Except Failure Value := do
  let e ← parseTokens (← jsonTokens (tokens s))
  match e.literal? with
  | none => throw ⟨.form (.expressionExpected "literal"), e.place⟩
  | some value =>
    match value.value with
    | .map fields => return .map fields
    | v => throw (.ofValue p (.wrongResult v.typeName "map"))

end OpticScene.Expr
