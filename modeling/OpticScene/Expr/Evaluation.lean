import OpticScene.Expr.Chain

/-!
# Evaluating expressions

The value of an expression in a scope of named values. Operands are evaluated from left to right,
except that a variable in front is looked up after all other operands; in a chain, likewise, the
indexes and arguments come first and the root after them. A function that changes its first argument
changes the variable, field or item that the argument is. A text may be evaluated as an expression
within an expression.

## Main definitions

* `Expr.Scope`: named values, of which the last one with a name counts.
* `Expr.Evaluation`: an evaluation, which reads and changes a scope and may draw numbers.
* `Expr.invoke`: a function applied to its arguments.
* `Expr.evaluateIn`: the value of an expression, given that of texts.
* `Expr.evaluate`: the value of an expression; it may draw from the random stream.

## Implementation notes

`eval` takes one expression. A text of several statements, with assignments, declarations or loops,
is refused by the parser, where the full language would run it. An expression itself has none of
these, and `maxLevel` and `maxTexts` bound its depth; the number of operations of an evaluation is
not counted, so that no evaluation fails for having taken 100000 of them.
-/

namespace OpticScene.Expr

open OpticScene.Random (Draws)

/-! ### Scopes -/

/-- Named values. Of several values with one name, the last one counts. -/
abbrev Scope := List (String × Value)

/-- The value of a name. -/
def Scope.find? (name : String) : Scope → Option Value
  | [] => none
  | (k, v) :: scope =>
    match Scope.find? name scope with
    | some w => some w
    | none => if k = name then some v else none

/-- Gives a name that has a value another one. -/
def Scope.assign (name : String) (v : Value) : Scope → Scope
  | [] => []
  | (k, w) :: scope =>
    if k = name && (Scope.find? name scope).isNone then (k, v) :: scope
    else (k, w) :: Scope.assign name v scope

/-- The value of a variable. -/
def variableValue (scope : Scope) (name : String) (p : Position) : Except Failure Value :=
  match Scope.find? name scope with
  | some v => .ok v
  | none => .error (.ofValue p (.variableNotFound name))

/-! ### Values of a type -/

/-- A truth value; any other is an error at the place. -/
def asTruth (p : Position) : Value → Except Failure Bool
  | .truth b => .ok b
  | v => .error (.ofValue p (.wrongType v.exactType "bool"))

/-- A text; any other value is an error at the place. -/
def asText (p : Position) : Value → Except Failure String
  | .text s => .ok s
  | v => .error (.ofValue p (.wrongType v.exactType "string"))

/-- A function with its first arguments; any other value is an error at the place. -/
def asFunction (p : Position) : Value → Except Failure (String × List Value)
  | .function name bound => .ok (name, bound)
  | v => .error (.ofValue p (.wrongType v.exactType "Fn"))

/-- Whether a text is one symbol of the language. -/
def isSymbol (s : String) : Bool :=
  match (tokens s).map Placed.token with
  | [.operator _, _] | [.mark _, _] | [.assignment _, _] | [.reserved _, _] => true
  | _ => false

/-- The function with a name, which must be one that can be written. -/
def functionNamed (p : Position) (name : String) : Except Failure Value :=
  match wordToken name with
  | .name _ => .ok (.function name [])
  | .bad _ | .mark _ =>
    if isSymbol name then .error ⟨.form (.reservedSymbol name), p⟩
    else .error (.ofValue p (.noFunctionName name))
  | _ => .error ⟨.form (.reservedWord name), p⟩

/-- The sizes of the items read so far and one more, unless they are too large together. -/
def addSize (p : Position) (total : Value.Size) (v : Value) (part : Value.Size) :
    Except Failure Value.Size :=
  let total := (total.add v.size).add part
  match total.excess? with
  | some cause => .error (.ofValue p cause)
  | none => .ok total

/-! ### Expressions -/

/-- Evaluation reads and changes the variables of a scope and may draw from the random stream. -/
abbrev Evaluation := StateT Scope (Draws Stop)

/-- Evaluated arguments; the first one may stand in a variable. -/
structure Arguments where
  /-- The values. -/
  values : List Value
  /-- The variable that holds the first value. -/
  holder : Option String

/-- The function `name` applied to arguments. A change of the first one goes to its variable. -/
def invoke (name : String) (arguments : Arguments) (p : Position) : Evaluation Value := do
  match arguments.values with
  | [] => callAlone name p
  | v :: others =>
    match arguments.holder with
    | none => return (← callFunction false name v others p).1
    | some holder =>
      let (w, v) ← callFunction true name v others p
      modify (Scope.assign holder v)
      return w

/-- An operator applied to its operands, of which the first one stands in a variable if `inPlace`
holds. -/
def operate (inPlace : Bool) (op : Operator) (x y : Value) (p : Position) :
    Except Failure Value := do
  let outcome := op.apply x y
  if outcome.any (·.isOk) then checkInPlace inPlace p x
  outcome.at p op.symbol [x, y]

/-- Whether a function takes over the evaluation of its first argument when it has `count` more. -/
def takesOver (name : String) (count : Nat) : Bool :=
  match name with
  | "Fn" | "eval" | "is_def_var" | "is_shared" => count = 0
  | "is_def_fn" => count = 1
  | "call" => true
  | "curry" => 0 < count
  | _ => false

section

variable (ofText : Position → String → Evaluation Value)

mutual

/-- The value of an expression. -/
def evaluateIn : Expr → Evaluation Value
  | .literal value _ => return value.value
  | .variable name p => do variableValue (← get) name p
  | .interpolated parts _ => return .text (← evaluateParts "" parts)
  | .array items _ => do return .array (← evaluateItems .none items)
  | .map fields _ => do
    let fields ← evaluateFields .none fields
    return .map (mergeFields [] fields)
  | .unary op operand p => do
    let v ← evaluateIn operand
    Outcome.at p op.symbol [v] (op.apply v)
  | .binary op (.variable name q) right p => do
    let y ← evaluateIn right
    let x ← variableValue (← get) name q
    operate true op x y p
  | .binary op left right p => do
    let x ← evaluateIn left
    let y ← evaluateIn right
    operate false op x y p
  | .connect op left right _ => do
    let a ← asTruth left.place (← evaluateIn left)
    if a == (op == .or) then return .truth a
    else return .truth (← asTruth right.place (← evaluateIn right))
  | .coalesce left right _ => do
    match ← evaluateIn left with
    | .unit => evaluateIn right
    | v => return v
  | .call name arguments _ p => do
    match arguments with
    | [] => callAlone name p
    | first :: others =>
      if takesOver name others.length then
        let v ← evaluateIn first
        match name with
        | "eval" => ofText first.start (← asText first.start v)
        | "Fn" => functionNamed first.start (← asText first.start v)
        | "is_def_var" =>
          let sought ← asText first.start v
          return .truth (Scope.find? sought (← get)).isSome
        | "is_def_fn" => do
          let _ ← asText first.start v
          match ← evaluateAll others with
          | [.int _] | [] => return .truth false
          | w :: _ => throw (.failure (.ofValue ((others.head?.map Expr.start).getD p)
              (.wrongType w.exactType "i64")))
        | "call" =>
          let (f, bound) ← asFunction first.start v
          let arguments ← evaluateArguments others
          if bound.isEmpty then invoke f arguments p
          else invoke f ⟨bound ++ arguments.values, none⟩ p
        | "curry" =>
          let (f, bound) ← asFunction first.start v
          return .function f (bound ++ (← evaluateAll others))
        | _ => return .truth false
      else invoke name (← evaluateArguments (first :: others)) p
  | .chain (.variable name q) links _ => do
    let steps ← evaluateLinks links
    let (result, v) ← follow true (← variableValue (← get) name q) steps
    modify (Scope.assign name v)
    return result
  | .chain root links _ => do
    let steps ← evaluateLinks links
    return (← follow false (← evaluateIn root) steps).1
  | .branch condition body otherwise _ => do
    if ← asTruth condition.place (← evaluateIn condition) then evaluateIn body
    else evaluateOption otherwise
  | .select subject cases otherwise _ => do
    let v ← evaluateIn subject
    let fits := if cases.any (Case.asksFor v) then Pattern.isValue v else Pattern.isInRange v
    match ← evaluateCases fits cases with
    | some w => return w
    | none => evaluateOption otherwise

/-- The value of an expression that may be missing. -/
def evaluateOption : Option Expr → Evaluation Value
  | none => return .unit
  | some e => evaluateIn e

/-- The text of the parts from one of them on, after the text `before`. -/
def evaluateParts (before : String) : List (Expr × Position) → Evaluation String
  | [] => return before
  | (e, p) :: parts => do
    let v ← evaluateIn e
    let text := before ++ v.display
    let _ ← checkSize p (.text text)
    evaluateParts text parts

/-- The values of arguments. -/
def evaluateAll : List Expr → Evaluation (List Value)
  | [] => return []
  | e :: es => do
    let v ← evaluateIn e
    return v :: (← evaluateAll es)

/-- The values of all arguments of a function. -/
def evaluateArguments : List Expr → Evaluation Arguments
  | [] => return ⟨[], none⟩
  | .variable name q :: others => do
    let vs ← evaluateAll others
    let v ← variableValue (← get) name q
    return ⟨v :: vs, some name⟩
  | e :: others => do
    let v ← evaluateIn e
    return ⟨v :: (← evaluateAll others), none⟩

/-- The values of the items of an array, after items with the size `total`. -/
def evaluateItems (total : Value.Size) : List Expr → Evaluation (List Value)
  | [] => return []
  | e :: es => do
    let v ← evaluateIn e
    let total ← addSize e.place total v ⟨0, 1, 0⟩
    return v :: (← evaluateItems total es)

/-- The values of the fields of a map, after fields with the size `total`. -/
def evaluateFields (total : Value.Size) :
    List (String × Expr) → Evaluation (List (String × Value))
  | [] => return []
  | (k, e) :: fields => do
    let v ← evaluateIn e
    let total ← addSize e.place total v ⟨0, 0, 1⟩
    return (k, v) :: (← evaluateFields total fields)

/-- The steps of a chain. -/
def evaluateLinks : List Link → Evaluation (List Step)
  | [] => return []
  | .property optional _ name p :: links => do
    return .property optional name p :: (← evaluateLinks links)
  | .index optional operator item :: links => do
    let v ← evaluateIn item
    return .index optional operator v item.start :: (← evaluateLinks links)
  | .method optional _ name arguments p :: links => do
    let vs ← evaluateAll arguments
    return .method optional name vs p :: (← evaluateLinks links)

/-- The value of the first case of which a pattern fits and the condition holds. -/
def evaluateCases (fits : Pattern → Bool) : List Case → Evaluation (Option Value)
  | [] => return none
  | .mk patterns condition body :: cases => do
    if patterns.any fits then
      match condition with
      | none => return some (← evaluateIn body)
      | some condition =>
        if ← asTruth condition.place (← evaluateIn condition) then
          return some (← evaluateIn body)
        else evaluateCases fits cases
    else evaluateCases fits cases

end

end

/-! ### Texts -/

/-- How many texts may be evaluated within each other. -/
def maxTexts : Nat := 32

/-- What ends the evaluation of a text at a place; a failure is one of the function `eval`. -/
def Stop.inText (p : Position) : Stop → Stop
  | .failure f => .failure (f.inCall "eval" p)
  | .exit v => .exit v

/-- The value of a text at a place when at most `fuel` texts are evaluated within each other. A
blank text stands for `()`. -/
def evaluateText : (fuel : Nat) → Position → String → Evaluation Value
  | 0, p, _ => throw (.failure (.ofValue p .nestedTexts))
  | fuel + 1, p, s =>
    let inner : Evaluation Value := do
      let text := Text.trim s
      if text.isEmpty then return .unit
      evaluateIn (evaluateText fuel) (← parse text)
    fun scope => (inner scope).adapt (Stop.inText p)

/-- The value of an expression in a scope. -/
def evaluate (scope : Scope) (e : Expr) : Draws Failure Value :=
  ExceptT.mk do
    match ← ((evaluateIn (evaluateText maxTexts) e).run' scope).run with
    | .ok v | .error (.exit v) => return .ok v
    | .error (.failure f) => return .error f

end OpticScene.Expr
