import OpticScene.Json.Basic

/-!
# Templates

A template is a value with holes: texts may hold expressions between back-ticks, and the elements of
an array may be repeated by ranges or kept only on a condition.

## Main definitions

* `TextTemplate`: a text with expressions in it.
* `Template`, `Template.Item`: templates of values, and of the elements of an array.
* `ObjectTemplate`: named templates in order.
-/

namespace OpticScene

/-- A part of a text with expressions. -/
inductive Segment where
  /-- Text that stands for itself. -/
  | literal (text : String)
  /-- An expression. -/
  | expression (expr : String)
  deriving Repr, DecidableEq, Inhabited

/-- A text with expressions between back-ticks. -/
inductive TextTemplate where
  /-- No expression at all. -/
  | literal (text : String)
  /-- Nothing but one expression, whose value keeps its type. -/
  | expression (expr : String)
  /-- Text and expressions that are put together to a text. -/
  | interpolated (segments : List Segment)
  deriving Repr, DecidableEq, Inhabited

mutual

/-- A template of a value. -/
inductive Template where
  /-- A text. -/
  | text (template : TextTemplate)
  /-- A number. -/
  | number (value : Json.Number)
  /-- A truth value. -/
  | bool (value : Bool)
  /-- The absent value. -/
  | null
  /-- Named templates. -/
  | object (fields : List (String × Template))
  /-- A list of elements. -/
  | array (items : List Template.Item)

/-- A template of the elements of an array. -/
inductive Template.Item where
  /-- One element. -/
  | plain (template : Template)
  /-- An object for each choice of a value from every range for which the condition holds. -/
  | loop (ranges : List String) (condition : Option String) (body : List (String × Template))
  /-- An object if the condition holds. -/
  | conditional (condition : String) (body : List (String × Template))

end

/-- Named templates in order. -/
abbrev ObjectTemplate := List (String × Template)

end OpticScene
