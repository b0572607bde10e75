import OpticScene.Template.Basic
import OpticScene.Text.Blank
import OpticScene.Text.Cut
import OpticScene.Text.Quoted

/-!
# Compiling templates

Reads a JSON value as a template: texts are split at back-ticks, and the keys `for` and `if` of the
objects in an array say when the object is repeated or kept.

## Main definitions

* `TextTemplate.compile`: the template of a text.
* `Template.compile`, `Template.compileObject`, `Template.compileArray`: the template of a value.
* `TemplateError`: what is wrong with a value, and where.
-/

namespace OpticScene

/-- What is wrong with a value that is no template. -/
inductive TemplateCause where
  /-- A value of another type is needed. -/
  | wrongKind (expected found : String)
  /-- A condition is no text. -/
  | conditionKind (found : String)
  /-- A range descriptor is no text. -/
  | descriptorKind (found : String)
  /-- The ranges of a loop are neither a text nor a list. -/
  | rangesKind (found : String)
  /-- A text has an odd number of back-ticks. -/
  | unbalanced (text : String)
  /-- Only blanks stand between two back-ticks. -/
  | emptyExpression (text : String)
  deriving Repr, DecidableEq, Inhabited

/-- The text of a cause. -/
def TemplateCause.message : TemplateCause → String
  | .wrongKind expected found => "expected " ++ expected ++ ", found " ++ found
  | .conditionKind found => "\x60if\x60 must be a string, found " ++ found
  | .descriptorKind found => "range descriptor must be a string, found " ++ found
  | .rangesKind found =>
    "\x60for\x60 must be a string or an array of strings, found " ++ found
  | .unbalanced text => "unbalanced back-tick in " ++ Text.quoted text
  | .emptyExpression text => "empty expression in " ++ Text.quoted text

/-- A cause and the path to the value that it is about. -/
structure TemplateError where
  /-- The keys and indexes that lead to the value. -/
  path : String
  /-- What is wrong with it. -/
  cause : TemplateCause
  deriving Repr, DecidableEq, Inhabited

/-- What the kind of a value is called. -/
def Json.kindName : Json → String
  | .null => "null"
  | .bool _ => "a boolean"
  | .number _ => "a number"
  | .string _ => "a string"
  | .array _ => "an array"
  | .object _ => "an object"

/-- The path to a field. -/
def fieldPath (path key : String) : String := path ++ "." ++ key

/-- The path to an element. -/
def itemPath (path : String) (index : Nat) : String := path ++ "[" ++ toString index ++ "]"

/-- The path to the value itself. -/
def rootPath : String := "$"

/-- The key that repeats an element. -/
def forKey : String := "for"

/-- The key that an element is kept on. -/
def ifKey : String := "if"

/-! ### Texts -/

/-- The segments of the pieces between back-ticks, which are text and expressions by turns. Empty
pieces of text are left out. -/
def TextTemplate.segments : (isExpression : Bool) → List String → List Segment
  | _, [] => []
  | true, piece :: pieces => .expression piece :: segments false pieces
  | false, piece :: pieces =>
    if piece.isEmpty then segments true pieces else .literal piece :: segments true pieces

/-- The expressions among the pieces between back-ticks. -/
def TextTemplate.expressions : (isExpression : Bool) → List String → List String
  | _, [] => []
  | true, piece :: pieces => piece :: expressions false pieces
  | false, _ :: pieces => expressions true pieces

/-- The template of the pieces between back-ticks, of which there is an odd number. -/
def TextTemplate.ofPieces (pieces : List String) : TextTemplate :=
  match pieces with
  | [piece] => .literal piece
  | [before, expr, after] =>
    if before.isEmpty && after.isEmpty then .expression expr
    else .interpolated (segments false [before, expr, after])
  | pieces => .interpolated (segments false pieces)

/-- The template of a text, or what is wrong with it. -/
def TextTemplate.compile (text : String) : Except TemplateCause TextTemplate :=
  let pieces := Text.pieces '\x60' text
  if pieces.length % 2 = 0 then .error (.unbalanced text)
  else if (expressions false pieces).any Text.isAllBlank then .error (.emptyExpression text)
  else .ok (ofPieces pieces)

/-! ### Keys of elements -/

/-- The text of a condition or range, which may stand between back-ticks. -/
def stripTicks (s : String) : String :=
  let trimmed := Text.trimChars s.toList
  match trimmed with
  | '\x60' :: rest =>
    if rest.getLast? = some '\x60' then String.ofList rest.dropLast else String.ofList trimmed
  | trimmed => String.ofList trimmed

/-- The condition of an element. -/
def compileCondition (path : String) (fields : List (String × Json)) :
    Except TemplateError (Option String) :=
  match Named.get? ifKey fields with
  | none => .ok none
  | some (.string expr) => .ok (some (stripTicks expr))
  | some other => .error ⟨fieldPath path ifKey, .conditionKind other.kindName⟩

/-- The range descriptors in a list. -/
def compileDescriptors (path : String) (index : Nat) :
    List Json → Except TemplateError (List String)
  | [] => .ok []
  | .string s :: vs => do
    return stripTicks s :: (← compileDescriptors path (index + 1) vs)
  | v :: _ => .error ⟨itemPath (fieldPath path forKey) index, .descriptorKind v.kindName⟩

/-- The ranges of an element. -/
def compileRanges (path : String) (fields : List (String × Json)) :
    Except TemplateError (Option (List String)) :=
  match Named.get? forKey fields with
  | none => .ok none
  | some (.string s) => .ok (some [stripTicks s])
  | some (.array vs) => (compileDescriptors path 0 vs).map some
  | some other => .error ⟨fieldPath path forKey, .rangesKind other.kindName⟩

/-- The element with a body that may be repeated or kept on a condition. -/
def Template.Item.make (ranges : Option (List String)) (condition : Option String)
    (body : ObjectTemplate) : Template.Item :=
  match ranges, condition with
  | some ranges, condition => .loop ranges condition body
  | none, some condition => .conditional condition body
  | none, none => .plain (.object body)

/-! ### Values -/

mutual

/-- The template of the value at a path. -/
def compileValue (path : String) : Json → Except TemplateError Template
  | .null => .ok .null
  | .bool b => .ok (.bool b)
  | .number n => .ok (.number n)
  | .string s =>
    match TextTemplate.compile s with
    | .ok template => .ok (.text template)
    | .error cause => .error ⟨path, cause⟩
  | .array items => (compileItems path 0 items).map .array
  | .object fields => (compileFields path fields).map .object

/-- The templates of the fields of an object, without the keys `for` and `if`. -/
def compileFields (path : String) : List (String × Json) → Except TemplateError ObjectTemplate
  | [] => .ok []
  | (key, value) :: fields =>
    if key = forKey || key = ifKey then compileFields path fields
    else do
      let template ← compileValue (fieldPath path key) value
      return (key, template) :: (← compileFields path fields)

/-- The templates of the elements of an array, from the one with the given index on. -/
def compileItems (path : String) (index : Nat) :
    List Json → Except TemplateError (List Template.Item)
  | [] => .ok []
  | value :: values => do
    let item ←
      match value with
      | .object fields => do
        let condition ← compileCondition (itemPath path index) fields
        let ranges ← compileRanges (itemPath path index) fields
        let body ← compileFields (itemPath path index) fields
        pure (Template.Item.make ranges condition body)
      | value => (compileValue (itemPath path index) value).map Template.Item.plain
    return item :: (← compileItems path (index + 1) values)

end

/-- The template of a value. -/
def Template.compile (v : Json) : Except TemplateError Template := compileValue rootPath v

/-- The template of an object; other values are refused. -/
def Template.compileObject : Json → Except TemplateError ObjectTemplate
  | .object fields => compileFields rootPath fields
  | v => .error ⟨rootPath, .wrongKind "an object" v.kindName⟩

/-- The templates of the elements of an array; other values are refused. -/
def Template.compileArray : Json → Except TemplateError (List Template.Item)
  | .array items => compileItems rootPath 0 items
  | v => .error ⟨rootPath, .wrongKind "an array" v.kindName⟩

end OpticScene
