import OpticScene.Expr.Operators

/-!
# Functions of object maps

What the functions of expressions do with object maps, and how such a map is written as JSON.

## Main definitions

* `Expr.Value.jsonText`: a value as it stands in JSON.
* `Expr.mapCall`: the functions that look at a map.
* `Expr.mapChange?`: the functions that change one.

## Implementation notes

`filter`, `drain` and `retain`, which apply another function to every field, are left out for maps.
-/

namespace OpticScene.Expr

/-- A character between single quotes. -/
def quotedCharacter (c : Char) : String :=
  let inner :=
    if c = '\'' then "\\'" else if c = '"' then "\"" else Text.quotedChar c
  "'" ++ inner ++ "'"

mutual

/-- A value inside a JSON text, without blanks. -/
def Value.jsonText : Value → String
  | .unit => "null"
  | .character c => quotedCharacter c
  | .array items => "[" ++ ",".intercalate (jsonItems items) ++ "]"
  | .map fields => "\x7b" ++ ",".intercalate (jsonFields fields) ++ "\x7d"
  | v => v.nested

/-- The items of an array inside a JSON text. -/
def jsonItems : List Value → List String
  | [] => []
  | v :: vs => v.jsonText :: jsonItems vs

/-- The fields of a map inside a JSON text. -/
def jsonFields : List (String × Value) → List String
  | [] => []
  | (k, v) :: fields => (Text.quoted k ++ ":" ++ v.jsonText) :: jsonFields fields

end

/-- The functions of a map and further arguments that do not change it. -/
def mapCall (name : String) (fields : List (String × Value)) : List Value → Outcome
  | [] =>
    match name with
    | "len" => .value (.int fields.length)
    | "is_empty" => .value (.truth fields.isEmpty)
    | "keys" => .value (.array (fields.map fun (k, _) => .text k))
    | "values" => .value (.array (fields.map fun (_, v) => v))
    | "to_json" => .value (.text (Value.map fields).jsonText)
    | _ => none
  | [.text k] =>
    match name with
    | "contains" => .value (.truth (Named.contains k fields))
    | "get" => .value ((Named.get? k fields).getD .unit)
    | _ => none
  | _ => none

/-- The functions that change a map, with their values. -/
def mapChange? (name : String) (fields : List (String × Value)) (arguments : List Value) :
    Option (Value × List (String × Value)) :=
  match name, arguments with
  | "set", [.text k, v] => some (.unit, Value.insertField k v fields)
  | "remove", [.text k] =>
    some ((Named.get? k fields).getD .unit, fields.filter fun field => field.1 ≠ k)
  | "clear", [] => some (.unit, [])
  | "mixin", [.map others] => some (.unit, mergeFields fields others)
  | "fill_with", [.map others] => some (.unit, mergeFields others fields)
  | _, _ => none

end OpticScene.Expr
