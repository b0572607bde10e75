import OpticScene.Json.Printer
import OpticScene.Geometry

/-!
# Reading records

A record is a JSON object with known fields, or the list of its fields in order. The fields that are
there are read in the order in which they stand, unknown ones are ignored, and a required field that
is missing is reported last.

## Main definitions

* `Record.Cause`: what is wrong with a value that is no such record.
* `Record.Decoder`: reading a value of one kind.
* `Record.Shape`, `Record.Shape.read`: the fields of a record, and reading them.
* `Record.Fields.required`, `Record.Fields.optional`: taking one field of a record that was read.
-/

namespace OpticScene.Record

/-- What is wrong with a value. -/
inductive Cause where
  /-- A field is missing. -/
  | missing (field : String)
  /-- A value of another type stands there. -/
  | wrongType (found expected : String)
  /-- A number is out of range. -/
  | wrongValue (found expected : String)
  /-- A list has too few or too many elements. -/
  | wrongLength (length : Nat) (expected : String)
  deriving Repr, DecidableEq, Inhabited

/-- The text of a cause. -/
def Cause.message : Cause → String
  | .missing field => "missing field \x60" ++ field ++ "\x60"
  | .wrongType found expected => "invalid type: " ++ found ++ ", expected " ++ expected
  | .wrongValue found expected => "invalid value: " ++ found ++ ", expected " ++ expected
  | .wrongLength length expected =>
    "invalid length " ++ toString length ++ ", expected " ++ expected

/-- What a value is called in a message about another type. -/
def found : Json → String
  | .null => "null"
  | .bool b => "boolean \x60" ++ (if b then "true" else "false") ++ "\x60"
  | .number (.int n) => "integer \x60" ++ toString n ++ "\x60"
  | .number (.float x) => "floating point \x60" ++ (Json.Number.float x).write ++ "\x60"
  | .string s => "string " ++ Text.quoted s
  | .array _ => "sequence"
  | .object _ => "map"

/-! ### Decoders -/

/-- Reads a value of one kind. -/
abbrev Decoder (α : Type) := Json → Except Cause α

/-- The error about a value of another type. -/
def wrongType (v : Json) (expected : String) : Except Cause α :=
  .error (.wrongType (found v) expected)

/-- A number. -/
def float : Decoder Float
  | .number n => .ok n.toFloat
  | v => wrongType v "f64"

/-- A text. -/
def text : Decoder String
  | .string s => .ok s
  | v => wrongType v "a string"

/-- A truth value. -/
def truth : Decoder Bool
  | .bool b => .ok b
  | v => wrongType v "a boolean"

/-- A whole number that is not negative; `expected` is what such numbers are called. -/
def natural (expected : String) : Decoder Nat
  | .number (.int n) =>
    if n < 0 then .error (.wrongValue (found (.ofInt n)) expected) else .ok n.toNat
  | v => wrongType v expected

/-- Any value. -/
def anything : Decoder Json := .ok

/-- A value that may be absent. -/
def option (decode : Decoder α) : Decoder (Option α)
  | .null => .ok none
  | v => (decode v).map some

/-- A list. -/
def list (decode : Decoder α) : Decoder (List α)
  | .array items => items.mapM decode
  | v => wrongType v "a sequence"

/-- Named values. -/
def named (decode : Decoder α) : Decoder (List (String × α))
  | .object fields => fields.mapM fun (k, v) => return (k, ← decode v)
  | v => wrongType v "a map"

/-! ### Shapes -/

/-- A field of a record. -/
structure Field where
  /-- Its name. -/
  name : String
  /-- Whether it may not be missing. -/
  isRequired : Bool
  /-- Whether a value may stand there. -/
  check : Json → Except Cause Unit

/-- A field that has to be there. -/
def Field.required (name : String) (decode : Decoder α) : Field :=
  ⟨name, true, fun v => (decode v).map fun _ => ()⟩

/-- A field that may be missing. -/
def Field.optional (name : String) (decode : Decoder α) : Field :=
  ⟨name, false, fun v => (decode v).map fun _ => ()⟩

/-- The fields of a kind of record. -/
structure Shape where
  /-- What such records are called. -/
  name : String
  /-- Their fields in order. -/
  fields : List Field

/-- The fields of a record that were given. -/
abbrev Fields := Named Json

/-- Checks given fields one after the other. -/
def Shape.checkGiven (shape : Shape) : Fields → Except Cause Unit
  | [] => .ok ()
  | (k, v) :: given => do
    match shape.fields.find? fun field => field.name = k with
    | some field => field.check v
    | none => pure ()
    shape.checkGiven given

/-- Checks that no required field is missing. -/
def checkMissing (given : Fields) : List Field → Except Cause Unit
  | [] => .ok ()
  | field :: fields =>
    if field.isRequired && (Named.get? field.name given).isNone then
      .error (.missing field.name)
    else checkMissing given fields

/-- What a list of the fields of a record is called. -/
def Shape.listName (shape : Shape) : String :=
  let count := shape.fields.length
  "struct " ++ shape.name ++ " with " ++ toString count ++
    (if count = 1 then " element" else " elements")

/-- Names the elements of a list by the fields in order. `index` is the number of elements before
them, and `total` that of all elements. -/
def Shape.nameElements (shape : Shape) (total index : Nat) :
    List Field → List Json → Except Cause Fields
  | [], [] => .ok []
  | [], _ :: _ => .error (.wrongLength total "fewer elements in array")
  | field :: fields, [] =>
    if field.isRequired then .error (.wrongLength index shape.listName)
    else shape.nameElements total (index + 1) fields []
  | field :: fields, v :: vs => do
    field.check v
    return (field.name, v) :: (← shape.nameElements total (index + 1) fields vs)

/-- The fields of a record, all of them checked. -/
def Shape.read (shape : Shape) : Json → Except Cause Fields
  | .object given => do
    shape.checkGiven given
    checkMissing given shape.fields
    return given
  | .array items => shape.nameElements items.length 0 shape.fields items
  | v => wrongType v ("struct " ++ shape.name)

/-- A field that has to be there. -/
def Fields.required (fields : Fields) (name : String) (decode : Decoder α) : Except Cause α :=
  match Named.get? name fields with
  | some v => decode v
  | none => .error (.missing name)

/-- A field that may be missing. -/
def Fields.optional (fields : Fields) (name : String) (decode : Decoder α) (default : α) :
    Except Cause α :=
  match Named.get? name fields with
  | some v => decode v
  | none => .ok default

/-! ### Points -/

/-- The shape of points. -/
def pointShape : Shape := ⟨"Point", [.required "x" float, .required "y" float]⟩

/-- A point. -/
def point : Decoder Point := fun v => do
  let fields ← pointShape.read v
  return ⟨← fields.required "x" float, ← fields.required "y" float⟩

/-- The record of a point. -/
def ofPoint (p : Point) : Json := .object [("x", .ofFloat p.x), ("y", .ofFloat p.y)]

/-- The field of a record that names its type. -/
def typeKey : String := "type"

/-- A record with its type in front. -/
def tagged (tag : String) (fields : Fields) : Json :=
  .object ((typeKey, .string tag) :: fields)

end OpticScene.Record
