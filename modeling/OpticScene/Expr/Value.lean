import OpticScene.Expr.Error
import OpticScene.Json.Basic
import OpticScene.Text.Quoted

/-!
# Values of expressions

The values that expressions are evaluated to, how they are written inside a text, and how they are
exchanged with JSON values. A JSON number always becomes a double, and an object becomes a map whose
keys are in increasing order.

## Main definitions

* `Expr.Value`: the values.
* `Expr.Value.display`: a value inside a text.
* `Expr.Value.ofJson`, `Expr.Value.toJson`: the exchange with JSON values.
* `Expr.Value.size`, `Expr.Value.Size.excess?`: how much a value holds, and what is too much.
* `Expr.placeIn?`, `Expr.offsetIn`: places in a list that may be counted from its end.
-/

namespace OpticScene.Expr

/-- Parts of a value that only a loop takes one after the other. There are no loops inside an
expression, so that a series is told by its kind. -/
inductive Series where
  /-- Bytes. -/
  | bytes
  /-- The bits of an integer. -/
  | bits
  /-- The characters of a text. -/
  | characters
  /-- Integers at equal distances. -/
  | integers
  /-- Doubles at equal distances. -/
  | doubles
  deriving Repr, DecidableEq, Inhabited

/-- What the type of a series is called. -/
def Series.typeName : Series → String
  | .bytes => "blob"
  | .bits => "rhai::packages::iter_basic::BitRange"
  | .characters => "rhai::packages::iter_basic::CharsStream"
  | .integers => "rhai::packages::iter_basic::StepRange<i64>"
  | .doubles => "rhai::packages::iter_basic::StepRange<f64>"

/-- A value of an expression. -/
inductive Value where
  /-- `()`. -/
  | unit
  /-- A truth value. -/
  | truth (value : Bool)
  /-- An integer that fits into a signed word of 64 bits. -/
  | int (value : Int)
  /-- A double. -/
  | float (value : Float)
  /-- A character. -/
  | character (value : Char)
  /-- A text. -/
  | text (value : String)
  /-- A list of values. -/
  | array (items : List Value)
  /-- Named values; the names increase. -/
  | map (fields : List (String × Value))
  /-- The integers from `start` to `stop`, the last one included when `closed` holds. -/
  | range (start stop : Int) (closed : Bool)
  /-- A series. -/
  | series (kind : Series)
  /-- A function by its name, with values for its first arguments. -/
  | function (name : String) (bound : List Value)
  deriving Repr, Inhabited

namespace Value

/-- What the type of a value is called. -/
def typeName : Value → String
  | unit => "()"
  | truth _ => "bool"
  | int _ => "i64"
  | float _ => "f64"
  | character _ => "char"
  | text _ => "string"
  | array _ => "array"
  | map _ => "map"
  | range _ _ closed => if closed then "range=" else "range"
  | series kind => kind.typeName
  | function _ _ => "Fn"

/-- What the type of a value is called among the arguments of a function. -/
def argumentType : Value → String
  | text _ => "&str | ImmutableString | String"
  | v => v.typeName

/-- What the type of a value is called when it fits no result, condition or index. -/
def exactType : Value → String
  | range _ _ closed =>
    if closed then "core::ops::range::RangeInclusive<i64>" else "core::ops::range::Range<i64>"
  | v => v.typeName

/-- Numbers inside arrays and maps have an exponent when they are very large or very small, and zero
keeps its sign. -/
def itemStyle : Decimal.Style where
  tie := .up
  isPositional := fun x => 1e-5 ≤ x && x < 1e16
  fraction := true
  plus := false
  signedZero := true

/-- Two integers around the sign of a range. The largest integer is left out at the end: a range up
to it is one without an end. -/
def rangeText (start stop : Int) (closed : Bool) : String :=
  toString start ++ (if closed then "..=" else "..") ++
    (if stop = maxInt then "" else toString stop)

mutual

/-- A value inside an array or map: a text stands between quotes. -/
def nested : Value → String
  | unit => "()"
  | truth b => if b then "true" else "false"
  | int n => toString n
  | float x => itemStyle.write x
  | character c => c.toString
  | text s => Text.quoted s
  | array items => "[" ++ ", ".intercalate (nestedItems items) ++ "]"
  | map fields => "#\x7b" ++ ", ".intercalate (nestedFields fields) ++ "\x7d"
  | range start stop closed => rangeText start stop closed
  | series kind => kind.typeName
  | function name _ => "Fn(" ++ name ++ ")"

/-- The items of an array inside a text. -/
def nestedItems : List Value → List String
  | [] => []
  | v :: vs => nested v :: nestedItems vs

/-- The fields of a map inside a text. -/
def nestedFields : List (String × Value) → List String
  | [] => []
  | (k, v) :: fields => (Text.quoted k ++ ": " ++ nested v) :: nestedFields fields

end

/-- A value inside a text: a text stands for itself, and `()` for nothing. -/
def display : Value → String
  | unit => ""
  | text s => s
  | float x => numberStyle.write x
  | v => v.nested

/-! ### Maps -/

/-- Gives the name `k` a value, keeping the names in increasing order. -/
def insertField (k : String) (v : Value) : List (String × Value) → List (String × Value)
  | [] => [(k, v)]
  | (k', v') :: fields =>
    if k < k' then (k, v) :: (k', v') :: fields
    else if k = k' then (k, v) :: fields
    else (k', v') :: insertField k v fields

/-! ### JSON values -/

mutual

/-- A JSON value as a value of expressions. -/
def ofJson : Json → Value
  | .null => unit
  | .bool b => truth b
  | .number n => float n.toFloat
  | .string s => text s
  | .array items => array (ofItems items)
  | .object fields => map (ofFields fields)

/-- The items of a JSON array as values of expressions. -/
def ofItems : List Json → List Value
  | [] => []
  | v :: vs => ofJson v :: ofItems vs

/-- The fields of a JSON object as fields of a map. Of two fields with one name the last one
counts. -/
def ofFields : List (String × Json) → List (String × Value)
  | [] => []
  | (k, v) :: fields =>
    let others := ofFields fields
    if Named.contains k others then others else insertField k (ofJson v) others

end

/-- Why a value is no JSON value. -/
inductive ResultError where
  /-- A number is not finite. -/
  | notFinite (value : Float)
  /-- JSON has no values of this type. -/
  | unsupported (type : String)
  deriving Repr, Inhabited

/-- The text of the reason. -/
def ResultError.message : ResultError → String
  | .notFinite x => "result is not a finite number (" ++ Decimal.plain.write x ++ ")"
  | .unsupported type => "unsupported result type " ++ type

mutual

/-- A value of expressions as a JSON value. An integer gives the signed word of 64 bits that it
is. -/
def toJson : Value → Except ResultError Json
  | unit => .ok .null
  | truth b => .ok (.bool b)
  | int n => .ok (.ofInt (n.bmod (2 ^ 64)))
  | float x => if x.isFinite then .ok (.number (.float x)) else .error (.notFinite x)
  | text s => .ok (.string s)
  | array items => (toItems items).map .array
  | map fields => (toFields fields).map .object
  | v => .error (.unsupported v.exactType)

/-- The items of an array as JSON values. -/
def toItems : List Value → Except ResultError (List Json)
  | [] => .ok []
  | v :: vs => do
    let item ← toJson v
    return item :: (← toItems vs)

/-- The fields of a map as fields of a JSON object. -/
def toFields : List (String × Value) → Except ResultError (List (String × Json))
  | [] => .ok []
  | (k, v) :: fields => do
    let value ← toJson v
    return (k, value) :: (← toFields fields)

end

/-! ### Sizes -/

/-- How much a value holds. -/
structure Size where
  /-- The bytes of its texts. -/
  bytes : Nat
  /-- The items of its arrays. -/
  items : Nat
  /-- The fields of its maps. -/
  fields : Nat
  deriving Repr, DecidableEq, Inhabited

/-- Nothing. -/
def Size.none : Size := ⟨0, 0, 0⟩

/-- Both together. -/
def Size.add (a b : Size) : Size := ⟨a.bytes + b.bytes, a.items + b.items, a.fields + b.fields⟩

/-- What is too large about a value, if anything is. -/
def Size.excess? (s : Size) : Option ValueCause :=
  if maxTextBytes < s.bytes then some (.tooLarge "Length of string")
  else if maxItems < s.items then some (.tooLarge "Size of array/BLOB")
  else if maxFields < s.fields then some (.tooLarge "Size of object map")
  else Option.none

mutual

/-- How much a value holds, together with everything inside it. -/
def size : Value → Size
  | text s => ⟨s.utf8ByteSize, 0, 0⟩
  | array items => sizeOfItems items
  | map fields => sizeOfFields fields
  | _ => .none

/-- How much the items of an array hold, and their number. -/
def sizeOfItems : List Value → Size
  | [] => .none
  | v :: vs => ((size v).add ⟨0, 1, 0⟩).add (sizeOfItems vs)

/-- How much the fields of a map hold, and their number. -/
def sizeOfFields : List (String × Value) → Size
  | [] => .none
  | (_, v) :: fields => ((size v).add ⟨0, 0, 1⟩).add (sizeOfFields fields)

end

end Value

/-! ### Places in lists -/

/-- A place in a list of `length` items, counted from the end if it is negative. -/
def placeIn? (length : Nat) (n : Int) : Option Nat :=
  let n := if n < 0 then length + n else n
  if 0 ≤ n && n < length then some n.toNat else none

/-- The number of items before a place that is counted from the end if it is negative; places
outside the list are moved to its ends. -/
def offsetIn (length : Nat) (n : Int) : Nat :=
  if n < 0 then (length + n).toNat else min n.toNat length

/-- The first item of a part of a list and the number of its items, which is at most `count`. -/
def partOf (length : Nat) (start count : Int) : Nat × Nat :=
  let first := offsetIn length start
  (first, min count.toNat (length - first))

/-- The start of a range and the number of integers in it, when negative ends count as zero. -/
def Value.startAndCount? : Value → Option (Int × Int)
  | .range start stop closed =>
    let start := max start 0
    some (start, max stop start - start + if closed then 1 else 0)
  | _ => none

end OpticScene.Expr
