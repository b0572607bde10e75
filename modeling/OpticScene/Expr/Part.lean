import OpticScene.Expr.Call

/-!
# Parts of values

The items and properties of values. A part may be changed where it stands: an item of an array, a
field of a map, some characters of a text. The value is then another one with the changed part.

## Main definitions

* `Expr.Part`: a part of a value and how to put another one in its place.
* `Expr.indexPart`, `Expr.propertyPart`: the part at an index and the one with a name.
-/

namespace OpticScene.Expr

/-! ### Parts -/

/-- A part of a value: itself, whether it stands in place, and the value with another part. -/
structure Part where
  /-- The part. -/
  value : Value
  /-- Whether functions look at it where it stands. -/
  inPlace : Bool
  /-- The whole value when the part becomes another one. -/
  replace : Value → Value

/-- A part that is not changed in the whole. -/
def Part.copied (whole v : Value) : Part := ⟨v, false, fun _ => whole⟩

/-- A place in a text that starts or ends a part of it. -/
def textPlace? (length : Nat) (n : Int) : Option Nat :=
  if 0 ≤ n then some n.toNat else placeIn? length n

/-- The characters of a text in a range; a negative start or end is counted from the end. -/
def textPart? (s : String) (start stop : Int) (closed : Bool) : Except ValueCause Part :=
  match textPlace? s.length start with
  | none => .error (.textBounds start s.length)
  | some first =>
    let last := (textPlace? s.length stop).getD 0 + if closed then 1 else 0
    let count := last - first
    let part := String.ofList ((s.toList.drop first).take count)
    .ok ⟨.text part, false, fun v => .text (withPart s first count v.display)⟩

/-- The bits of an integer in a range. -/
def bitPart? (bits start stop : Int) (closed : Bool) : Except ValueCause Part := do
  let place (n : Int) : Except ValueCause Nat :=
    if n < 0 then throw (.bitBounds n) else bitPlace n
  let first ← place start
  let last ← place stop
  let count := last + (if closed then 1 else 0) - first
  let part :=
    if first + count = wordBits then bits.fdiv (2 ^ first) else bitsFrom bits first count
  return .copied (.int bits) (.int part)

/-- The item of a value at an index. `operator` is the place of the bracket, `p` that of the
index. -/
def indexPart (operator p : Position) (v item : Value) : Except Failure Part :=
  let wrongType (expected : String) : Except Failure Part :=
    .error (.ofValue p (.wrongType item.exactType expected))
  match v, item with
  | .array items, .int n =>
    match placeIn? items.length n with
    | some i => .ok ⟨items[i]?.getD .unit, true, fun w => .array (items.set i w)⟩
    | none => .error (.ofValue p (.arrayBounds n items.length))
  | .array _, _ => wrongType "i64"
  | .text s, .range start stop closed => (textPart? s start stop closed).mapError (.ofValue p)
  | .text s, .int n =>
    match charAt? s n with
    | some c =>
      .ok ⟨.character c, false, fun w =>
        match w with
        | .character d => .text (withCharAt s n d)
        | _ => v⟩
    | none => .error (.ofValue p (.textBounds n s.length))
  | .text _, _ => wrongType "i64"
  | .map fields, .text k =>
    match Named.get? k fields with
    | some w => .ok ⟨w, true, fun w => .map (Value.insertField k w fields)⟩
    | none => .ok (.copied v .unit)
  | .map _, _ => wrongType "string"
  | .int bits, .range start stop closed => (bitPart? bits start stop closed).mapError (.ofValue p)
  | .int bits, .int n =>
    match bitPlace n with
    | .ok i => .ok (.copied v (.truth (isBitSet bits i)))
    | .error cause => .error (.ofValue p cause)
  | .int _, _ => wrongType "i64"
  | v, item => .error (.ofValue operator (.notIndexable v.typeName item.typeName))

/-- The property of a value. `inPlace` tells whether the value stands in a variable or another
value. -/
def propertyPart (inPlace : Bool) (p : Position) (v : Value) (name : String) :
    Except Failure Part :=
  match v with
  | .map fields => indexPart p p (.map fields) (.text name)
  | v =>
    match property? name v with
    | none => .error (.ofValue p (.unknownProperty name v.typeName))
    | some outcome => do
      checkInPlace (inPlace && looksInPlace name v) p v
      return .copied v (← Outcome.at p name [v] (some outcome))

end OpticScene.Expr
