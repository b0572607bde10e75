import OpticScene.Expr.Functions.Number
import OpticScene.Expr.Functions.Text
import OpticScene.Expr.Functions.Array
import OpticScene.Expr.Functions.Map

/-!
# Functions

The functions that expressions may call. A function is chosen by its name and by the exact types of
its arguments. Some functions change their first argument.

## Main definitions

* `Expr.applyFunction`: the functions that change nothing.
* `Expr.change?`: the functions that change their first argument.
* `Expr.property?`: the functions that may be used as properties.

## Implementation notes

Not all functions of the language are here. A call of one that is left out fails as the call of an
unknown name does. Left out are

* `timestamp` and `elapsed`, which read a clock, and `sleep`, which waits;
* `print` and `debug`, which write a line beside the value that they give;
* the functions of a blob: like the other series, it is known by its kind only, so that its length
  and its bytes cannot be asked for;
* `set_tag`, so that the tag of every value is `0`.
-/

namespace OpticScene.Expr

/-! ### Ranges -/

/-- The functions of one range. -/
def rangeFunction (name : String) (start stop : Int) (closed : Bool) : Outcome :=
  match name with
  | "start" => .value (.int start)
  | "end" => .value (.int stop)
  | "is_inclusive" => .value (.truth closed)
  | "is_exclusive" => .value (.truth (!closed))
  | "is_empty" => .value (.truth (if closed then stop < start else stop ≤ start))
  | _ => none

/-- The functions of a range and further arguments. -/
def rangeCall (name : String) (start stop : Int) (closed : Bool) : List Value → Outcome
  | [] => rangeFunction name start stop closed
  | [.int n] =>
    match name with
    | "contains" => .value (.truth (start ≤ n && (if closed then n ≤ stop else n < stop)))
    | "range" => if closed then none else steps .integers (n = 0)
    | _ => none
  | _ => none

/-- The functions that take a range for a start and a count. -/
def spanFunctions : List String :=
  ["sub_string", "crop", "extract", "splice", "drain", "retain", "get_bits", "set_bits", "bits",
    "chars"]

/-- The arguments after the first one, in which a range in front may stand for a start and a
count. -/
def spread (name : String) : List Value → List Value
  | [] => []
  | v :: others =>
    match if spanFunctions.contains name then v.startAndCount? else none with
    | some (start, count) => .int start :: .int count :: others
    | none => v :: others

/-! ### All functions -/

/-- The functions that values of every type have. -/
def anyFunction (name : String) (v : Value) : Outcome :=
  match name with
  | "to_string" => .value (.text v.display)
  | "to_debug" => .value (.text v.nested)
  | "type_of" => .value (.text v.typeName)
  | "tag" => .value (.int 0)
  | "is_shared" => .value (.truth false)
  | _ => none

/-- A function of a value and further arguments that changes nothing. -/
def applyTo (name : String) (v : Value) (others : List Value) : Outcome :=
  let special : Outcome := if others.isEmpty then anyFunction name v else none
  special.or
    (match v with
    | .int n => intCall name n others
    | .float x => floatCall name x others
    | .text s => textCall name s others
    | .character c => characterCall name c others
    | .array items => arrayCall name items others
    | .map fields => mapCall name fields others
    | .range start stop closed => rangeCall name start stop closed others
    | .function f _ =>
      match name, others with
      | "name", [] => Outcome.value (.text f)
      | "is_anonymous", [] => Outcome.value (.truth false)
      | _, _ => none
    | _ => none)

/-- A function that changes nothing, applied to its arguments. -/
def applyFunction (name : String) : List Value → Outcome
  | [] =>
    match name with
    | "PI" => .value (.float pi)
    | "E" => .value (.float euler)
    | "blob" => .value (.series .bytes)
    | _ => none
  | v :: others => applyTo name v (spread name others)

/-- A function that changes its first argument: its value and what the argument becomes. -/
def change? (name : String) (v : Value) (others : List Value) :
    Option (Except ValueCause (Value × Value)) :=
  let others := spread name others
  match name, others with
  | "take", [] => some (.ok (v, .unit))
  | name, others =>
    match v with
    | .int n => (intChange? name n others).map fun r => r.map fun p => (p.1, .int p.2)
    | .text s => (textChange? name s others).map fun r => r.map fun p => (p.1, .text p.2)
    | .character c =>
      (characterChange? name c others).map fun p => .ok (p.1, .character p.2)
    | .array items => (arrayChange? name items others).map fun r => r.map fun p => (p.1, .array p.2)
    | .map fields => (mapChange? name fields others).map fun p => .ok (p.1, .map p.2)
    | _ => none

/-! ### Properties -/

/-- The functions that may be used as properties of a double. -/
def floatProperties : List String :=
  ["floor", "ceiling", "round", "int", "fraction", "is_nan", "is_finite", "is_infinite", "is_zero"]

/-- A property of a value; none if values of its type have no such property. -/
def property? (name : String) (v : Value) : Outcome :=
  let names :=
    match v with
    | .float _ => floatProperties
    | .int _ => ["is_odd", "is_even", "is_zero", "bits"]
    | .text _ => ["len", "bytes", "is_empty", "chars"]
    | .array _ => ["len", "is_empty"]
    | .range .. => ["start", "end", "is_inclusive", "is_exclusive", "is_empty"]
    | .function .. => ["name", "is_anonymous"]
    | _ => []
  if name = "tag" || names.contains name then applyTo name v [] else none

end OpticScene.Expr
