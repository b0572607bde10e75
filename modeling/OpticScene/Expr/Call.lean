import OpticScene.Expr.Functions
import OpticScene.Expr.JsonMap
import OpticScene.Random.Stream

/-!
# Calling functions

A function is called with values, of which the first one may stand in a variable or in another value
and may be changed there. Some functions of arrays apply another function to every item, and one
ends the whole evaluation.

## Main definitions

* `Expr.callPlain`: a function that applies no other one.
* `Expr.Callback`: a function that another one applies to items.
* `Expr.Stop`: why an evaluation ends early.
* `Expr.callFunction`: any function with arguments.
* `Expr.callFree`: a function whose arguments stand nowhere.

## Implementation notes

A call draws at most one number, changes at most its first argument and does nothing else: there is
no clock and no output, and no function is called from its own body, because expressions define
none. Arrays are sorted and freed of repeats by the order and equality of their items only; `sort`,
`dedup` and `order` with a function that compares items are left out.
-/

namespace OpticScene.Expr

open OpticScene.Random (Draws draw)

/-! ### Outcomes -/

/-- A value that is not too large. -/
def checkSize (p : Position) (v : Value) : Except Failure Value :=
  match v.size.excess? with
  | some cause => .error (.ofValue p cause)
  | none => .ok v

/-- The value of an operator or function that was used at a place with arguments. -/
def Outcome.at (p : Position) (name : String) (arguments : List Value) :
    Outcome → Except Failure Value
  | none => .error (.ofValue p (.functionNotFound name (arguments.map Value.argumentType)))
  | some (.error cause) => .error (.ofValue p cause)
  | some (.ok v) => checkSize p v

/-- Whether a function that changes nothing looks at its first argument in place, so that the size
of the argument is checked. -/
def looksInPlace (name : String) : Value → Bool
  | .array _ | .map _ => name ≠ "type_of" && name ≠ "is_shared"
  | _ => false

/-- A value that is too large where it stands. -/
def checkInPlace (inPlace : Bool) (p : Position) (v : Value) : Except Failure Unit :=
  if inPlace then (checkSize p v).map fun _ => () else .ok ()

/-! ### Functions that apply no other one -/

/-- The functions that have to be called with other arguments. -/
def keywords : List String := ["Fn", "eval", "call", "curry", "is_def_var", "is_def_fn"]

/-- A function applied to arguments at a place, of which the first one stands in a variable or part
of a value if `inPlace` holds. Also gives what the first argument becomes. -/
def callPlain (inPlace : Bool) (name : String) (v : Value) (others : List Value)
    (p : Position) : Except Failure (Value × Value) := do
  match change? name v others with
  | some (.error cause) => throw (.ofValue p cause)
  | some (.ok (w, v)) =>
    checkInPlace inPlace p v
    return (← checkSize p w, v)
  | none =>
    if keywords.contains name then throw (.ofValue p (.misused name))
    match name, v, others with
    | "parse_json", .text s, [] => return (← mapOfJson p s, v)
    | _, _, _ =>
      let outcome := applyFunction name (v :: others)
      if outcome.any (·.isOk) then checkInPlace (inPlace && looksInPlace name v) p v
      return (← outcome.at p name (v :: others), v)

/-! ### Functions applied by others -/

/-- A function with its first arguments that the function `caller` applies at a place. -/
structure Callback where
  /-- The name of the function. -/
  name : String
  /-- Its first arguments. -/
  bound : List Value
  /-- The function that applies it. -/
  caller : String
  /-- Where that one is called. -/
  place : Position

namespace Callback

/-- The arguments to try one after the other until the function takes some: an item where it
stands, in front of the bound arguments and `others`; a copy of it as the argument number `moved`
of `others`; and both once more with `extra` at the end. Each comes with whether the item is in
place. -/
def ways (f : Callback) (item : Value) (moved : Nat) (others : List Value) (extra : List Value) :
    List (Bool × List Value) :=
  let held (arguments : List Value) := (true, item :: (f.bound ++ arguments))
  let copied (arguments : List Value) := (false, f.bound ++ arguments)
  let withItem := others.insertIdx moved item
  [held others, copied withItem, held (others ++ extra), copied (withItem ++ extra)]

/-- The function applied to arguments, and what the item becomes. -/
def applyTo (f : Callback) (item : Value) : Bool × List Value → Except Failure (Value × Value)
  | (_, []) => .error (.ofValue f.place (.functionNotFound f.name []))
  | (held, v :: others) => do
    let (result, v) ← callPlain held f.name v others f.place
    return (result, if held then v else item)

/-- The function applied to the first arguments that it takes, and what the item becomes. -/
def applyToFirst (f : Callback) (item : Value) :
    List (Bool × List Value) → Except Failure (Value × Value)
  | [] => f.applyTo item (false, [])
  | [way] => f.applyTo item way
  | way :: ways =>
    match f.applyTo item way with
    | .ok result => .ok result
    | .error failure =>
      if failure.isFunctionNotFound then f.applyToFirst item ways else .error failure

/-- The function applied to an item and further arguments; `i` is the number of the item. -/
def onItem (f : Callback) (i : Nat) (item : Value) (moved : Nat) (others : List Value) :
    Except Failure (Value × Value) :=
  (f.applyToFirst item (f.ways item moved others [.int i])).mapError (.inCall f.caller f.place)

/-- The results for the items from number `i` on, each with what the item becomes. -/
def onItems (f : Callback) (i : Nat) : List Value → Except Failure (List (Value × Value))
  | [] => .ok []
  | v :: vs => do
    let first ← f.onItem i v 0 []
    return first :: (← f.onItems (i + 1) vs)

/-- The first item from number `i` on for whose result `stops` holds: its number and the result.
Also gives what the items become. -/
def search (f : Callback) (stops : Value → Bool) (i : Nat) :
    List Value → Except Failure (Option (Nat × Value) × List Value)
  | [] => .ok (none, [])
  | v :: vs => do
    let (result, v) ← f.onItem i v 0 []
    if stops result then return (some (i, result), v :: vs)
    else
      let (found, vs) ← f.search stops (i + 1) vs
      return (found, v :: vs)

/-- The items with their numbers, gathered into one value, and what the items become. -/
def fold (f : Callback) (before : Value) :
    List (Value × Nat) → Except Failure (Value × List Value)
  | [] => .ok (before, [])
  | (v, i) :: vs => do
    let (result, v) ← f.onItem i v 1 [before]
    let (result, vs) ← f.fold result vs
    return (result, v :: vs)

/-- The results for the items of two arrays with the same number, from number `i` on. -/
def pairUp (f : Callback) (i : Nat) : List Value → List Value → Except Failure (List Value)
  | v :: vs, w :: ws => do
    let pair := f.bound ++ [v, w]
    let (result, _) ←
      (f.applyToFirst v [(false, pair), (false, pair ++ [.int i])]).mapError
        (.inCall f.caller f.place)
    return result :: (← f.pairUp (i + 1) vs ws)
  | _, _ => .ok []

end Callback

/-- Whether a value is `true`. -/
def Value.isTrue : Value → Bool
  | truth b => b
  | _ => false

/-- The place where a search starts. -/
def startOf : List Value → Int
  | [.int n] => n
  | _ => 0

/-- The functions of an array that apply another function to its items: their values and what the
items become. -/
def arrayCallback? (name : String) (items : List Value) (g : String) (bound : List Value)
    (others : List Value) (p : Position) : Option (Except Failure (Value × List Value)) :=
  let f (caller : String) : Callback := ⟨g, bound, caller, p⟩
  let numbered := items.zipIdx
  let searchFrom (caller : String) (stops : Value → Bool) (start : Int) :
      Except Failure (Option (Nat × Value) × List Value) := do
    let first := offsetIn items.length start
    let (found, vs) ← (f caller).search stops first (items.drop first)
    return (found, items.take first ++ vs)
  match name, others with
  | "map", [] => some do
    let results ← (f name).onItems 0 items
    return (.array (results.map (·.1)), results.map (·.2))
  | "for_each", [] => some do
    let results ← (f "map").onItems 0 items
    return (.unit, results.map (·.2))
  | "filter", [] => some do
    let results ← (f name).onItems 0 items
    return (.array ((results.filter (·.1.isTrue)).map (·.2)), results.map (·.2))
  | "drain", [] => some do
    let (taken, left) := (← (f name).onItems 0 items).partition (·.1.isTrue)
    return (.array (taken.map (·.2)), left.map (·.2))
  | "retain", [] => some do
    let (left, taken) := (← (f name).onItems 0 items).partition (·.1.isTrue)
    return (.array (taken.map (·.2)), left.map (·.2))
  | "some", [] => some do
    let (found, items) ← searchFrom name Value.isTrue 0
    return (.truth found.isSome, items)
  | "all", [] => some do
    let (found, items) ← searchFrom name (!·.isTrue) 0
    return (.truth found.isNone, items)
  | "index_of", [] | "index_of", [.int _] => some do
    let (found, items) ← searchFrom name Value.isTrue (startOf others)
    return (.int ((found.map fun (i, _) => (i : Int)).getD (-1)), items)
  | "find", [] | "find", [.int _] => some do
    let (found, items) ← searchFrom "index_of" Value.isTrue (startOf others)
    return ((found.bind fun (i, _) => items[i]?).getD .unit, items)
  | "find_map", [] | "find_map", [.int _] => some do
    let (found, items) ← searchFrom name (! · matches .unit) (startOf others)
    return ((found.map (·.2)).getD .unit, items)
  | "reduce", [] => some ((f name).fold .unit numbered)
  | "reduce", [before] => some ((f name).fold before numbered)
  | "reduce_rev", [] => some do
    let (result, items) ← (f name).fold .unit numbered.reverse
    return (result, items.reverse)
  | "reduce_rev", [before] => some do
    let (result, items) ← (f name).fold before numbered.reverse
    return (result, items.reverse)
  | _, _ => none

/-- The functions that apply another function: their values and what the first argument
becomes. -/
def callback? (name : String) (v : Value) (others : List Value) (p : Position) :
    Option (Except Failure (Value × Value)) :=
  match name, v, others with
  | name, .array items, .function g bound :: others =>
    (arrayCallback? name items g bound others p).map fun outcome =>
      outcome.map fun (result, items) => (result, .array items)
  | "zip", .array items, [.array others, .function g bound] =>
    let f : Callback := ⟨g, bound, name, p⟩
    some ((f.pairUp 0 items others).map fun results => (.array results, v))
  | _, _, _ => none

/-! ### All functions -/

/-- Why an evaluation ends early. -/
inductive Stop where
  /-- It fails. -/
  | failure (failure : Failure)
  /-- The value has been found before the end. -/
  | exit (value : Value)
  deriving Inhabited

instance : MonadLift (Except Failure) (Except Stop) := ⟨Except.mapError .failure⟩

instance : MonadLift (Except Failure) (Draws Stop) :=
  ⟨fun x => ExceptT.mk (pure (x.mapError .failure))⟩

/-- A function applied to arguments at a place, of which the first one stands in a variable or part
of a value if `inPlace` holds. Also gives what the first argument becomes. -/
def callFunction (inPlace : Bool) (name : String) (v : Value) (others : List Value)
    (p : Position) : Except Stop (Value × Value) := do
  match callback? name v others p with
  | some outcome =>
    let (result, v) ← outcome
    checkInPlace inPlace p v
    return (← checkSize p result, v)
  | none =>
    if name = "exit" && others.isEmpty then throw (.exit v)
    callPlain inPlace name v others p

/-- A function without arguments. -/
def callAlone (name : String) (p : Position) : Draws Stop Value :=
  if name = "random" then do return .float (← draw)
  else if name = "exit" then throw (.exit .unit)
  else if keywords.contains name then throw (.failure (.ofValue p (.misused name)))
  else Outcome.at p name [] (applyFunction name [])

/-- A function applied to arguments that stand nowhere. -/
def callFree (name : String) (arguments : List Value) (p : Position) : Draws Stop Value :=
  match arguments with
  | [] => callAlone name p
  | v :: others => do return (← callFunction false name v others p).1

end OpticScene.Expr
