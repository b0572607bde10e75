import OpticScene.Expansion.Error

/-!
# Expanding templates

A template is expanded in bindings: expressions are replaced by their values, loops by one object
for each choice of their variables, and conditions decide what is kept. The expansion stops at the
first error, which tells where it happened.

## Main definitions

* `Expansion.expand`, `Expansion.expandFields`, `Expansion.expandItems`: the expansion of a template
  of each kind.
* `Expansion.axes`: the variables of a loop with their values, if there are not too many.
* `Expansion.expandSequential`: the expansion of fields that may use those before them.
-/

namespace OpticScene

namespace Expansion

open OpticScene.Random (Draws)

/-- The largest number of steps of a loop where nothing else is said. -/
def defaultMaxLoop : Nat := 1000

/-! ### Texts -/

/-- The text of segments: each expression is evaluated once, from left to right. -/
def expandSegments (b : Bindings) : List Segment → Draws ExpansionError String
  | [] => return ""
  | .literal s :: segments => do return s ++ (← expandSegments b segments)
  | .expression expr :: segments => do
    let v ← (Expression.evaluate b expr).adapt .evaluate
    return v.interpolated ++ (← expandSegments b segments)

/-- The value of a text with expressions. -/
def expandText (b : Bindings) : TextTemplate → Draws ExpansionError Json
  | .literal s => return .string s
  | .expression expr => (Expression.evaluate b expr).adapt .evaluate
  | .interpolated segments => do return .string (← expandSegments b segments)

/-! ### Loops -/

/-- The ranges of a loop. All of them are evaluated with the bindings around the loop. -/
def parseRanges (b : Bindings) : List String → Draws ExpansionError (List Range)
  | [] => return []
  | descriptor :: descriptors => do
    let range ← (Range.parse b descriptor).adapt .range
    return range :: (← parseRanges b descriptors)

/-- Checks that no range has more values than `limit`, and that `total` times the number of values
of all ranges is not above it either. -/
def checkTotal (limit : Nat) : (total : Nat) → List Range → Except LoopTooLarge Unit
  | _, [] => .ok ()
  | total, range :: ranges =>
    let count := range.countUpTo limit
    if limit < count then .error ⟨range.name, count, limit⟩
    else
      let total := min (total * count) Range.maxCount
      if limit < total then .error ⟨range.name, total, limit⟩
      else checkTotal limit total ranges

/-- A variable of a loop and the values it runs through. -/
abbrev Axis := String × List Float

/-- The variables of a loop with at most `limit` steps. Values are taken no further than one beyond
the limit, and no further than steps can be counted. Below the largest count this cuts nothing off,
since the check has found that no range has more values than `limit`. A limit that is itself the
largest count refuses nothing: collecting all values of a range without an end would then go on
forever, and here they are cut off at that count. -/
def axes (limit : Nat) (b : Bindings) (descriptors : List String) :
    Draws ExpansionError (List Axis) := do
  let ranges ← parseRanges b descriptors
  (checkTotal limit 1 ranges).mapError ExpansionError.loop
  return ranges.map fun range => (range.name, range.first (min (limit + 1) Range.maxCount))

/-- What `f` gives for each of some values, in order. -/
def collect (f : α → Draws ε (List β)) : List α → Draws ε (List β)
  | [] => return []
  | a :: as => do
    let bs ← f a
    return bs ++ (← collect f as)

/-- What `body` gives for each choice of a value for every variable. The first variable changes
last; each one is bound in a layer of its own. -/
def product (body : Bindings → Draws ε (List β)) : Bindings → List Axis → Draws ε (List β)
  | b, [] => body b
  | b, (name, values) :: rest =>
    collect (fun x => product body (b.nested.insert name (.ofFloat x)) rest) values

/-- The truth of an optional condition; an absent one holds. -/
def holds (b : Bindings) : Option String → Draws ExpansionError Bool
  | none => return true
  | some condition => (Expression.condition b condition).adapt .evaluate

/-- Puts the place of an element around an error. -/
def inElement (index : Nat) (b : Bindings) (x : Draws ExpansionError α) : Draws ExpansionError α :=
  x.adapt (.within ("element [" ++ toString index ++ "]") b)

/-- Puts the place of a field around an error. -/
def inField (key : String) (b : Bindings) (x : Draws ExpansionError α) : Draws ExpansionError α :=
  x.adapt (.within ("field \x60" ++ key ++ "\x60") b)

/-! ### Templates -/

mutual

/-- The value of a template. -/
def expand (limit : Nat) (b : Bindings) : Template → Draws ExpansionError Json
  | .text template => expandText b template
  | .number n => return .number n
  | .bool v => return .bool v
  | .null => return .null
  | .object fields => do return .object (← expandFields limit b fields)
  | .array items => do return .array (← expandItems limit b 0 items)

/-- The values of named templates. -/
def expandFields (limit : Nat) (b : Bindings) :
    ObjectTemplate → Draws ExpansionError (List (String × Json))
  | [] => return []
  | (key, template) :: fields => do
    let v ← inField key b (expand limit b template)
    return (key, v) :: (← expandFields limit b fields)

/-- The elements of an array, from the template with the given index on. -/
def expandItems (limit : Nat) (b : Bindings) (index : Nat) :
    List Template.Item → Draws ExpansionError (List Json)
  | [] => return []
  | item :: items => do
    let vs ← expandItem limit b index item
    return vs ++ (← expandItems limit b (index + 1) items)

/-- The elements that one template stands for. -/
def expandItem (limit : Nat) (b : Bindings) (index : Nat) :
    Template.Item → Draws ExpansionError (List Json)
  | .plain template => do return [← inElement index b (expand limit b template)]
  | .conditional condition body => inElement index b do
    if ← holds b (some condition) then return [.object (← expandFields limit b body)]
    else return []
  | .loop ranges condition body => do
    let axes ← inElement index b (axes limit b ranges)
    product (fun b => inElement index b do
      if ← holds b condition then return [.object (← expandFields limit b body)]
      else return []) b axes

end

/-- The bindings with a new layer in which each field is bound to its value. A field may use those
before it. -/
def expandSequentialFrom (limit : Nat) : Bindings → ObjectTemplate → Draws ExpansionError Bindings
  | b, [] => return b
  | b, (key, template) :: fields => do
    let v ← (expand limit b template).adapt (.within ("var \x60" ++ key ++ "\x60") b)
    expandSequentialFrom limit (b.insert key v) fields

/-- The values of fields in a new layer. -/
def expandSequential (limit : Nat) (b : Bindings) (fields : ObjectTemplate) :
    Draws ExpansionError Bindings := expandSequentialFrom limit b.nested fields

end Expansion

end OpticScene
