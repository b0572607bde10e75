import OpticScene.Expr.Operators

/-!
# Functions of arrays

What the functions of expressions do with arrays. Places are counted from the end if they are
negative.

## Main definitions

* `Expr.arrayCall`: the functions that look at an array.
* `Expr.arrayChange?`: the functions that change one.
* `Expr.sorted`: the items in order.
-/

namespace OpticScene.Expr

/-! ### Items -/

/-- The item at a place; places before the first one stand for it. -/
def itemAt? (items : List Value) (n : Int) : Option Value := items[offsetIn items.length n]?

/-- The place of the first item from `start` on that is equal to a value, or `-1`. -/
def placeOf (v : Value) (items : List Value) (start : Int) : Int :=
  let skipped := offsetIn items.length start
  match (items.drop skipped).findIdx? (·.same v) with
  | some i => skipped + i
  | none => -1

/-- The items without those that are equal to the item kept before them. -/
def withoutRepeats : List Value → List Value
  | [] => []
  | v :: vs =>
    match withoutRepeats vs with
    | [] => [v]
    | w :: ws => if v.same w then v :: ws else v :: w :: ws

/-- The items of a part of an array, those before it and those after it. -/
def partition (items : List Value) (start count : Int) : List Value × List Value × List Value :=
  let (first, count) := partOf items.length start count
  (items.take first, (items.drop first).take count, items.drop (first + count))

/-! ### Order -/

/-- The order of two values of one type; values of types without order all count as equal. -/
def orderOf : Value → Value → Ordering
  | .int m, .int n => compare m n
  | .float x, .float y => if x < y then .lt else if y < x then .gt else .eq
  | .text s, .text t => compareTexts s t
  | .character c, .character d => compare c.toNat d.toNat
  | .truth a, .truth b => compare a.toNat b.toNat
  | _, _ => .eq

/-- The items in order, or in the opposite order. Equal items stay in place, and items of different
types cannot be sorted. -/
def sorted (descending : Bool) (items : List Value) : Except ValueCause (List Value) :=
  let types := items.map Value.exactType
  if types.all fun type => some type == types.head? then
    .ok (items.mergeSort fun v w =>
      if descending then orderOf w v != .gt else orderOf v w != .gt)
  else .error .unsortable

/-! ### Functions that look at an array -/

/-- The functions of an array and further arguments that do not change it. -/
def arrayCall (name : String) (items : List Value) : List Value → Outcome
  | [] =>
    match name with
    | "len" => .value (.int items.length)
    | "is_empty" => .value (.truth items.isEmpty)
    | "order" => some ((sorted false items).map .array)
    | "order_desc" => some ((sorted true items).map .array)
    | _ => none
  | [.int n] =>
    match name with
    | "get" => .value ((itemAt? items n).getD .unit)
    | "extract" => .value (.array (items.drop (offsetIn items.length n)))
    | "contains" => .value (.truth (items.any (·.same (.int n))))
    | "index_of" => .value (.int (placeOf (.int n) items 0))
    | _ => none
  | [.int start, .int count] =>
    match name with
    | "extract" => .value (.array (partition items start count).2.1)
    | "index_of" => .value (.int (placeOf (.int start) items count))
    | _ => none
  | [v] =>
    match name with
    | "contains" => .value (.truth (items.any (·.same v)))
    | "index_of" => .value (.int (placeOf v items 0))
    | _ => none
  | [v, .int start] =>
    if name = "index_of" then .value (.int (placeOf v items start)) else none
  | _ => none

/-! ### Functions that change an array -/

/-- The array filled up to `length` items with a value, unless it gets too large. -/
def padItems (items : List Value) (length : Int) (v : Value) :
    Except ValueCause (Value × List Value) :=
  let missing := length.toNat - items.length
  let own := Value.sizeOfItems items
  let size : Value.Size :=
    ⟨own.bytes + missing * v.size.bytes, own.items + missing * (v.size.items + 1),
      own.fields + missing * v.size.fields⟩
  match if missing = 0 then none else size.excess? with
  | some cause => .error cause
  | none => .ok (.unit, items ++ List.replicate missing v)

/-- The items with others in place of a part of them. -/
def splice (items : List Value) (start count : Int) (others : List Value) : List Value :=
  let (before, _, after) := partition items start count
  before ++ others ++ after

/-- The functions that change an array, with their values. -/
def arrayChange? (name : String) (items : List Value) (arguments : List Value) :
    Option (Except ValueCause (Value × List Value)) :=
  let done (items : List Value) : Option (Except ValueCause (Value × List Value)) :=
    some (.ok (.unit, items))
  let taken (v : Option Value) (items : List Value) :
      Option (Except ValueCause (Value × List Value)) :=
    some (.ok (v.getD .unit, items))
  match name, arguments with
  | "push", [v] => done (items ++ [v])
  | "append", [.array others] => done (items ++ others)
  | "insert", [.int n, v] => done (items.insertIdx (offsetIn items.length n) v)
  | "set", [.int n, v] => done (items.set (offsetIn items.length n) v)
  | "pad", [.int n, v] => some (padItems items n v)
  | "pop", [] => taken items.getLast? items.dropLast
  | "shift", [] => taken items.head? items.tail
  | "remove", [.int n] =>
    match placeIn? items.length n with
    | some i => taken items[i]? (items.eraseIdx i)
    | none => taken none items
  | "clear", [] => done []
  | "truncate", [.int n] => done (items.take n.toNat)
  | "chop", [.int n] => done (items.drop (items.length - n.toNat))
  | "reverse", [] => done items.reverse
  | "dedup", [] => done (withoutRepeats items)
  | "sort", [] => some ((sorted false items).map fun items => (.unit, items))
  | "sort_desc", [] => some ((sorted true items).map fun items => (.unit, items))
  | "splice", [.int start, .int count, .array others] => done (splice items start count others)
  | "split", [.int n] =>
    let first := offsetIn items.length n
    taken (some (.array (items.drop first))) (items.take first)
  | "drain", [.int start, .int count] =>
    let (before, part, after) := partition items start count
    taken (some (.array part)) (before ++ after)
  | "retain", [.int start, .int count] =>
    let (before, part, after) := partition items start count
    if part.isEmpty then taken (some (.array [])) items
    else taken (some (.array (before ++ after))) part
  | _, _ => none

end OpticScene.Expr
