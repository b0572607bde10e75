import OpticScene.Expr.Part

/-!
# Chains

A chain leads from a value to a property or item of it or to the result of a method, and so on from
there. A method that changes the value in front of it changes it where it stands.

## Main definitions

* `Expr.Step`: a link of a chain whose index or arguments are known.
* `Expr.follow`: the value that the steps lead to.
-/

namespace OpticScene.Expr

open OpticScene.Random (Draws)

/-- A link of a chain whose index or arguments have been evaluated. -/
inductive Step where
  /-- A property. -/
  | property (optional : Bool) (name : String) (place : Position)
  /-- An item. -/
  | index (optional : Bool) (operator : Position) (item : Value) (place : Position)
  /-- A method. -/
  | method (optional : Bool) (name : String) (arguments : List Value) (place : Position)

/-- Whether a step passes `()` on. -/
def Step.isOptional : Step → Bool
  | .property optional .. => optional
  | .index optional .. => optional
  | .method optional .. => optional

/-- A method of a value, and what the value becomes. The method `call` runs a function: the value
itself, or the first argument with the value in front of the others. -/
def callMethod (inPlace : Bool) (name : String) (v : Value) (arguments : List Value)
    (p : Position) : Draws Stop (Value × Value) :=
  match name, v, arguments with
  | "call", .function f bound, arguments => do return (← callFree f (bound ++ arguments) p, v)
  | "call", v, .function f bound :: others => callFunction inPlace f v (bound ++ others) p
  | "call", v, [] => throw (.failure (.ofValue p (.wrongType v.exactType "Fn")))
  | "call", _, w :: _ => throw (.failure (.ofValue p (.wrongType w.exactType "Fn")))
  | "curry", .function f bound, arguments => return (.function f (bound ++ arguments), v)
  | "curry", v, _ => throw (.failure (.ofValue p (.wrongType v.exactType "Fn")))
  | name, v, arguments => callFunction inPlace name v arguments p

/-- The value that all steps lead to, and what the value in front becomes. An optional step on `()`
ends the chain with `()`. -/
def follow (inPlace : Bool) (v : Value) : List Step → Draws Stop (Value × Value)
  | [] => return (v, v)
  | step :: steps => do
    match step.isOptional, v with
    | true, .unit => return (.unit, v)
    | _, _ =>
      match step with
      | .method _ name arguments p => do
        let (w, v) ← callMethod inPlace name v arguments p
        return ((← follow false w steps).1, v)
      | .property _ name p => do
        let part ← propertyPart inPlace p v name
        let (result, w) ← follow part.inPlace part.value steps
        return (result, part.replace w)
      | .index _ operator item p => do
        let part ← indexPart operator p v item
        let (result, w) ← follow part.inPlace part.value steps
        return (result, part.replace w)

end OpticScene.Expr
