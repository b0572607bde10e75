import OpticScene.Json.Printer

/-!
# Bindings

The names that a template is expanded with. A nested scope is a new layer on top of those around it:
a name bound there hides the same name below, and nothing below changes.

## Main definitions

* `Bindings`: a stack of layers.
* `Bindings.insert`, `Bindings.nested`: binding a name, entering a scope.
* `Bindings.get?`: the value of a name, searched from the innermost layer outward.
* `Bindings.toList`, `Bindings.resolved`: all entries from the outermost layer inward, and one entry
  for each name.
-/

namespace OpticScene

/-- Named values in the order in which the names were first bound. -/
abbrev Layer := Named Json

/-- Layers of named values, the innermost one first. -/
structure Bindings where
  /-- The layer that names are bound in. -/
  innermost : Layer
  /-- The layers around it, from the inside out. -/
  outer : List Layer
  deriving Repr, Inhabited

namespace Bindings

/-- One layer without names. -/
def empty : Bindings := ⟨[], []⟩

/-- An empty layer on top of the others. -/
def nested (b : Bindings) : Bindings := ⟨[], b.innermost :: b.outer⟩

/-- Binds a name in the innermost layer; a value that it has there is replaced. -/
def insert (name : String) (value : Json) (b : Bindings) : Bindings :=
  { b with innermost := Named.set name value b.innermost }

/-- Binds several names one after the other. -/
def insertAll (entries : Named Json) (b : Bindings) : Bindings :=
  entries.foldl (fun b (name, value) => b.insert name value) b

/-- The layers from the inside out. -/
def layers (b : Bindings) : List Layer := b.innermost :: b.outer

/-- The value of a name in the first layer that has it. -/
def search (name : String) : List Layer → Option Json
  | [] => none
  | layer :: layers => (Named.get? name layer).or (search name layers)

/-- The value of a name. -/
def get? (name : String) (b : Bindings) : Option Json := search name b.layers

theorem get?_insert (b : Bindings) (name k : String) (value : Json) :
    (b.insert name value).get? k = if name = k then some value else b.get? k := by
  simp only [get?, layers, search, insert, Named.get?_set]
  split <;> rfl

/-- The names that are bound are the given ones and those that were bound before. -/
theorem isSome_get?_insertAll (entries : Named Json) (b : Bindings) (k : String) :
    ((b.insertAll entries).get? k).isSome = true ↔
      k ∈ Named.names entries ∨ (b.get? k).isSome = true := by
  induction entries generalizing b with
  | nil => simp [insertAll, Named.names]
  | cons e entries ih =>
    obtain ⟨name, value⟩ := e
    rw [show insertAll ((name, value) :: entries) b = insertAll entries (b.insert name value) from
      rfl, ih, get?_insert]
    by_cases h : name = k
    · simp [Named.names, h]
    · simp [Named.names, h, Ne.symm h]

/-- A name that is given has the given value, and all other names keep theirs. -/
theorem get?_insertAll {entries : Named Json} (hn : (Named.names entries).Nodup) (b : Bindings)
    (k : String) : (b.insertAll entries).get? k = (Named.get? k entries).or (b.get? k) := by
  induction entries generalizing b with
  | nil => rfl
  | cons e entries ih =>
    obtain ⟨name, value⟩ := e
    obtain ⟨hname, hn⟩ := List.nodup_cons.mp hn
    rw [show insertAll ((name, value) :: entries) b = insertAll entries (b.insert name value) from
      rfl, ih hn, get?_insert, Named.get?_cons]
    by_cases h : name = k
    · subst h
      rw [Named.get?_eq_none hname, if_pos rfl, if_pos rfl]
      rfl
    · rw [if_neg h, if_neg h]

/-- All entries from the outermost layer inward; a hidden name comes before the one that hides
it. -/
def toList (b : Bindings) : Named Json := b.layers.reverse.flatten

/-- Entries with one name put together: the last value in the place of the first one. -/
def resolve (entries : Named Json) : Named Json :=
  entries.foldl (fun found (name, value) => Named.set name value found) []

/-- One entry for each name, in the order in which the names were first bound. -/
def resolved (b : Bindings) : Named Json := resolve b.toList

/-- A value in the text of bindings. -/
def valueText : Json → String
  | .number n => n.interpolated
  | v => v.compact

/-- The text of bindings: one entry for each name between braces. -/
def text (b : Bindings) : String :=
  "\x7b" ++ ", ".intercalate (b.resolved.map fun (name, value) => name ++ ": " ++ valueText value)
    ++ "\x7d"

end Bindings

end OpticScene
