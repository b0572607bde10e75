import OpticScene.Module.Definition

/-!
# Module libraries

The definitions that a scene knows, in the order in which their names came in. A definition that is
replaced keeps its place.

## Main definitions

* `Module.Library`: named definitions.
* `Module.Library.insert`, `Module.Library.find?`, `Module.Library.names`: adding, looking up,
  listing.
-/

namespace OpticScene.Module

/-- Named definitions in order. -/
structure Library where
  /-- The definitions with their names. -/
  entries : Named Definition

namespace Library

/-- No definitions. -/
def empty : Library := ⟨[]⟩

/-- Adds or replaces a definition. -/
def insert (library : Library) (name : String) (d : Definition) : Library :=
  ⟨Named.set name d library.entries⟩

/-- The definition of a name. -/
def find? (library : Library) (name : String) : Option Definition :=
  Named.get? name library.entries

/-- The names in order. -/
def names (library : Library) : List String := Named.names library.entries

/-- The number of definitions. -/
def size (library : Library) : Nat := library.entries.length

/-- Whether there are no definitions. -/
def isEmpty (library : Library) : Bool := library.entries.isEmpty

end Library

end OpticScene.Module
