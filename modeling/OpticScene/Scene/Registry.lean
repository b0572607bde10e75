import OpticScene.Scene.Object

/-!
# Registries

A registry says which kind of object a record with a type tag makes. It has every built-in tag, and
it may have more. The objects of a module instance are made by the same registry one level deeper,
and at the largest depth there is none to make them.

## Main definitions

* `Registry.BuilderOf`, `Registry.Of`: tags with factories, while they are being registered and when
  all are there. Neither looks into a factory, so factories may be of any type.
* `Registry.Builder`, `Registry`: the same with the kinds of objects in the place of factories.
* `Registry.create`, `Registry.instantiate`: the object of a record, for a tag and for its own tag.
* `Registry.builder`: the builder of the objects inside a module, for the levels that are left.
-/

namespace OpticScene

open OpticScene.Random (Draws)
open SceneObject (Kind)

/-- Tags with the factories that they stand for, in the order in which they were registered. -/
structure Registry.Of (Factory : Type) where
  /-- The tags with their factories. -/
  entries : Named Factory
  deriving Repr, DecidableEq, Inhabited

/-- Tags with the kinds that they stand for. -/
abbrev Registry := Registry.Of Kind

namespace Registry

variable {Factory : Type}

/-! ### Putting a registry together -/

/-- A registry that is being put together. -/
structure BuilderOf (Factory : Type) where
  /-- The tags that have been registered, with their factories. -/
  entries : Named Factory
  deriving Repr, DecidableEq, Inhabited

namespace BuilderOf

/-- Nothing is registered. -/
def empty : BuilderOf Factory := ⟨[]⟩

/-- Whether a tag is registered. -/
def contains (b : BuilderOf Factory) (tag : String) : Bool := Named.contains tag b.entries

/-- Registers a factory under a tag that is still free. -/
def register (tag : String) (factory : Factory) (b : BuilderOf Factory) :
    Except SceneError (BuilderOf Factory) :=
  if b.contains tag then .error (.duplicateType tag) else .ok ⟨b.entries ++ [(tag, factory)]⟩

/-- Registers the factories of kinds under the tags of the kinds, one after the other. -/
def registerKinds (factory : Kind → Factory) :
    List Kind → BuilderOf Factory → Except SceneError (BuilderOf Factory)
  | [], b => .ok b
  | kind :: kinds, b => do registerKinds factory kinds (← b.register kind.tag (factory kind))

/-- Registers the factory of every kind under the tag of the kind. -/
def registerStandard (factory : Kind → Factory) (b : BuilderOf Factory) :
    Except SceneError (BuilderOf Factory) :=
  b.registerKinds factory Kind.all

/-- The finished registry, if the tags of all kinds are registered. -/
def build (b : BuilderOf Factory) : Except SceneError (Registry.Of Factory) :=
  match Kind.all.find? fun kind => !b.contains kind.tag with
  | some kind => .error (.missingType kind.tag)
  | none => .ok ⟨b.entries⟩

end BuilderOf

/-- A registry of kinds that is being put together. -/
abbrev Builder := BuilderOf Kind

/-- Registers every kind under its own tag. -/
def Builder.registerStandard (b : Builder) : Except SceneError Builder :=
  BuilderOf.registerStandard id b

/-- Every kind under its own tag. -/
def standard : Registry := ⟨Kind.all.map fun kind => (kind.tag, kind)⟩

/-! ### Looking up -/

namespace Of

/-- The factory that a tag stands for. -/
def find? (registry : Registry.Of Factory) (tag : String) : Option Factory :=
  Named.get? tag registry.entries

/-- Whether a tag is registered. -/
def contains (registry : Registry.Of Factory) (tag : String) : Bool :=
  Named.contains tag registry.entries

/-- The registered tags in increasing order. -/
def tags (registry : Registry.Of Factory) : List String :=
  (Named.names registry.entries).mergeSort fun a b => !decide (b < a)

/-- What the factory of a tag makes; `call` says what a factory makes. -/
def createBy (call : Factory → Draws SceneError α) (registry : Registry.Of Factory)
    (tag : String) : Draws SceneError α :=
  match registry.find? tag with
  | some factory => call factory
  | none => throw (.unknownType tag)

end Of

/-- The text of a registry: its tags. -/
def text (registry : Registry) : String :=
  "Registry \x7b tags: [" ++ ", ".intercalate (registry.tags.map Text.quoted) ++ "] \x7d"

/-! ### Making objects -/

/-- The levels that are left inside a module, where `levels` are left around it. -/
def inside : (levels : Nat) → Except SceneError Nat
  | 0 => .error (.nestingTooDeep Module.maxDepth)
  | levels + 1 => .ok levels

/-- The object of a kind that a record describes. `builder` makes the objects inside a module. -/
def make (library : Module.Library) (builder : Module.Builder SceneObject) (record : Json) :
    Kind → Draws SceneError SceneObject
  | .mirror => do
    return .mirror (← (Mirror.ofRecord record).mapError (SceneError.ofRecord Kind.mirror.tag))
  | .blocker => do
    return .blocker (← (Blocker.ofRecord record).mapError (SceneError.ofRecord Kind.blocker.tag))
  | .label => do
    return .label (← (Label.ofRecord record).mapError (SceneError.ofRecord Kind.label.tag))
  | .module => do return .module (← Module.Instance.ofRecord library builder record)

/-- The object that a record describes for a tag. -/
def createWith (registry : Registry) (library : Module.Library)
    (builder : Module.Builder SceneObject) (tag : String) (record : Json) :
    Draws SceneError SceneObject :=
  registry.createBy (make library builder record) tag

/-- The error about a record without a type. -/
def missingTag (record : Json) : SceneError :=
  .invalidRecord "?" ("missing \x60" ++ Record.typeKey ++ "\x60 field in " ++ record.compact)

/-- The object that a record describes for its own tag. -/
def instantiateWith (registry : Registry) (library : Module.Library)
    (builder : Module.Builder SceneObject) (record : Json) : Draws SceneError SceneObject :=
  match (record.field? Record.typeKey).bind Json.toString? with
  | some tag => registry.createWith library builder tag record
  | none => throw (missingTag record)

/-- Makes the objects of a module below which there may be `levels` more. -/
def builder (registry : Registry) (library : Module.Library) :
    (levels : Nat) → Module.Builder SceneObject
  | 0 => none
  | levels + 1 => some (registry.instantiateWith library (registry.builder library levels))

/-- The object that a record describes for a tag, with `levels` levels of modules below it. -/
def create (registry : Registry) (library : Module.Library) (levels : Nat) (tag : String)
    (record : Json) : Draws SceneError SceneObject :=
  registry.createWith library (registry.builder library levels) tag record

/-- The object that a record describes for its own tag, with `levels` levels of modules below it. -/
def instantiate (registry : Registry) (library : Module.Library) (levels : Nat) (record : Json) :
    Draws SceneError SceneObject :=
  registry.instantiateWith library (registry.builder library levels) record

end Registry

end OpticScene
