import OpticScene.Scene.Registry

/-!
# Scenes

A scene has objects, a library of modules, a registry of object types, and a random stream that
every expansion draws from. An edit that fails leaves the scene as it was, but for the draws that it
made from the stream.

## Main definitions

* `Scene`: the scenes, and `Scene.Edit`: what can be done to one.
* `Scene.define`: adding or replacing a module; instances at the top level follow.
* `Scene.add`, `Scene.append`, `Scene.remove`, `Scene.demodulize`: the list of objects.
* `Scene.beginPlacement`, `Scene.place`, `Scene.translate`, `Scene.setParam`, `Scene.setPoint`:
  changing one object.
* `Scene.refresh`, `Scene.reseed`: expanding everything anew from the start of the stream.
-/

namespace OpticScene

open OpticScene.Random (Draws Stream)
open OpticScene.Module (Definition Instance Placement)

/-- Objects, and what they are made and expanded with. -/
structure Scene where
  /-- The objects in order. -/
  objects : List SceneObject
  /-- The modules. -/
  library : Module.Library
  /-- The object types. -/
  registry : Registry
  /-- The place in the random stream. -/
  stream : Stream
  /-- The seed that the stream starts from. -/
  seed : UInt64
  /-- The spacing of the grid that placed points snap to; none where there is no grid. -/
  gridSize : Option Float

namespace Scene

/-- An empty scene with a registry and a seed. -/
def withRegistry (registry : Registry) (seed : UInt64) : Scene :=
  ⟨[], .empty, registry, .ofSeed seed, seed, none⟩

/-- An empty scene with the standard registry and a seed. -/
def withSeed (seed : UInt64) : Scene := withRegistry .standard seed

/-- An empty scene. -/
def empty : Scene := withSeed 0

/-- Makes the objects inside the module instances of the scene. -/
def builder (scene : Scene) : Module.Builder SceneObject :=
  scene.registry.builder scene.library Module.maxDepth

/-- What can be done to a scene. A failure keeps the changes made before it. -/
abbrev Edit (α : Type) := ExceptT SceneError (StateM Scene) α

/-- Runs an edit. -/
def run (scene : Scene) (edit : Edit α) : Except SceneError α × Scene := ExceptT.run edit scene

/-- Draws from the stream of the scene. -/
def drawing (action : Draws SceneError α) : Edit α := do
  let scene ← get
  let (result, stream) := ExceptT.run action scene.stream
  set { scene with stream }
  result

/-- Replaces the objects. -/
def setObjects (objects : List SceneObject) : Edit Unit :=
  modify fun scene => { scene with objects }

/-! ### The list of objects -/

/-- Adds an object at the end, and tells its index. -/
def append (object : SceneObject) : Edit Nat := do
  let scene ← get
  setObjects (scene.objects ++ [object])
  return scene.objects.length

/-- Adds the object that a record describes. -/
def add (record : Json) : Edit Nat := do
  let scene ← get
  append (← drawing (scene.registry.instantiate scene.library Module.maxDepth record))

/-- The object at an index. -/
def objectAt (index : Nat) : Edit SceneObject := do
  let scene ← get
  match scene.objects[index]? with
  | some object => return object
  | none => throw (.indexOutOfRange index scene.objects.length)

/-- The module instance at an index. -/
def instanceAt (index : Nat) : Edit (Instance SceneObject) := do
  match (← objectAt index).instance? with
  | some inst => return inst
  | none => throw (.notAModule index)

/-- Replaces the object at an index. -/
def setObject (index : Nat) (object : SceneObject) : Edit Unit :=
  modify fun scene => { scene with objects := scene.objects.set index object }

/-- Removes the object at an index, and returns it. -/
def remove (index : Nat) : Edit SceneObject := do
  let object ← objectAt index
  let scene ← get
  setObjects (scene.objects.eraseIdx index)
  return object

/-- Puts the objects of the module instance at an index in its place, and tells their number. -/
def demodulize (index : Nat) : Edit Nat := do
  let inst ← instanceAt index
  let scene ← get
  setObjects (scene.objects.take index ++ inst.objects ++ scene.objects.drop (index + 1))
  return inst.objects.length

/-! ### All instances -/

/-- Changes the module instances among objects one after the other. -/
def mapInstances (change : Instance SceneObject → StateM Stream (Instance SceneObject)) :
    List SceneObject → StateM Stream (List SceneObject)
  | [] => return []
  | .module inst :: objects => do
    let inst ← change inst
    return .module inst :: (← mapInstances change objects)
  | object :: objects => do return object :: (← mapInstances change objects)

/-- Changes the module instances of the scene. -/
def changeInstances
    (change : Scene → Instance SceneObject → StateM Stream (Instance SceneObject)) : Edit Unit := do
  let scene ← get
  setObjects (← drawing (mapInstances (change scene) scene.objects))

/-- Gives an instance the definition of its module if that has the name. -/
def rebindNamed (name : String) (d : Definition) (scene : Scene) (inst : Instance SceneObject) :
    StateM Stream (Instance SceneObject) :=
  if inst.moduleName = name then inst.rebind scene.builder d else return inst

/-- Adds or replaces a module. The instances of the module at the top level get the new
definition. -/
def define (name : String) (definition : Json) : Edit Definition := do
  let d ← drawing ((Definition.ofRecord definition).adapt (SceneError.ofDefinition name))
  modify fun scene => { scene with library := scene.library.insert name d }
  changeInstances (rebindNamed name d)
  return d

/-- Expands every module instance anew, from the start of the stream. -/
def refresh : Edit Unit := do
  modify fun scene => { scene with stream := .ofSeed scene.seed }
  changeInstances fun scene inst => inst.refresh scene.builder

/-- Expands every module instance anew with another seed. -/
def reseed (seed : UInt64) : Edit Unit := do
  modify fun scene => { scene with seed }
  refresh

/-! ### One object -/

/-- Starts to place an instance of a module, and tells its index. -/
def beginPlacement (name : String) : Edit Nat := do
  let scene ← get
  match scene.library.find? name with
  | some d => append (.module (← drawing (Instance.start scene.builder name d)))
  | none => throw (.unknownModule name)

/-- Changes the module instance at an index. -/
def changeInstance (index : Nat)
    (change : Scene → Instance SceneObject → Draws SceneError (Instance SceneObject)) :
    Edit (Instance SceneObject) := do
  let inst ← instanceAt index
  let scene ← get
  let inst ← drawing (change scene inst)
  setObject index (.module inst)
  return inst

/-- The point of the grid that a point snaps to. -/
def snapped (scene : Scene) (p : Point) : Point :=
  match scene.gridSize with
  | some spacing => p.snap spacing
  | none => p

/-- Places the next control point of an instance, and tells how far its placement has come. -/
def place (index : Nat) (p : Point) : Edit Placement := do
  let inst ← changeInstance index fun scene inst => inst.place scene.builder (scene.snapped p)
  return inst.placement

/-- Moves the object at an index. -/
def translate (index : Nat) (delta : Point) : Edit Unit := do
  let object ← objectAt index
  let scene ← get
  setObject index (← drawing (object.translate scene.builder delta))

/-- Sets a parameter of a module instance. -/
def setParam (index : Nat) (name : String) (x : Float) : Edit Unit := do
  let _ ← changeInstance index fun scene inst => inst.setParam scene.builder name x

/-- Moves a control point of a module instance. -/
def setPoint (index pointIndex : Nat) (p : Point) : Edit Unit := do
  let _ ← changeInstance index fun scene inst => inst.setPoint scene.builder pointIndex p

/-- Sets the spacing of the grid; a spacing that is not positive means no grid. -/
def setGrid (spacing : Option Float) : Edit Unit :=
  modify fun scene => { scene with gridSize := spacing.filter fun x => decide (0.0 < x) }

end Scene

end OpticScene
