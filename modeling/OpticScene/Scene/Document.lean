import OpticScene.Scene.Basic

/-!
# Scene documents

A scene is kept as a document: the records of its module definitions and of its objects, the seed,
and the grid. A document does not hold what the modules expand to, since that follows from the rest.

## Main definitions

* `Scene.Document`: the documents.
* `Scene.Document.decode`, `Scene.Document.toJson`: documents as JSON.
* `Scene.ofDocument`, `Scene.toDocument`: the scene of a document, and the document of a scene.
* `Scene.ofJson`: the scene of a document in JSON.
-/

namespace OpticScene.Scene

/-- What is kept of a scene. -/
structure Document where
  /-- The records of the definitions with their names. -/
  modules : List (String × Json)
  /-- The records of the objects. -/
  objs : List Json
  /-- The seed of the random stream. -/
  seed : UInt64
  /-- The spacing of the grid. -/
  gridSize : Option Float

/-- The shape of documents. -/
def documentShape : Record.Shape :=
  ⟨"SceneDocument",
    [.optional "modules" (Record.named Record.anything),
      .optional "objs" (Record.list Record.anything),
      .optional "randomSeed" (Record.natural "u64"),
      .optional "gridSize" (Record.option Record.float)]⟩

/-- The document that a JSON value holds. -/
def Document.decode : Record.Decoder Document := fun v => do
  let fields ← documentShape.read v
  return {
    modules := ← fields.optional "modules" (Record.named Record.anything) []
    objs := ← fields.optional "objs" (Record.list Record.anything) []
    seed := UInt64.ofNat (← fields.optional "randomSeed" (Record.natural "u64") 0)
    gridSize := ← fields.optional "gridSize" (Record.option Record.float) none }

/-- The JSON value that holds a document. -/
def Document.toJson (doc : Document) : Json :=
  .object
    ([("modules", .object doc.modules), ("objs", .array doc.objs),
      ("randomSeed", .ofNat doc.seed.toNat)] ++
      match doc.gridSize with
      | some spacing => [("gridSize", .ofFloat spacing)]
      | none => [])

/-- Defines modules one after the other. -/
def defineAll : List (String × Json) → Edit Unit
  | [] => return ()
  | (name, definition) :: modules => do
    let _ ← define name definition
    defineAll modules

/-- Adds the objects of records one after the other. -/
def addAll : List Json → Edit Unit
  | [] => return ()
  | record :: records => do
    let _ ← add record
    addAll records

/-- The scene of a document: first its modules, then its objects. -/
def ofDocument (doc : Document) : Except SceneError Scene :=
  let start := { withSeed doc.seed with gridSize := doc.gridSize }
  let (result, scene) := start.run do
    defineAll doc.modules
    addAll doc.objs
  result.map fun _ => scene

/-- The document of a scene. -/
def toDocument (scene : Scene) : Document where
  modules := scene.library.entries.map fun (name, d) => (name, d.source)
  objs := scene.objects.map SceneObject.toRecord
  seed := scene.seed
  gridSize := scene.gridSize

/-- The scene of a document in JSON. -/
def ofJson (v : Json) : Except SceneError Scene := do
  ofDocument (← (Document.decode v).mapError (SceneError.ofRecord "scene"))

end OpticScene.Scene
