import OpticScene.Module.Library
import OpticScene.Scene.Error

/-!
# Module instances

A module that is placed in a scene: its control points, the values of its parameters and the objects
that it expands to. Every change of points or parameters expands the module anew. While control
points are still being placed, there are no objects.

The objects are built by a `Module.Builder`, which the owner of the instance provides.

## Main definitions

* `Module.Instance`: the instances.
* `Module.Instance.refresh`: expanding an instance anew.
* `Module.Instance.start`, `Module.Instance.place`: placing an instance point by point.
* `Module.Instance.translate`, `Module.Instance.setPoint`, `Module.Instance.setParam`,
  `Module.Instance.rebind`: changing an instance.
* `Module.Instance.ofRecord`, `Module.Instance.toRecord`: instances in records.
-/

namespace OpticScene.Module

open OpticScene.Random (Draws Stream)

/-- The largest depth of modules inside modules. -/
def maxDepth : Nat := 16

/-- Builds the objects that an expansion gives the records of; none where modules may not be nested
any deeper. -/
abbrev Builder (Obj : Type) := Option (Json → Draws SceneError Obj)

/-- How far the placement of an instance has come. -/
inductive Placement where
  /-- Control points are missing. -/
  | collecting
  /-- All control points are there. -/
  | complete
  deriving Repr, DecidableEq, Inhabited

/-- A module in a scene. -/
structure Instance (Obj : Type) where
  /-- The name of the module. -/
  moduleName : String
  /-- Its definition. -/
  definition : Definition
  /-- The control points. -/
  points : List Point
  /-- The values of the parameters. -/
  params : Params
  /-- The objects that it expands to. -/
  objects : List Obj
  /-- Why the expansion stopped, if it did. -/
  lastError : Option SceneError
  /-- How far the placement has come. -/
  placement : Placement

namespace Instance

variable {Obj : Type}

/-! ### Expansion -/

/-- The names of the coordinates of control points with their values, from the point with the
number `i` on. -/
def coordinates (i : Nat) : List Point → Named Json
  | [] => []
  | p :: ps =>
    ("x_" ++ toString i, .ofFloat p.x) :: ("y_" ++ toString i, .ofFloat p.y) ::
      coordinates (i + 1) ps

/-- The bindings that a module is expanded with: its parameters, then its coordinates. -/
def bindings (inst : Instance Obj) : Bindings :=
  inst.params.bindings.insertAll (coordinates 1 inst.points)

/-- The records that the definition expands to. -/
def expandRecords (inst : Instance Obj) : Draws ExpansionError (List Json) := do
  let d := inst.definition
  let scope ←
    match d.vars with
    | some vars => Expansion.expandSequential d.maxLoop inst.bindings vars
    | none => pure inst.bindings.nested
  Expansion.expandItems d.maxLoop scope 0 d.objs

/-- The objects of records up to the first that fails, and its error. -/
def buildAll (build : Json → Draws SceneError Obj) :
    List Json → StateM Stream (List Obj × Option SceneError)
  | [] => return ([], none)
  | record :: records => do
    match ← (build record).run with
    | .error e => return ([], some e)
    | .ok object =>
      let (objects, e) ← buildAll build records
      return (object :: objects, e)

/-- The objects that the definition expands to, and the error that ended the expansion. -/
def expandObjects (builder : Builder Obj) (inst : Instance Obj) :
    StateM Stream (List Obj × Option SceneError) := do
  match ← inst.expandRecords.run with
  | .error e => return ([], some (.expansion e))
  | .ok records =>
    match builder with
    | none => return ([], some (.nestingTooDeep maxDepth))
    | some build => buildAll build records

/-- The instance with other objects. -/
def withObjects (inst : Instance Obj) (found : List Obj × Option SceneError) : Instance Obj :=
  { inst with objects := found.1, lastError := found.2 }

/-- The instance with the objects that it now expands to. -/
def refresh (builder : Builder Obj) (inst : Instance Obj) : StateM Stream (Instance Obj) := do
  match inst.placement with
  | .collecting => return inst.withObjects ([], none)
  | .complete => return inst.withObjects (← inst.expandObjects builder)

/-! ### Placement -/

/-- Ends the placement. Parameters have their defaults unless some have been set. -/
def finish (builder : Builder Obj) (inst : Instance Obj) : StateM Stream (Instance Obj) :=
  refresh builder
    { inst with
      placement := .complete
      params := if inst.params.isEmpty then inst.definition.defaults else inst.params }

/-- A new instance without control points. It is complete if there are none to place. -/
def start (builder : Builder Obj) (name : String) (d : Definition) :
    StateM Stream (Instance Obj) :=
  let inst : Instance Obj := ⟨name, d, [], [], [], none, .collecting⟩
  if d.numPoints = 0 then inst.finish builder else return inst

/-- Places the next control point. -/
def place (builder : Builder Obj) (p : Point) (inst : Instance Obj) :
    Draws SceneError (Instance Obj) := do
  match inst.placement with
  | .complete => throw .placementComplete
  | .collecting =>
    let inst := { inst with points := inst.points ++ [p] }
    if inst.definition.numPoints ≤ inst.points.length then inst.finish builder else return inst

/-! ### Changes -/

/-- The parameters that a definition declares, with given values where there are any. -/
def resolveParams (d : Definition) (given : Params) : Params :=
  d.defaults.map fun (name, default) => (name, (Named.get? name given).getD default)

/-- The first `n` points, filled up with the origin. -/
def resizePoints (n : Nat) (ps : List Point) : List Point :=
  ps.take n ++ List.replicate (n - ps.length) .zero

/-- The instance with another definition. It keeps the values of the parameters that are still
declared, and as many control points as there are now. -/
def rebind (builder : Builder Obj) (d : Definition) (inst : Instance Obj) :
    StateM Stream (Instance Obj) :=
  let params := resolveParams d inst.params
  match inst.placement with
  | .collecting =>
    let inst := { inst with definition := d, params, points := inst.points.take d.numPoints }
    if inst.points.length = d.numPoints then inst.finish builder else inst.refresh builder
  | .complete =>
    refresh builder
      { inst with definition := d, params, points := resizePoints d.numPoints inst.points }

/-- The instance moved by a vector. -/
def translate (builder : Builder Obj) (delta : Point) (inst : Instance Obj) :
    StateM Stream (Instance Obj) :=
  refresh builder { inst with points := inst.points.map (· + delta) }

/-- Moves a control point. -/
def setPoint (builder : Builder Obj) (index : Nat) (p : Point) (inst : Instance Obj) :
    Draws SceneError (Instance Obj) :=
  if index < inst.points.length then
    ({ inst with points := inst.points.set index p } : Instance Obj).refresh builder
  else throw (.indexOutOfRange index inst.points.length)

/-- Sets a parameter that the module declares. -/
def setParam (builder : Builder Obj) (name : String) (x : Float) (inst : Instance Obj) :
    Draws SceneError (Instance Obj) :=
  if inst.definition.declares name then
    ({ inst with params := Named.set name x inst.params } : Instance Obj).refresh builder
  else throw (.unknownParameter inst.moduleName name)

/-! ### Records -/

/-- What the records of instances are called. -/
def tag : String := "ModuleObj"

/-- The fields of an instance as they are written. -/
structure Fields where
  /-- The name of the module. -/
  moduleName : String
  /-- The control points. -/
  points : Option (List Point)
  /-- The values of parameters. -/
  params : Option Params
  /-- Whether control points are missing. -/
  notDone : Bool

/-- The shape of the records of instances. -/
def shape : Record.Shape :=
  ⟨"InstanceRecord",
    [.required "module" Record.text, .optional "points" (Record.option (Record.list Record.point)),
      .optional "params" (Record.option (Record.named Record.float)),
      .optional "notDone" Record.truth]⟩

/-- The fields of an instance. -/
def Fields.decode : Record.Decoder Fields := fun v => do
  let fields ← shape.read v
  return {
    moduleName := ← fields.required "module" Record.text
    points := ← fields.optional "points" (Record.option (Record.list Record.point)) none
    params := ← fields.optional "params" (Record.option (Record.named Record.float)) none
    notDone := ← fields.optional "notDone" Record.truth false }

/-- The control points of a record; a complete instance without any has them all at the origin. -/
def Fields.pointsFor (fields : Fields) (d : Definition) : List Point :=
  match fields.points with
  | some points => points
  | none => if fields.notDone then [] else List.replicate d.numPoints .zero

/-- The parameters of a record; an incomplete instance may be without any. -/
def Fields.paramsFor (fields : Fields) (d : Definition) : Params :=
  match fields.params with
  | some given => resolveParams d given
  | none => if fields.notDone then [] else d.defaults

/-- The error about a record with the wrong number of control points. -/
def wrongPoints (name : String) (expected given : Nat) : SceneError :=
  .invalidRecord tag
    ("module \x60" ++ name ++ "\x60 takes " ++ toString expected ++
      " control points, record has " ++ toString given)

/-- The instance of a record, without its objects. -/
def ofFields (library : Library) (fields : Fields) : Except SceneError (Instance Obj) :=
  match library.find? fields.moduleName with
  | none => .error (.unknownModule fields.moduleName)
  | some d =>
    let points := fields.pointsFor d
    let fits : Bool :=
      if fields.notDone then points.length < d.numPoints else points.length = d.numPoints
    if fits then
      .ok ⟨fields.moduleName, d, points, fields.paramsFor d, [], none,
        if fields.notDone then .collecting else .complete⟩
    else .error (wrongPoints fields.moduleName d.numPoints points.length)

/-- The instance of a record, with the objects that it expands to. -/
def ofRecord (library : Library) (builder : Builder Obj) (v : Json) :
    Draws SceneError (Instance Obj) := do
  let fields ← (Fields.decode v).mapError (SceneError.ofRecord tag)
  let inst : Instance Obj ← ofFields library fields
  inst.refresh builder

/-- The record of an instance. Its objects are not written, as they follow from the rest. -/
def toRecord (inst : Instance Obj) : Json :=
  Record.tagged tag
    ([("module", .string inst.moduleName), ("points", .array (inst.points.map Record.ofPoint)),
      ("params", .object (inst.params.map fun (name, x) => (name, .ofFloat x)))] ++
      match inst.placement with
      | .collecting => [("notDone", .bool true)]
      | .complete => [])

end Instance

end OpticScene.Module
