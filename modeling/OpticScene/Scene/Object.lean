import OpticScene.Module.Instance
import OpticScene.Optics.Blocker
import OpticScene.Optics.Label
import OpticScene.Optics.Mirror

/-!
# Scene objects

What a scene holds: mirrors, blockers, labels, and module instances, which hold the objects that
they expand to. Light meets those objects and never the instance itself.

## Main definitions

* `SceneObject`, `SceneObject.Kind`: the objects, and their kinds with the tags of their records.
* `SceneObject.hit?`, `SceneObject.respond`, `SceneObject.figures`, `SceneObject.isNear`: light,
  drawing and picking.
* `SceneObject.error?`, `SceneObject.warning?`: what is wrong with an object or with those inside.
* `SceneObject.optical`: the objects that light meets.
-/

namespace OpticScene

/-- The kinds of objects. -/
inductive SceneObject.Kind where
  /-- A mirror. -/
  | mirror
  /-- A blocker. -/
  | blocker
  /-- A label. -/
  | label
  /-- A module instance. -/
  | module
  deriving Repr, DecidableEq, Inhabited

/-- An object of a scene. -/
inductive SceneObject where
  /-- A mirror. -/
  | mirror (mirror : Mirror)
  /-- A blocker. -/
  | blocker (blocker : Blocker)
  /-- A label. -/
  | label (label : Label)
  /-- A module instance. -/
  | module (inst : Module.Instance SceneObject)

instance : Inhabited SceneObject := ⟨.blocker default⟩

/-! ### Kinds -/

namespace SceneObject.Kind

/-- All kinds in their order. -/
def all : List Kind := [.mirror, .blocker, .label, .module]

/-- The tag that the records of a kind have. -/
def tag : Kind → String
  | .mirror => "TiltedMirror"
  | .blocker => "Blocker"
  | .label => "TextLabel"
  | .module => Module.Instance.tag

end SceneObject.Kind

namespace SceneObject

open OpticScene.Random (Stream)
open OpticScene.Module (Builder)

/-- The kind of an object. -/
def kind : SceneObject → Kind
  | .mirror _ => .mirror
  | .blocker _ => .blocker
  | .label _ => .label
  | .module _ => .module

/-- The tag of the record of an object. -/
def tag (object : SceneObject) : String := object.kind.tag

/-- The module instance that an object is. -/
def instance? : SceneObject → Option (Module.Instance SceneObject)
  | .module inst => some inst
  | _ => none

/-- The record of an object. -/
def toRecord : SceneObject → Json
  | .mirror m => Record.tagged Kind.mirror.tag m.toFields
  | .blocker b => Record.tagged Kind.blocker.tag b.toFields
  | .label l => Record.tagged Kind.label.tag l.toFields
  | .module inst => inst.toRecord

/-- The object moved by a vector. A module instance moves its control points, and its objects follow
from them. -/
def translate (builder : Builder SceneObject) (delta : Point) :
    SceneObject → StateM Stream SceneObject
  | .mirror m => return .mirror (m.translate delta)
  | .blocker b => return .blocker (b.translate delta)
  | .label l => return .label (l.translate delta)
  | .module inst => return .module (← inst.translate builder delta)

/-! ### Light -/

/-- Where a ray meets an object. -/
def hit? (ray : Ray) : SceneObject → Option Point
  | .mirror m => m.hit? ray
  | .blocker b => b.hit? ray
  | .label _ => none
  | .module _ => none

/-- What becomes of a ray that meets an object at a point. -/
def respond (ray : Ray) (incident : Point) : SceneObject → Response
  | .mirror m => m.respond ray incident
  | .blocker _ => .absorbed
  | .label _ => .absorbed
  | .module _ => .absorbed

mutual

/-- The objects that light meets: an object itself, but instead of a module instance the objects
that it expands to. -/
def optical : SceneObject → List SceneObject
  | .mirror m => [.mirror m]
  | .blocker b => [.blocker b]
  | .label l => [.label l]
  | .module ⟨_, _, _, _, objects, _, _⟩ => opticalAll objects

/-- The objects that light meets among some objects. -/
def opticalAll : List SceneObject → List SceneObject
  | [] => []
  | object :: objects => optical object ++ opticalAll objects

end

/-! ### Drawing and picking -/

mutual

/-- The drawing of an object. The control points of a module instance lie on top of its objects. -/
def figures : SceneObject → List Figure
  | .mirror m => m.figures
  | .blocker b => b.figures
  | .label l => l.figures
  | .module ⟨_, _, points, _, objects, _, _⟩ => figuresAll objects ++ points.map .control

/-- The drawings of objects one after the other. -/
def figuresAll : List SceneObject → List Figure
  | [] => []
  | object :: objects => figures object ++ figuresAll objects

end

mutual

/-- Whether a point is near an object. A point is near a module instance if it is near one of the
control points or objects. -/
def isNear (p : Point) (tolerance : Float) : SceneObject → Bool
  | .mirror m => m.isNear p tolerance
  | .blocker b => b.isNear p tolerance
  | .label l => l.isNear p tolerance
  | .module ⟨_, _, points, _, objects, _, _⟩ =>
    points.any (fun point => decide (point.distance p ≤ tolerance)) || anyNear p tolerance objects

/-- Whether a point is near any of some objects. -/
def anyNear (p : Point) (tolerance : Float) : List SceneObject → Bool
  | [] => false
  | object :: objects => isNear p tolerance object || anyNear p tolerance objects

end

/-- The layer that an object is drawn in. Labels lie above everything else. -/
def zIndex : SceneObject → Nat
  | .label _ => 1
  | _ => 0

/-! ### Reports -/

/-- The line of a report about the object at an index. -/
def reportLine (index : Nat) (object : SceneObject) (message : String) : String :=
  "obj #" ++ toString index ++ " (" ++ object.tag ++ "): " ++ message

/-- A report with some lines; none without lines. -/
def report : List String → Option String
  | [] => none
  | lines => some ("\n".intercalate lines)

mutual

/-- What is wrong with an object: why a module instance could not be expanded, or else what is wrong
with its objects. -/
def error? : SceneObject → Option String
  | .module ⟨_, _, _, _, objects, lastError, _⟩ =>
    match lastError with
    | some e => some e.text
    | none => report (errorLines 0 objects)
  | _ => none

/-- The lines about what is wrong with objects, from an index on. -/
def errorLines (index : Nat) : List SceneObject → List String
  | [] => []
  | object :: objects =>
    match error? object with
    | some message => reportLine index object message :: errorLines (index + 1) objects
    | none => errorLines (index + 1) objects

end

mutual

/-- What is odd about an object or about the objects inside. -/
def warning? : SceneObject → Option String
  | .mirror m => m.warning?
  | .module ⟨_, _, _, _, objects, _, _⟩ => report (warningLines 0 objects)
  | _ => none

/-- The lines about what is odd about objects, from an index on. -/
def warningLines (index : Nat) : List SceneObject → List String
  | [] => []
  | object :: objects =>
    match warning? object with
    | some message => reportLine index object message :: warningLines (index + 1) objects
    | none => warningLines (index + 1) objects

end

end SceneObject

end OpticScene
