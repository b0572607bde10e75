import OpticScene.Scene.Basic

/-!
# Looking at scenes

What light meets first, what lies under a point, how a scene is drawn, and what is wrong with it.

## Main definitions

* `Scene.optical`: the objects that light meets.
* `Scene.nearest?`: the first object that a ray meets.
* `Scene.pick?`, `Scene.figures`: the topmost object near a point, and the drawing of the scene.
* `Scene.errorReport?`, `Scene.warningReport?`: what is wrong with the objects, and what is odd
  about them.
-/

namespace OpticScene.Scene

/-- The objects that light meets, in order. -/
def optical (scene : Scene) : List SceneObject := SceneObject.opticalAll scene.objects

/-! ### The first object on a ray -/

/-- An object with the point where a ray meets it. -/
abbrev Hit := SceneObject × Point

/-- The objects that a ray meets, in order. -/
def hits (ray : Ray) (objects : List SceneObject) : List Hit :=
  objects.filterMap fun object => (object.hit? ray).map fun place => (object, place)

/-- Whether a hit lies nearer to the origin of the ray than another. -/
def isNearer (origin : Point) (a b : Hit) : Bool :=
  decide (Binary64.orderKey (a.2.distanceSquared origin) <
    Binary64.orderKey (b.2.distanceSquared origin))

/-- The nearest of some hits and one before them; of equally near hits the first. -/
def nearestFrom (origin : Point) : Hit → List Hit → Hit
  | best, [] => best
  | best, hit :: hits => nearestFrom origin (if isNearer origin hit best then hit else best) hits

/-- The nearest of some hits. -/
def nearestOf (origin : Point) : List Hit → Option Hit
  | [] => none
  | hit :: hits => some (nearestFrom origin hit hits)

/-- The first object that a ray meets, and where. -/
def nearest? (scene : Scene) (ray : Ray) : Option Hit :=
  nearestOf ray.origin (hits ray scene.optical)

/-! ### Drawing and picking -/

/-- Objects in the order in which they are drawn: layer by layer, and in each layer in their own
order. -/
def drawingOrder (objects : List SceneObject) : List SceneObject :=
  objects.mergeSort fun a b => decide (a.zIndex ≤ b.zIndex)

/-- The drawing of the scene. -/
def figures (scene : Scene) : List Figure := SceneObject.figuresAll (drawingOrder scene.objects)

/-- The index of the topmost object near a point, from an index on, or `best`, an object before
them with its layer. Of one layer the last object is on top. -/
def pickFrom (p : Point) (tolerance : Float) (index : Nat) :
    (best : Option (Nat × Nat)) → List SceneObject → Option (Nat × Nat)
  | best, [] => best
  | best, object :: objects =>
    let isAbove : Bool :=
      match best with
      | some (z, _) => z ≤ object.zIndex
      | none => true
    pickFrom p tolerance (index + 1)
      (if object.isNear p tolerance && isAbove then some (object.zIndex, index) else best) objects

/-- The index of the topmost object near a point. -/
def pick? (scene : Scene) (p : Point) (tolerance : Float) : Option Nat :=
  (pickFrom p tolerance 0 none scene.objects).map Prod.snd

/-! ### Reports -/

/-- What is wrong with the objects, a line for each. -/
def errorReport? (scene : Scene) : Option String :=
  SceneObject.report (SceneObject.errorLines 0 scene.objects)

/-- What is odd about the objects, a line for each. -/
def warningReport? (scene : Scene) : Option String :=
  SceneObject.report (SceneObject.warningLines 0 scene.objects)

end OpticScene.Scene
