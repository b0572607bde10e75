import OpticScene.Optics.Ray
import OpticScene.Record

/-!
# Blockers

A flat piece that absorbs every ray that reaches it.

## Main definitions

* `Blocker`: the blockers.
* `Blocker.hit?`: where a ray meets a blocker.
* `Blocker.ofRecord`, `Blocker.toFields`: blockers in records.
-/

namespace OpticScene

/-- A piece that absorbs light. -/
structure Blocker where
  /-- One end. -/
  p1 : Point
  /-- The other end. -/
  p2 : Point
  deriving Repr, Inhabited

namespace Blocker

/-- The blocker moved by a vector. -/
def translate (b : Blocker) (delta : Point) : Blocker := ⟨b.p1 + delta, b.p2 + delta⟩

/-- Where a ray meets the blocker. -/
def hit? (b : Blocker) (ray : Ray) : Option Point :=
  Point.crossing? ray.origin ray.direction b.p1 b.p2

/-- The drawing of the blocker. -/
def figures (b : Blocker) : List Figure := [.line b.p1 b.p2 .blocker]

/-- Whether a point is near the blocker. -/
def isNear (b : Blocker) (p : Point) (tolerance : Float) : Bool :=
  p.distanceToSegment b.p1 b.p2 ≤ tolerance

/-- The shape of the records of blockers. -/
def shape : Record.Shape :=
  ⟨"Blocker", [.required "p1" Record.point, .required "p2" Record.point]⟩

/-- The blocker of a record. -/
def ofRecord : Record.Decoder Blocker := fun v => do
  let fields ← shape.read v
  return ⟨← fields.required "p1" Record.point, ← fields.required "p2" Record.point⟩

/-- The fields of the record of a blocker. -/
def toFields (b : Blocker) : Record.Fields :=
  [("p1", Record.ofPoint b.p1), ("p2", Record.ofPoint b.p2)]

end Blocker

end OpticScene
