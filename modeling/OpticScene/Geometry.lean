import OpticScene.Binary64.Arithmetic

/-!
# Plane geometry

Points and vectors of the plane, with the few constructions that optical objects need. All formulas
are evaluated in doubles exactly as they are written here.

## Main definitions

* `Point`: points, and vectors between them.
* `Point.rotate`, `Point.reflect`: turning and reflecting a direction.
* `Point.crossing?`: where a ray crosses a segment.
* `Point.distanceToSegment`, `Point.snap`: distances, and the nearest point of a grid.
-/

namespace OpticScene

/-- A point of the plane, or a vector. -/
structure Point where
  /-- The coordinate to the right. -/
  x : Float
  /-- The coordinate upward. -/
  y : Float
  deriving Repr, Inhabited

namespace Point

/-- The origin. -/
def zero : Point := ⟨0.0, 0.0⟩

instance : Add Point := ⟨fun p q => ⟨p.x + q.x, p.y + q.y⟩⟩

instance : Sub Point := ⟨fun p q => ⟨p.x - q.x, p.y - q.y⟩⟩

/-- A vector times a number. -/
def scale (t : Float) (p : Point) : Point := ⟨t * p.x, t * p.y⟩

/-- The sum of the products of coordinates. -/
def dot (p q : Point) : Float := p.x * q.x + p.y * q.y

/-- The area spanned by two vectors, with a sign. -/
def cross (p q : Point) : Float := p.x * q.y - p.y * q.x

/-- The vector turned a quarter to the left. -/
def turned (p : Point) : Point := ⟨-p.y, p.x⟩

/-- The length of a vector. -/
def length (p : Point) : Float := (p.dot p).sqrt

/-- The distance of two points. -/
def distance (p q : Point) : Float := (p - q).length

/-- The square of the distance of two points. -/
def distanceSquared (p q : Point) : Float := (p - q).dot (p - q)

/-- Whether two points have equal coordinates. -/
def sameAs (p q : Point) : Bool := p.x == q.x && p.y == q.y

/-- The vector of length 1 in the same direction, if the vector is neither too short nor too long to
have one. -/
def unit? (p : Point) : Option Point :=
  let factor := 1.0 / p.length
  if factor.isFinite && 0.0 < factor then some (p.scale factor) else none

/-- The vector turned to the left by an angle in radians. -/
def rotate (v : Point) (radians : Float) : Point :=
  let s := radians.sin
  let c := radians.cos
  ⟨c * v.x - s * v.y, s * v.x + c * v.y⟩

/-- The direction reflected about the line with the normal `normal`, a vector of length 1. -/
def reflect (direction normal : Point) : Point :=
  direction - normal.scale (2.0 * direction.dot normal)

/-- Two directions with a smaller area than this count as parallel. -/
def minArea : Float := 2.220446049250313e-16

/-- A ray that leaves a segment does not cross it again at once: crossings nearer than this do not
count. -/
def minLength : Float := 1e-6

/-- Where the ray from `origin` along `direction` crosses the segment from `a` to `b`. -/
def crossing? (origin direction a b : Point) : Option Point :=
  let edge := b - a
  let area := direction.cross edge
  if area.abs < minArea then none
  else
    let toStart := a - origin
    let t := toStart.cross edge / area
    let s := toStart.cross direction / area
    if !(0.0 ≤ s && s ≤ 1.0) then none
    else
      let hit := origin + direction.scale t
      if t ≤ 0.0 || (hit - origin).length < minLength then none else some hit

/-- The distance of a point from the segment from `a` to `b`. -/
def distanceToSegment (p a b : Point) : Float :=
  let edge := b - a
  let square := edge.dot edge
  if square == 0.0 then p.distance a
  else p.distance (a + edge.scale (Binary64.clamp 0.0 1.0 ((p - a).dot edge / square)))

/-- The nearest point of the grid with a spacing; there is no grid without a positive spacing. -/
def snap (p : Point) (spacing : Float) : Point :=
  if spacing ≤ 0.0 then p
  else ⟨Binary64.round (p.x / spacing) * spacing, Binary64.round (p.y / spacing) * spacing⟩

/-- An angle in radians. -/
def radians (degrees : Float) : Float := degrees * (3.141592653589793 / 180.0)

end Point

end OpticScene
