import OpticScene.Geometry

/-!
# Rays, and what objects do with them

A ray meets objects that may reflect or absorb it, and objects are drawn as lines, points and texts.

## Main definitions

* `Ray`: a place, a direction, two brightnesses and a wavelength.
* `Response`: what becomes of a ray.
* `Figure`: the parts of a drawing.
-/

namespace OpticScene

/-- A ray of light. -/
structure Ray where
  /-- Where the ray starts. -/
  origin : Point
  /-- Where it goes; the length does not matter. -/
  direction : Point
  /-- The brightness polarised across the plane of incidence. -/
  brightnessS : Float
  /-- The brightness polarised in the plane of incidence. -/
  brightnessP : Float
  /-- The wavelength in nanometres; none where colour plays no part. -/
  wavelength : Option Float
  deriving Repr, Inhabited

/-- The whole brightness. -/
def Ray.brightness (ray : Ray) : Float := ray.brightnessS + ray.brightnessP

/-- What becomes of a ray that meets an object. -/
inductive Response where
  /-- It goes on as another ray. -/
  | reflected (ray : Ray)
  /-- It ends. -/
  | absorbed
  deriving Repr, Inhabited

/-- The ways in which lines are drawn. -/
inductive Stroke where
  /-- A line that reflects. -/
  | mirror
  /-- A line that absorbs. -/
  | blocker
  deriving Repr, DecidableEq, Inhabited

/-- A part of a drawing. -/
inductive Figure where
  /-- A line between two points. -/
  | line (a b : Point) (stroke : Stroke)
  /-- A control point. -/
  | control (place : Point)
  /-- A text. -/
  | text (place : Point) (content : String)
  deriving Repr, Inhabited

end OpticScene
