import OpticScene.Optics.Ray
import OpticScene.Record

/-!
# Mirrors

A flat mirror between two points. The plane it reflects at may be tilted away from its surface, and
it may reflect only the light of a band of wavelengths, or only the light outside that band.

## Main definitions

* `Mirror`: the mirrors.
* `Mirror.normal?`, `Mirror.passes`: what light is reflected about, and which light.
* `Mirror.hit?`, `Mirror.respond`: where a ray meets a mirror, and what becomes of it.
* `Mirror.ofRecord`, `Mirror.toFields`: mirrors in records.
-/

namespace OpticScene

/-- A flat mirror. -/
structure Mirror where
  /-- One end. -/
  p1 : Point
  /-- The other end. -/
  p2 : Point
  /-- The angle from the surface normal to the normal that light is reflected about, in degrees. -/
  tiltAngle : Float
  /-- Whether only a part of the light is reflected. -/
  filter : Bool
  /-- Whether that part is the light outside the band. -/
  invert : Bool
  /-- The middle of the band. -/
  wavelength : Float
  /-- How far the band reaches to either side. -/
  bandwidth : Float
  deriving Repr, Inhabited

namespace Mirror

/-- The wavelength where no other is given. -/
def defaultWavelength : Float := 532.0

/-- The bandwidth where no other is given. -/
def defaultBandwidth : Float := 10.0

/-- A mirror between two points, without tilt and for all light. -/
def between (p1 p2 : Point) : Mirror :=
  ⟨p1, p2, 0.0, false, false, defaultWavelength, defaultBandwidth⟩

/-- The mirror with another tilt. -/
def withTilt (m : Mirror) (degrees : Float) : Mirror := { m with tiltAngle := degrees }

/-- The mirror for a band of wavelengths. -/
def withBand (m : Mirror) (wavelength bandwidth : Float) (invert : Bool) : Mirror :=
  { m with filter := true, wavelength, bandwidth, invert }

/-- Whether the light of a ray is reflected. -/
def passes (m : Mirror) (ray : Ray) : Bool :=
  !m.filter ||
    match ray.wavelength with
    | none => true
    | some w => decide ((w - m.wavelength).abs ≤ m.bandwidth) != m.invert

/-- The unit normal that light is reflected about: that of the surface, turned by the tilt. -/
def normal? (m : Mirror) : Option Point :=
  (m.p2 - m.p1).turned.unit?.map fun normal => normal.rotate (Point.radians m.tiltAngle)

/-- The mirror moved by a vector. -/
def translate (m : Mirror) (delta : Point) : Mirror :=
  { m with p1 := m.p1 + delta, p2 := m.p2 + delta }

/-- Where a ray meets the mirror. -/
def hit? (m : Mirror) (ray : Ray) : Option Point :=
  if m.passes ray then Point.crossing? ray.origin ray.direction m.p1 m.p2 else none

/-- What becomes of a ray that meets the mirror at a point. -/
def respond (m : Mirror) (ray : Ray) (incident : Point) : Response :=
  match m.normal? with
  | some normal =>
    .reflected { ray with origin := incident, direction := ray.direction.reflect normal }
  | none => .absorbed

/-- The drawing of the mirror. -/
def figures (m : Mirror) : List Figure := [.line m.p1 m.p2 .mirror]

/-- Whether a point is near the mirror. -/
def isNear (m : Mirror) (p : Point) (tolerance : Float) : Bool :=
  p.distanceToSegment m.p1 m.p2 ≤ tolerance

/-- What is odd about the mirror. -/
def warning? (m : Mirror) : Option String :=
  if m.p1.sameAs m.p2 then some "mirror has zero length" else none

/-- The shape of the records of mirrors. -/
def shape : Record.Shape :=
  ⟨"TiltedMirror",
    [.required "p1" Record.point, .required "p2" Record.point,
      .optional "tiltAngle" Record.float, .optional "filter" Record.truth,
      .optional "invert" Record.truth, .optional "wavelength" Record.float,
      .optional "bandwidth" Record.float]⟩

/-- The mirror of a record. -/
def ofRecord : Record.Decoder Mirror := fun v => do
  let fields ← shape.read v
  return {
    p1 := ← fields.required "p1" Record.point
    p2 := ← fields.required "p2" Record.point
    tiltAngle := ← fields.optional "tiltAngle" Record.float 0.0
    filter := ← fields.optional "filter" Record.truth false
    invert := ← fields.optional "invert" Record.truth false
    wavelength := ← fields.optional "wavelength" Record.float defaultWavelength
    bandwidth := ← fields.optional "bandwidth" Record.float defaultBandwidth }

/-- The fields of the record of a mirror. -/
def toFields (m : Mirror) : Record.Fields :=
  [("p1", Record.ofPoint m.p1), ("p2", Record.ofPoint m.p2), ("tiltAngle", .ofFloat m.tiltAngle),
    ("filter", .bool m.filter), ("invert", .bool m.invert), ("wavelength", .ofFloat m.wavelength),
    ("bandwidth", .ofFloat m.bandwidth)]

end Mirror

end OpticScene
