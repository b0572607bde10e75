import OpticScene.Optics.Ray
import OpticScene.Record

/-!
# Labels

A text at a place. Rays pass it by.

## Main definitions

* `Label`: the labels.
* `Label.isNear`: a label is hit within half its size.
* `Label.ofRecord`, `Label.toFields`: labels in records.
-/

namespace OpticScene

/-- A text at a place. -/
structure Label where
  /-- The coordinate to the right. -/
  x : Float
  /-- The coordinate upward. -/
  y : Float
  /-- The text. -/
  text : String
  /-- The size of its letters. -/
  fontSize : Float
  deriving Repr, Inhabited

namespace Label

/-- The size of letters where no other is given. -/
def defaultFontSize : Float := 24.0

/-- Where the label is. -/
def place (l : Label) : Point := ⟨l.x, l.y⟩

/-- The label moved by a vector. -/
def translate (l : Label) (delta : Point) : Label :=
  { l with x := l.x + delta.x, y := l.y + delta.y }

/-- The drawing of the label. -/
def figures (l : Label) : List Figure := [.text l.place l.text]

/-- Whether a point is near the label: within the tolerance, or within half the size of its
letters. -/
def isNear (l : Label) (p : Point) (tolerance : Float) : Bool :=
  p.distance l.place ≤ Binary64.larger tolerance (l.fontSize / 2.0)

/-- The shape of the records of labels. -/
def shape : Record.Shape :=
  ⟨"TextLabel",
    [.required "x" Record.float, .required "y" Record.float, .optional "text" Record.text,
      .optional "fontSize" Record.float]⟩

/-- The label of a record. -/
def ofRecord : Record.Decoder Label := fun v => do
  let fields ← shape.read v
  return {
    x := ← fields.required "x" Record.float
    y := ← fields.required "y" Record.float
    text := ← fields.optional "text" Record.text ""
    fontSize := ← fields.optional "fontSize" Record.float defaultFontSize }

/-- The fields of the record of a label. -/
def toFields (l : Label) : Record.Fields :=
  [("x", .ofFloat l.x), ("y", .ofFloat l.y), ("text", .string l.text),
    ("fontSize", .ofFloat l.fontSize)]

end Label

end OpticScene
