import FlowLayout.Geometry.Scalar
/-!
# Points, sizes and rectangles

A rectangle is its top-left corner and its size; `Rect.fromCenter` places one around a centre,
`Rect.center` reads the centre back, `Rect.padded` grows it by a margin on every side, and
`Rect.contains` tests a point against the closed rectangle. The last section decides whether a
segment meets a rectangle, the test the routes are checked with.
-/

namespace FlowLayout

/-- A point of the drawing plane; `y` grows downwards. -/
structure Point (α : Type) where
  x : α
  y : α

/-- A width and a height. -/
structure Size (α : Type) where
  width : α
  height : α

/-- An axis-aligned rectangle: top-left corner and size. -/
structure Rect (α : Type) where
  x : α
  y : α
  width : α
  height : α

variable {α : Type} [Scalar α]

/-- Equal coordinates, as comparisons see them. -/
def Point.same (p q : Point α) : Bool := Scalar.same p.x q.x && Scalar.same p.y q.y

/-- The point with its coordinates exchanged. -/
def Point.swap (p : Point α) : Point α := ⟨p.y, p.x⟩

namespace Rect

/-- The rectangle of the given size centred on `c`. -/
def fromCenter (c : Point α) (w h : α) : Rect α := ⟨c.x - w / 2.0, c.y - h / 2.0, w, h⟩

/-- The centre. -/
def center (r : Rect α) : Point α := ⟨r.x + r.width / 2.0, r.y + r.height / 2.0⟩

/-- The rectangle grown by `p` on every side. -/
def padded (r : Rect α) (p : α) : Rect α :=
  ⟨r.x - p, r.y - p, r.width + 2.0 * p, r.height + 2.0 * p⟩

/-- The right edge. -/
def right (r : Rect α) : α := r.x + r.width

/-- The bottom edge. -/
def bottom (r : Rect α) : α := r.y + r.height

/-- Whether the closed rectangle holds the point. -/
def contains (r : Rect α) (p : Point α) : Bool :=
  decide (r.x ≤ p.x) && decide (p.x ≤ r.x + r.width) && decide (r.y ≤ p.y) &&
    decide (p.y ≤ r.y + r.height)

end Rect

end FlowLayout

/-!
## Segments meeting rectangles

`segmentMeetsRect a b r` decides whether the segment from `a` to `b` touches the closed
rectangle `r`. Segments whose bounding box misses the rectangle are refused at once; a segment
with an end inside is accepted; otherwise the segment must meet one of the four sides.

Two segments meet when each one's ends lie strictly on opposite sides of the other's line, or
when an end of one lies on the line of the other and within its bounding box, both up to a
tolerance: the drawing takes `1e-6` (`segmentMeetsRect`), and `segmentMeetsRectWithin tol`
takes `tol` in its place.
-/

namespace FlowLayout

variable {α : Type} [Scalar α]

/-- Twice the signed area of the triangle `a b c`: positive when `c` is to the left of `ab`
in a frame whose `y` grows upwards. -/
def orient (a b c : Point α) : α := (b.x - a.x) * (c.y - a.y) - (b.y - a.y) * (c.x - a.x)

/-- Whether `c` lies within the bounding box of `a` and `b`, widened by `tol`. -/
def withinBox (tol : α) (a b c : Point α) : Bool :=
  decide (Scalar.min a.x b.x - tol ≤ c.x) && decide (c.x ≤ Scalar.max a.x b.x + tol) &&
    decide (Scalar.min a.y b.y - tol ≤ c.y) && decide (c.y ≤ Scalar.max a.y b.y + tol)

/-- Strictly opposite signs. -/
def opposite (u v : α) : Bool :=
  (decide (0.0 < u) && decide (v < 0.0)) || (decide (u < 0.0) && decide (0.0 < v))

/-- Whether a value is within `tol` of zero. -/
def nearZero (tol u : α) : Bool := decide (Scalar.abs u ≤ tol)

/-- Whether segments `ab` and `cd` meet, an end counting as on a line and in a box up to
`tol`. -/
def segmentsMeet (tol : α) (a b c d : Point α) : Bool :=
  let o1 := orient a b c
  let o2 := orient a b d
  let o3 := orient c d a
  let o4 := orient c d b
  (opposite o1 o2 && opposite o3 o4) ||
    (nearZero tol o1 && withinBox tol a b c) || (nearZero tol o2 && withinBox tol a b d) ||
    (nearZero tol o3 && withinBox tol c d a) || (nearZero tol o4 && withinBox tol c d b)

/-- Whether the segment `ab` touches the closed rectangle `r`, the sides tested up to `tol`. -/
def segmentMeetsRectWithin (tol : α) (a b : Point α) (r : Rect α) : Bool :=
  let right := r.x + r.width
  let bottom := r.y + r.height
  if Scalar.max a.x b.x < r.x || right < Scalar.min a.x b.x ||
      Scalar.max a.y b.y < r.y || bottom < Scalar.min a.y b.y then false
  else if r.contains a || r.contains b then true
  else
    let c0 : Point α := ⟨r.x, r.y⟩
    let c1 : Point α := ⟨right, r.y⟩
    let c2 : Point α := ⟨right, bottom⟩
    let c3 : Point α := ⟨r.x, bottom⟩
    segmentsMeet tol a b c0 c1 || segmentsMeet tol a b c1 c2 || segmentsMeet tol a b c2 c3 ||
      segmentsMeet tol a b c3 c0

/-- Whether the segment `ab` touches the closed rectangle `r`, as the drawing tests it: with
the tolerance `1e-6`. -/
def segmentMeetsRect (a b : Point α) (r : Rect α) : Bool := segmentMeetsRectWithin 1e-6 a b r

/-- Whether some segment of a polyline touches the rectangle. -/
def polylineMeetsRect : List (Point α) → Rect α → Bool
  | a :: b :: rest, r => segmentMeetsRect a b r || polylineMeetsRect (b :: rest) r
  | _, _ => false

end FlowLayout
