import FlowLayout.Geometry.Plane
import FlowLayout.Chart.Basic
/-!
# Routes and their anchors

A routed edge has two anchors on the outlines of its end nodes, waypoints between them, and
for a curve a control point. Its polyline (`points`) runs from the first anchor through the
waypoints to the second; a curved route is drawn along the quadratic Bézier curve through the
control point, flattened into 16 segments (`pathPoints`).

`simplifyPolyline` drops a point equal to the one before it, and the middle one of three
consecutive points on a common vertical or horizontal line (within `0.001`).
-/

namespace FlowLayout

/-- How an edge is drawn. -/
inductive RouteKind where
  | straight
  | curved
  | orthogonal
  | selfLoop
  deriving DecidableEq, Repr

/-- The name of a route kind. -/
def RouteKind.name : RouteKind → String
  | .straight => "straight"
  | .curved => "curved"
  | .orthogonal => "orthogonal"
  | .selfLoop => "self_loop"

/-- An edge's route. -/
structure RoutedEdge (α : Type) where
  edgeIndex : Nat
  anchorFrom : Point α
  anchorTo : Point α
  waypoints : List (Point α)
  controlPoint : Option (Point α)
  kind : RouteKind
  backEdge : Bool
  clear : Bool

variable {α : Type} [Scalar α]

/-- Points of the quadratic curve from `p` through control `c` to `q` at `t = 0, 1/16, …, 1`. -/
def quadraticPoints (p c q : Point α) : List (Point α) :=
  (List.range 17).map fun step =>
    let t : α := Scalar.ofNat step / Scalar.ofNat 16
    let u : α := 1.0 - t
    ⟨u * u * p.x + 2.0 * u * t * c.x + t * t * q.x, u * u * p.y + 2.0 * u * t * c.y + t * t * q.y⟩

namespace RoutedEdge

/-- Anchors and waypoints in order. -/
def points (r : RoutedEdge α) : List (Point α) := r.anchorFrom :: r.waypoints ++ [r.anchorTo]

/-- The drawn polyline: the flattened curve for a curved route, the points otherwise. -/
def pathPoints (r : RoutedEdge α) : List (Point α) :=
  match r.controlPoint, r.kind with
  | some c, .curved => quadraticPoints r.anchorFrom c r.anchorTo
  | _, _ => r.points

end RoutedEdge

/-- Whether `a`, `b`, `c` share a vertical or a horizontal line, within `0.001`. -/
def axisCollinear (a b c : Point α) : Bool :=
  let eps : α := 0.001
  (decide (Scalar.abs (a.x - b.x) < eps) && decide (Scalar.abs (b.x - c.x) < eps)) ||
    (decide (Scalar.abs (a.y - b.y) < eps) && decide (Scalar.abs (b.y - c.y) < eps))

/-- Drops the middle of the last three points (kept reversed, last first) while they share an
axis line; each drop shortens the list, so its length bounds the steps. -/
def dropCollinear : Nat → List (Point α) → List (Point α)
  | 0, acc => acc
  | fuel + 1, c :: b :: a :: rest =>
    if axisCollinear a b c then dropCollinear fuel (c :: a :: rest) else c :: b :: a :: rest
  | _ + 1, acc => acc

/-- The polyline without repeated points and without middles of axis-aligned runs. -/
def simplifyPolyline (points : List (Point α)) : List (Point α) :=
  if points.length ≤ 2 then points
  else
    (points.foldl (fun (acc : List (Point α)) p =>
      match acc with
      | last :: _ => if last.same p then acc else dropCollinear (acc.length + 1) (p :: acc)
      | [] => [p]) []).reverse

end FlowLayout

/-!
## Anchors on node outlines

An edge leaves a node where the line from its centre toward the other end meets its outline.
A circle node is drawn as the ellipse inscribed in its box, and the anchor is the point of the
ellipse at the angle of that direction. A hexagon is the outline `max(|y|, |x| + ½|y|) = 1` in
coordinates where the box spans `[-1, 1]²`, and the anchor is the direction scaled onto it.
Every other shape anchors at the middle of the box side that the direction points at most
directly. A direction shorter than `0.001` on both axes anchors at the centre.

A self-loop leaves a node through one side and comes back through the same side, 24 beyond
it, at 30% and 70% of that side.
-/

namespace FlowLayout

variable {α : Type} [Scalar α]

/-- Where the outline of a node of the given shape and box meets the direction toward a
point. -/
def shapeAnchor (shape : NodeShape) (r : Rect α) (toward : Point α) : Point α :=
  let c := r.center
  let dx := toward.x - c.x
  let dy := toward.y - c.y
  let eps : α := 0.001
  if Scalar.abs dx < eps && Scalar.abs dy < eps then c
  else
    let hw := r.width / 2.0
    let hh := r.height / 2.0
    match shape with
    | .circle =>
      let angle := Scalar.atan2 dy dx
      ⟨c.x + hw * Scalar.cos angle, c.y + hh * Scalar.sin angle⟩
    | .hexagon =>
      let ux := dx / Scalar.max hw eps
      let uy := dy / Scalar.max hh eps
      let reach := Scalar.max (Scalar.abs uy) (Scalar.abs ux + (1.0 - 0.5) * Scalar.abs uy)
      ⟨c.x + ux / reach * hw, c.y + uy / reach * hh⟩
    | _ =>
      if Scalar.abs dy / Scalar.max hh eps ≤ Scalar.abs dx / Scalar.max hw eps then
        ⟨c.x + Scalar.copySign hw dx, c.y⟩
      else ⟨c.x, c.y + Scalar.copySign hh dy⟩

/-- The four points of a self-loop on the side of `r` facing `(nx, ny)`: leaving, two outer
corners, returning. -/
def loopPoints (r : Rect α) (nx ny : α) : List (Point α) :=
  let c := r.center
  if Scalar.abs ny < Scalar.abs nx then
    let side := c.x + nx * r.width / 2.0
    let outer := side + nx * 24.0
    let upper := r.y + r.height * 0.3
    let lower := r.y + r.height * 0.7
    [⟨side, upper⟩, ⟨outer, upper⟩, ⟨outer, lower⟩, ⟨side, lower⟩]
  else
    let side := c.y + ny * r.height / 2.0
    let outer := side + ny * 24.0
    let left := r.x + r.width * 0.3
    let right := r.x + r.width * 0.7
    [⟨left, side⟩, ⟨left, outer⟩, ⟨right, outer⟩, ⟨right, side⟩]

/-- The sides a self-loop tries, in order: right, left, below, above. -/
def loopSides : List (α × α) := [(1.0, 0.0), (-1.0, 0.0), (0.0, 1.0), (0.0, -1.0)]

end FlowLayout
