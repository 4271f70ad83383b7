import FlowLayout.Layout.Ordering
import FlowLayout.Layout.Complexity
import FlowLayout.Geometry.Plane
/-!
# Node centres

The layer axis runs down (or up) for vertical charts and right (or left) for horizontal ones;
the cross axis is the other one. Along the layer axis a node of layer `l` sits at
`rank · (primary extent + layer spacing)`, where the rank is `l`, or counts from the far end
for reversed directions.

Across, nodes of a layer keep their order with at least `cross extent + node spacing` between
neighbours. Two sweeps place them: down the layers, each node aims at the median across
position of its neighbours in earlier layers (or at its slot in a centred row when it has
none); then up the layers, each node aims at the median of all its neighbours in other layers
(or stays). A layer is placed by pushing each node right of its aim as far as the gap needs,
and then shifting the whole layer back by the mean push.

Last, the drawing is moved so that the content starts at the margin at the top and is centred
across a canvas at least the target width wide.
-/

namespace FlowLayout

variable {α : Type} [Scalar α]

/-- Each node's neighbours through resolved edges that are not self-loops, both ways, in
edge order. -/
def neighbourLists (g : LayoutGraph) : Array (List Nat) :=
  g.edges.foldl (fun (a : Array (List Nat)) (_, s, t) =>
    if s == t then a else (a.modify s (· ++ [t])).modify t (· ++ [s]))
    (Array.replicate g.nodeCount [])

/-- The median of values in the total order: the middle one, or the mean of the two middle
ones. -/
def medianOf (values : List α) : Option α :=
  let sorted := Scalar.sortTotal values
  let mid := sorted.length / 2
  match sorted[mid]? with
  | none => none
  | some m =>
    if sorted.length % 2 == 1 then some m
    else match sorted[mid - 1]? with
      | some l => some ((l + m) / 2.0)
      | none => some m

/-- The slot of position `order` in a row of `len` nodes centred on zero. -/
def centeredSlot (order len : Nat) (gap : α) : α :=
  (Scalar.ofNat order - Scalar.ofNat (len - 1) / 2.0) * gap

/-- Places a layer at its aims: each node at its aim or a gap after the previous one, then all
shifted by the mean difference between aims and places. -/
def placeLayer (layer : Array Nat) (ideal : List α) (gap : α) (cross : Array α) : Array α :=
  let placed := (ideal.foldl (fun (acc : List α) target =>
    match acc with
    | [] => [target]
    | previous :: _ => Scalar.max target (previous + gap) :: acc) []).reverse
  let drift : α :=
    if placed.isEmpty then 0.0
    else Scalar.sum ((ideal.zip placed).map fun (t, p) => t - p) / Scalar.ofNat placed.length
  (layer.toList.zip placed).foldl (fun c (v, p) => c.setIfInBounds v (p + drift)) cross

/-- Centres of all nodes and the canvas size. -/
structure Placement (α : Type) where
  centers : Array (Point α)
  canvas : Size α

/-- Moves the centres so that the content sits at the margin and is centred across a canvas
at least the target width wide. -/
def recenter (centers : Array (Point α)) (spacing : Spacing α) (config : LayoutConfig α) :
    Placement α :=
  if centers.isEmpty then { centers, canvas := ⟨config.targetWidth, 2.0 * config.margin⟩ }
  else
    let hw := spacing.nodeWidth / 2.0
    let hh := spacing.nodeHeight / 2.0
    -- the bounds start from the largest finite value and its negative
    let init : α × α × α × α :=
      (Scalar.largest, -Scalar.largest, Scalar.largest, -Scalar.largest)
    let (minX, maxX, minY, maxY) := centers.toList.foldl (fun (b : α × α × α × α) c =>
      (Scalar.min b.1 (c.x - hw), Scalar.max b.2.1 (c.x + hw),
        Scalar.min b.2.2.1 (c.y - hh), Scalar.max b.2.2.2 (c.y + hh))) init
    let contentWidth := maxX - minX
    let contentHeight := maxY - minY
    let width := Scalar.max (contentWidth + 2.0 * config.margin) config.targetWidth
    let height := contentHeight + 2.0 * config.margin
    let shiftX := (width - contentWidth) / 2.0 - minX
    let shiftY := config.margin - minY
    { centers := centers.map fun c => ⟨c.x + shiftX, c.y + shiftY⟩, canvas := ⟨width, height⟩ }

/-- The cross positions of the nodes after both sweeps, before recentering, with `gap` between
neighbours of a layer: down the layers, then up. -/
def crossPositions (g : LayoutGraph) (layers : Array (Array Nat)) (layerOf : Array Nat)
    (gap : α) : Array α :=
  let neighbours := neighbourLists g
  let layerAt := fun (v : Nat) => layerOf.getD v 0
  let down := layers.foldl (fun (cross : Array α) layer =>
    let ideal := layer.toList.zipIdx.map fun (v, order) =>
      let anchors := ((neighbours.getD v []).filter fun o => layerAt o < layerAt v).map
        fun o => cross.getD o 0.0
      (medianOf anchors).getD (centeredSlot order layer.size gap)
    placeLayer layer ideal gap cross) (Array.replicate g.nodeCount 0.0)
  layers.toList.reverse.foldl (fun (cross : Array α) layer =>
    let ideal := layer.toList.map fun v =>
      let anchors := ((neighbours.getD v []).filter fun o => layerAt o != layerAt v).map
        fun o => cross.getD o 0.0
      (medianOf anchors).getD (cross.getD v 0.0)
    placeLayer layer ideal gap cross) down

/-- Centres for an ordering of the graph's layers. -/
def assignCoordinates (g : LayoutGraph) (layers : Array (Array Nat)) (layerOf : Array Nat)
    (direction : Direction) (spacing : Spacing α) (config : LayoutConfig α) : Placement α :=
  let horizontal := direction.isHorizontal
  let crossExtent := if horizontal then spacing.nodeHeight else spacing.nodeWidth
  let primaryExtent := if horizontal then spacing.nodeWidth else spacing.nodeHeight
  let cross := crossPositions g layers layerOf (crossExtent + spacing.nodeSpacing)
  let layerAt := fun (v : Nat) => layerOf.getD v 0
  let step := primaryExtent + spacing.layerSpacing
  let count := layers.size
  let centers := cross.toList.zipIdx.map fun (across, v) =>
    let layer := layerAt v
    let rank := if direction.isReversed then count - 1 - layer else layer
    let along : α := Scalar.ofNat rank * step
    (if horizontal then ⟨along, across⟩ else ⟨across, along⟩ : Point α)
  recenter centers.toArray spacing config

end FlowLayout
