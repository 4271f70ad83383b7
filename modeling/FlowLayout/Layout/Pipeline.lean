import FlowLayout.Layout.Coordinates
import FlowLayout.Layout.Routing
/-!
# Laying out a chart

`layoutChart` runs the stages in order on repaired settings: back edges, layers, crossing
reduction, complexity and spacing, centres, routes. After each stage it records a snapshot of
the counts known so far. The result places every node (duplicates included), maps each id to
the centre of its first node, lists the layers by id, and sums up the run in `LayoutStats`.
-/

namespace FlowLayout

/-- Where a node ends up. -/
structure NodePlacement (α : Type) where
  nodeIndex : Nat
  nodeId : String
  layer : Nat
  order : Nat
  center : Point α
  bounds : Rect α
  shape : NodeShape

/-- Counts and totals of a layout run. -/
structure LayoutStats (α : Type) where
  nodeCount : Nat
  edgeCount : Nat
  layerCount : Nat
  backEdgeCount : Nat
  crossingsBefore : Nat
  crossingsAfter : Nat
  crossingPasses : Nat
  transposeSwaps : Nat
  seededLayering : Bool
  detouredEdges : Nat
  unresolvedEdges : Nat
  totalEdgeLength : α

/-- The counts after one stage. -/
structure StageSnapshot where
  stage : String
  nodeCount : Nat
  edgeCount : Nat
  backEdges : Nat
  layerCount : Nat
  crossingCount : Nat

/-- A laid-out chart. -/
structure FlowchartLayout (α : Type) where
  direction : Direction
  layers : List (List String)
  nodes : List (NodePlacement α)
  positions : SortedMap String (Point α)
  routedEdges : List (RoutedEdge α)
  backEdges : List Nat
  canvas : Size α
  spacing : Spacing α
  complexity : ComplexityReport α
  stats : LayoutStats α

/-- A layout with the snapshots of its stages and the crossings after each reduction pass. -/
structure TracedLayout (α : Type) where
  layout : FlowchartLayout α
  snapshots : List StageSnapshot
  passCrossings : List Nat

variable {α : Type} [Scalar α]

/-- The length of a polyline: the sum of its segments' lengths. -/
def polylineLength (points : List (Point α)) : α :=
  Scalar.sum ((points.zip (points.drop 1)).map fun (p, q) =>
    let dx := q.x - p.x
    let dy := q.y - p.y
    Scalar.sqrt (dx * dx + dy * dy))

/-- Lays out a chart with the given settings, repaired first. -/
def layoutChart (chart : Flowchart) (settings : LayoutConfig α) : TracedLayout α :=
  let config := settings.sanitized
  let g := LayoutGraph.ofChart chart
  let n := g.nodeCount
  let m := g.edgeCount
  let snapshot := fun (stage : String) (back layers crossings : Nat) =>
    ({ stage, nodeCount := n, edgeCount := m, backEdges := back, layerCount := layers,
       crossingCount := crossings } : StageSnapshot)
  let back := g.backEdges
  let layering := g.assignLayers back
  let initial := totalCrossings (Adjacency.build g layering.layerOf)
    ((layering.layers.map List.toArray).toArray) n
  let ordering := minimizeCrossings g layering.layers layering.layerOf config.crossingPasses
    config.transposeRounds
  let complexity : ComplexityReport α := analyzeComplexity chart ordering.layers
  let spacing := spacingFor complexity config
  let placement := assignCoordinates g ordering.layers layering.layerOf chart.direction spacing
    config
  let boxes := placement.centers.map fun c => Rect.fromCenter c spacing.nodeWidth spacing.nodeHeight
  let routes := routeEdges chart g boxes back config
  let layerCount := ordering.layers.size
  let orderOf := ordering.layers.foldl (fun (a : Array Nat) layer =>
    layer.toList.zipIdx.foldl (fun a (v, i) => a.setIfInBounds v i) a) (Array.replicate n 0)
  let nodes := chart.nodes.zipIdx.map fun (node, i) =>
    ({ nodeIndex := i, nodeId := node.id, layer := layering.layerOf.getD i 0,
       order := orderOf.getD i 0, center := placement.centers.getD i ⟨0.0, 0.0⟩,
       bounds := boxes.getD i ⟨0.0, 0.0, 0.0, 0.0⟩, shape := node.shape } : NodePlacement α)
  let positions := nodes.foldl (fun (m : SortedMap String (Point α)) p =>
    if m.contains p.nodeId then m else m.insert p.nodeId p.center) {}
  let stats : LayoutStats α :=
    { nodeCount := n, edgeCount := m, layerCount, backEdgeCount := back.count,
      crossingsBefore := ordering.crossingsBefore, crossingsAfter := ordering.crossingsAfter,
      crossingPasses := ordering.passes, transposeSwaps := ordering.swaps,
      seededLayering := layering.seeded,
      detouredEdges := (routes.filter (·.kind == .orthogonal)).length,
      unresolvedEdges := (routes.filter (!·.clear)).length,
      totalEdgeLength := Scalar.sum (routes.map fun r => polylineLength r.points) }
  { layout :=
      { direction := chart.direction
        layers := ordering.layers.toList.map fun l => l.toList.map g.id
        nodes, positions, routedEdges := routes, backEdges := back.edges
        canvas := placement.canvas, spacing, complexity, stats }
    snapshots :=
      [snapshot "cycle_breaking" back.count 0 0,
        snapshot "layer_assignment" back.count layering.layers.length initial,
        snapshot "crossing_minimization" back.count layerCount ordering.crossingsAfter,
        snapshot "complexity_analysis" back.count layerCount ordering.crossingsAfter,
        snapshot "coordinate_assignment" back.count layerCount ordering.crossingsAfter,
        snapshot "edge_routing" back.count layerCount ordering.crossingsAfter]
    passCrossings := ordering.passCrossings }

namespace FlowchartLayout

/-- The placement of the first node with the id. -/
def node? (l : FlowchartLayout α) (id : String) : Option (NodePlacement α) :=
  l.nodes.find? (·.nodeId == id)

/-- The layer of the first node with the id. -/
def layerOf? (l : FlowchartLayout α) (id : String) : Option Nat := (l.node? id).map (·.layer)

/-- Whether an edge is a back edge. -/
def isBackEdge (l : FlowchartLayout α) (e : Nat) : Bool := l.backEdges.contains e

/-- The route of an edge. -/
def routedEdge? (l : FlowchartLayout α) (e : Nat) : Option (RoutedEdge α) :=
  l.routedEdges.find? (·.edgeIndex == e)

end FlowchartLayout

end FlowLayout
