import FlowLayout.Json.Writer
import FlowLayout.Layout.Pipeline
import FlowLayout.Geometry.Scalar
/-!
# Layouts as JSON

The data form of a binary32 layout: points, sizes, rectangles, placements, routes, spacing,
complexity, statistics, stage snapshots and settings, members in declaration order. Numbers
of the drawing are binary32 and print with the digits binary32 needs.
-/

namespace FlowLayout

open Json

/-- A point as JSON. -/
def Point.toJson (p : Point Float32) : Value := .obj [("x", .f32 p.x), ("y", .f32 p.y)]

/-- A size as JSON. -/
def Size.toJson (s : Size Float32) : Value :=
  .obj [("width", .f32 s.width), ("height", .f32 s.height)]

/-- A rectangle as JSON. -/
def Rect.toJson (r : Rect Float32) : Value :=
  .obj [("x", .f32 r.x), ("y", .f32 r.y), ("width", .f32 r.width), ("height", .f32 r.height)]

/-- A placement as JSON. -/
def NodePlacement.toJson (p : NodePlacement Float32) : Value :=
  .obj [("node_index", .nat p.nodeIndex), ("node_id", .str p.nodeId), ("layer", .nat p.layer),
    ("order", .nat p.order), ("center", p.center.toJson), ("bounds", p.bounds.toJson),
    ("shape", .str p.shape.label)]

/-- A route as JSON. -/
def RoutedEdge.toJson (r : RoutedEdge Float32) : Value :=
  .obj [("edge_index", .nat r.edgeIndex), ("anchor_from", r.anchorFrom.toJson),
    ("anchor_to", r.anchorTo.toJson), ("waypoints", .arr (r.waypoints.map Point.toJson)),
    ("control_point", .opt Point.toJson r.controlPoint), ("kind", .str r.kind.name),
    ("back_edge", .bool r.backEdge), ("clear", .bool r.clear)]

/-- Spacing as JSON. -/
def Spacing.toJson (s : Spacing Float32) : Value :=
  .obj [("node_width", .f32 s.nodeWidth), ("node_height", .f32 s.nodeHeight),
    ("node_spacing", .f32 s.nodeSpacing), ("layer_spacing", .f32 s.layerSpacing)]

/-- A complexity report as JSON. -/
def ComplexityReport.toJson (r : ComplexityReport Float32) : Value :=
  .obj [("class", .str r.cls.name), ("node_count", .nat r.nodeCount),
    ("edge_count", .nat r.edgeCount), ("edge_density", .f32 r.edgeDensity),
    ("max_layer_width", .nat r.maxLayerWidth), ("longest_label", .nat r.longestLabel)]

/-- Statistics as JSON. -/
def LayoutStats.toJson (s : LayoutStats Float32) : Value :=
  .obj [("node_count", .nat s.nodeCount), ("edge_count", .nat s.edgeCount),
    ("layer_count", .nat s.layerCount), ("back_edge_count", .nat s.backEdgeCount),
    ("crossings_before", .nat s.crossingsBefore), ("crossings_after", .nat s.crossingsAfter),
    ("crossing_passes", .nat s.crossingPasses), ("transpose_swaps", .nat s.transposeSwaps),
    ("seeded_layering", .bool s.seededLayering), ("detoured_edges", .nat s.detouredEdges),
    ("unresolved_edges", .nat s.unresolvedEdges),
    ("total_edge_length", .f32 s.totalEdgeLength)]

/-- A snapshot as JSON. -/
def StageSnapshot.toJson (s : StageSnapshot) : Value :=
  .obj [("stage", .str s.stage), ("node_count", .nat s.nodeCount),
    ("edge_count", .nat s.edgeCount), ("back_edges", .nat s.backEdges),
    ("layer_count", .nat s.layerCount), ("crossing_count", .nat s.crossingCount)]

/-- Snapshots as the trace object. -/
def snapshotsToJson (snapshots : List StageSnapshot) : Value :=
  .obj [("snapshots", .arr (snapshots.map StageSnapshot.toJson))]

/-- Layers of ids as JSON. -/
def layersToJson (layers : List (List String)) : Value := .arr (layers.map Value.strs)

/-- A layout as JSON. -/
def FlowchartLayout.toJson (l : FlowchartLayout Float32) : Value :=
  .obj [("direction", .str l.direction.label), ("layers", layersToJson l.layers),
    ("nodes", .arr (l.nodes.map NodePlacement.toJson)),
    ("positions", .obj (l.positions.entries.map fun (k, p) => (k, p.toJson))),
    ("routed_edges", .arr (l.routedEdges.map RoutedEdge.toJson)),
    ("back_edges", .arr (l.backEdges.map Value.nat)), ("canvas", l.canvas.toJson),
    ("spacing", l.spacing.toJson), ("complexity", l.complexity.toJson),
    ("stats", l.stats.toJson)]

/-- A traced layout as JSON. -/
def TracedLayout.toJson (t : TracedLayout Float32) : Value :=
  .obj [("layout", t.layout.toJson), ("trace", snapshotsToJson t.snapshots)]

/-- Settings as JSON. -/
def LayoutConfig.toJson (c : LayoutConfig Float32) : Value :=
  .obj [("crossing_passes", .nat c.crossingPasses), ("transpose_rounds", .nat c.transposeRounds),
    ("target_width", .f32 c.targetWidth), ("margin", .f32 c.margin),
    ("obstacle_padding", .f32 c.obstaclePadding), ("detour_step", .f32 c.detourStep),
    ("detour_attempts", .nat c.detourAttempts), ("curve_factor", .f32 c.curveFactor),
    ("stub_length", .f32 c.stubLength)]

end FlowLayout
