import FlowLayout.Json.Writer
import FlowLayout.Syntax.Document
import FlowLayout.Drawing
import FlowLayout.Report.Layout
/-!
# Charts and drawings as JSON

The data form of a chart (first section) and of a drawing, and the drawing's short summary. The summary lists, in name order, the
kinds, the counts of nodes, edges, layers and back edges, the crossings and passes, the count
of routes of each kind, the detoured and unresolved routes, the canvas as two binary64
numbers, the stage names and the number of warnings.
-/

/-!
## Charts as JSON

The full data form of styles, nodes, edges, flowcharts, diagrams and parse results. Members
appear in declaration order. A style leaves out every property it does not set, and `extra`
when it is empty; a node leaves out `classes` when it has none. Side tables are objects keyed
by node id, class name, or edge index written in decimal, in increasing key order.
-/

namespace FlowLayout

open Json

/-- A style as JSON. -/
def Style.toJson (s : Style) : Value :=
  let opt (k : String) : Option String → List (String × Value)
    | some v => [(k, .str v)]
    | none => []
  .obj (opt "fill" s.fill ++ opt "stroke" s.stroke ++ opt "stroke_width" s.strokeWidth ++
    opt "text_color" s.textColor ++
    (if s.extra.isEmpty then [] else
      [("extra", .obj (s.extra.entries.map fun (k, v) => (k, .str v)))]))

/-- A node as JSON. -/
def Node.toJson (n : Node) : Value :=
  .obj ([("id", .str n.id), ("label", .opt .str n.label), ("shape", .str n.shape.label)] ++
    (if n.classes.isEmpty then [] else [("classes", .strs n.classes)]))

/-- An edge as JSON. -/
def Edge.toJson (e : Edge) : Value :=
  .obj [("from", .str e.source), ("to", .str e.target), ("label", .opt .str e.label),
    ("style", .str e.style.label), ("color", .opt .str e.color)]

/-- A flowchart as JSON. -/
def Flowchart.toJson (c : Flowchart) : Value :=
  .obj [("direction", .str c.direction.label),
    ("nodes", .arr (c.nodes.map Node.toJson)),
    ("edges", .arr (c.edges.map Edge.toJson)),
    ("node_styles", .obj (c.nodeStyles.entries.map fun (k, s) => (k, s.toJson))),
    ("link_styles", .obj (c.linkStyles.entries.map fun (k, s) => (toString k, s.toJson))),
    ("default_link_style", .opt Style.toJson c.defaultLinkStyle),
    ("class_defs", .obj (c.classDefs.entries.map fun (k, s) => (k, s.toJson)))]

/-- A diagram as JSON: one member named for its form. -/
def Diagram.toJson : Diagram → Value
  | .flowchart c => .obj [("flowchart", c.toJson)]
  | .unsupported k src => .obj [("unsupported", .obj [("kind", .str k.label), ("source", .str src)])]

/-- A parse result as JSON. -/
def ParseResult.toJson (r : ParseResult) : Value :=
  .obj [("diagram", r.diagram.toJson), ("warnings", .strs r.warnings)]

/-- Counts of names, by name in increasing order. -/
def tally (names : List String) : Value :=
  let m : SortedMap String Nat := names.foldl (fun m n => m.alter n 0 (· + 1)) {}
  .obj (m.entries.map fun (k, n) => (k, .nat n))

/-- A short summary of a parse, members in name order: kind, direction, counts of nodes,
edges, shapes, edge styles and self-loops, and the warnings. -/
def ParseResult.summary (r : ParseResult) : Value :=
  let chart := r.diagram.chart?
  let nodes := (chart.map (·.nodes)).getD []
  let edges := (chart.map (·.edges)).getD []
  .obj [("diagram_kind", .str r.diagram.kind.name),
    ("direction", .opt (fun (c : Flowchart) => .str c.direction.name) chart),
    ("edge_count", .nat edges.length),
    ("edge_styles", tally (edges.map (·.style.name))),
    ("node_count", .nat nodes.length),
    ("self_loops", .nat (edges.filter (·.isSelfLoop)).length),
    ("shapes", tally (nodes.map (·.shape.name))),
    ("warning_count", .nat r.warnings.length),
    ("warnings", .strs r.warnings)]

end FlowLayout

namespace FlowLayout

open Json

/-- A drawn node as JSON. -/
def DrawnNode.toJson (n : DrawnNode) : Value :=
  .obj [("id", .str n.id), ("label", .str n.label), ("shape", .str n.shape.label),
    ("style", n.style.toJson)]

/-- A drawn edge as JSON. -/
def DrawnEdge.toJson (e : DrawnEdge) : Value :=
  .obj [("from", .str e.source), ("to", .str e.target), ("label", .opt .str e.label),
    ("style", .str e.style.label), ("color", .opt .str e.color),
    ("link_style", e.linkStyle.toJson)]

/-- A drawing as JSON. -/
def Drawing.toJson (d : Drawing Float32) : Value :=
  .obj [("diagram_kind", .str (if d.isFlowchart then "flowchart" else "unsupported")),
    ("detected_kind", .str d.detectedKind.label),
    ("unsupported_source", .opt .str d.unsupportedSource),
    ("direction", .opt (fun (x : Direction) => .str x.label) d.direction),
    ("nodes", .arr (d.nodes.map DrawnNode.toJson)),
    ("edges", .arr (d.edges.map DrawnEdge.toJson)),
    ("positions", .obj (d.positions.entries.map fun (k, p) => (k, p.toJson))),
    ("routed_edges", .arr (d.routedEdges.map RoutedEdge.toJson)),
    ("canvas_size", d.canvasSize.toJson),
    ("layers", layersToJson d.layers),
    ("back_edges", .arr (d.backEdges.map Value.nat)),
    ("warnings", .strs d.warnings),
    ("stats", .opt LayoutStats.toJson d.stats),
    ("trace", snapshotsToJson d.snapshots)]

/-- The short summary of a drawing, members in name order. -/
def Drawing.summary (d : Drawing Float32) : Value :=
  let stat := fun (f : LayoutStats Float32 → Nat) => Value.nat ((d.stats.map f).getD 0)
  .obj [("back_edge_count", .nat d.backEdges.length),
    ("canvas", .arr [.f64 d.canvasSize.width.toFloat, .f64 d.canvasSize.height.toFloat]),
    ("crossing_passes", stat (·.crossingPasses)),
    ("crossings_after", stat (·.crossingsAfter)),
    ("crossings_before", stat (·.crossingsBefore)),
    ("detected_kind", .str d.detectedKind.name),
    ("detoured_edges", stat (·.detouredEdges)),
    ("diagram_kind", .str (if d.isFlowchart then "flowchart" else "unsupported")),
    ("edge_count", .nat d.edges.length),
    ("layer_count", .nat d.layers.length),
    ("node_count", .nat d.nodes.length),
    ("route_kinds", tally (d.routedEdges.map (·.kind.name))),
    ("stages", .strs (d.snapshots.map (·.stage))),
    ("unresolved_edges", stat (·.unresolvedEdges)),
    ("warning_count", .nat d.warnings.length)]

end FlowLayout
