import FlowLayout.Layout.Pipeline
import FlowLayout.Syntax.Document
/-!
# Drawings

A drawing is what a diagram text becomes: for a flowchart, its nodes with display labels and
resolved styles, its edges with resolved colours and link styles, and its layout; for a text
of another kind, the text itself with an empty canvas and no layout.
-/

namespace FlowLayout

/-- A node as drawn. -/
structure DrawnNode where
  id : String
  label : String
  shape : NodeShape
  style : Style

/-- An edge as drawn. -/
structure DrawnEdge where
  source : String
  target : String
  label : Option String
  style : EdgeStyle
  color : Option String
  linkStyle : Style

/-- A processed diagram text. -/
structure Drawing (α : Type) where
  isFlowchart : Bool
  detectedKind : DiagramKind
  unsupportedSource : Option String
  direction : Option Direction
  nodes : List DrawnNode
  edges : List DrawnEdge
  positions : SortedMap String (Point α)
  routedEdges : List (RoutedEdge α)
  canvasSize : Size α
  layers : List (List String)
  backEdges : List Nat
  warnings : List String
  stats : Option (LayoutStats α)
  snapshots : List StageSnapshot
  passCrossings : List Nat
  /-- The layout run behind a flowchart's drawing. -/
  run : Option (TracedLayout α)

variable {α : Type} [Scalar α]

/-- The drawing of a parsed diagram under the given settings. -/
def Drawing.ofParse (parsed : ParseResult) (config : LayoutConfig α) : Drawing α :=
  match parsed.diagram with
  | .unsupported kind source =>
    { isFlowchart := false, detectedKind := kind, unsupportedSource := some source,
      direction := none, nodes := [], edges := [], positions := {}, routedEdges := [],
      canvasSize := ⟨0.0, 0.0⟩, layers := [], backEdges := [], warnings := parsed.warnings,
      stats := none, snapshots := [], passCrossings := [], run := none }
  | .flowchart chart =>
    let traced := layoutChart chart config
    let l := traced.layout
    { isFlowchart := true, detectedKind := .flowchart, unsupportedSource := none,
      direction := some chart.direction
      nodes := chart.nodes.map fun n =>
        { id := n.id, label := n.displayLabel, shape := n.shape,
          style := chart.resolvedNodeStyle n.id }
      edges := chart.edges.zipIdx.map fun (e, i) =>
        { source := e.source, target := e.target, label := e.label, style := e.style,
          color := chart.resolvedEdgeColor i, linkStyle := chart.resolvedEdgeStyle i }
      positions := l.positions, routedEdges := l.routedEdges, canvasSize := l.canvas,
      layers := l.layers, backEdges := l.backEdges, warnings := parsed.warnings,
      stats := some l.stats, snapshots := traced.snapshots,
      passCrossings := traced.passCrossings, run := some traced }

/-- The drawing of a diagram text under the given settings. -/
def Drawing.ofText (input : String) (config : LayoutConfig α) : Drawing α :=
  Drawing.ofParse (parseDiagram input) config

/-- The first layer holding a node with the id. -/
def Drawing.layerOf? (d : Drawing α) (id : String) : Option Nat :=
  d.layers.findIdx? (·.contains id)

/-- Whether the text was kept verbatim. -/
def Drawing.isUnsupported (d : Drawing α) : Bool := !d.isFlowchart

end FlowLayout
