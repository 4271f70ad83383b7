import FlowLayout.Chart.Basic
import FlowLayout.Chart.Kind
import FlowLayout.Chart.Style
/-!
# Flowcharts and diagrams

A flowchart is a direction, nodes in declaration order, edges, and styling kept in side
tables keyed by node id or edge index, so that layout never looks at styling.

Styles resolve by overlay. A node's style is the style of each of its classes, in the order
the classes were attached, with the node's own `style` entry on top; the first node with the
id supplies the classes. An edge's style is the default link style with the edge's own
`linkStyle` entry on top. An edge's colour is its own colour, or else the stroke of its
resolved style; an index past the last edge has no colour.

A diagram is a flowchart, or a text of another kind kept verbatim.
-/

namespace FlowLayout

/-- A flowchart with its styling side tables. -/
structure Flowchart where
  direction : Direction := .topDown
  nodes : List Node := []
  edges : List Edge := []
  nodeStyles : SortedMap String Style := {}
  linkStyles : SortedMap Nat Style := {}
  defaultLinkStyle : Option Style := none
  classDefs : SortedMap String Style := {}

namespace Flowchart

/-- The position of the first node with the id. -/
def findNodeIndex (c : Flowchart) (id : String) : Option Nat := c.nodes.findIdx? (·.id == id)

/-- The first node with the id. -/
def node? (c : Flowchart) (id : String) : Option Node := c.nodes.find? (·.id == id)

/-- Class styles in attachment order, then the node's own entry. -/
def resolvedNodeStyle (c : Flowchart) (id : String) : Style :=
  let fromClasses := match c.node? id with
    | some n => n.classes.foldl (fun s cls =>
        match c.classDefs.get? cls with
        | some cs => s.overlay cs
        | none => s) Style.empty
    | none => Style.empty
  match c.nodeStyles.get? id with
  | some own => fromClasses.overlay own
  | none => fromClasses

/-- The default link style, then the edge's own entry. -/
def resolvedEdgeStyle (c : Flowchart) (i : Nat) : Style :=
  let base := c.defaultLinkStyle.getD Style.empty
  match c.linkStyles.get? i with
  | some own => base.overlay own
  | none => base

/-- The edge's own colour, else its resolved stroke. -/
def resolvedEdgeColor (c : Flowchart) (i : Nat) : Option String :=
  match c.edges[i]? with
  | none => none
  | some e => e.color <|> (c.resolvedEdgeStyle i).stroke

end Flowchart

/-- A parsed diagram: a flowchart, or a text of another kind kept verbatim. -/
inductive Diagram where
  | flowchart (chart : Flowchart)
  | unsupported (kind : DiagramKind) (source : String)

namespace Diagram

/-- The kind of the diagram. -/
def kind : Diagram → DiagramKind
  | .flowchart _ => .flowchart
  | .unsupported k _ => k

/-- The flowchart, if it is one. -/
def chart? : Diagram → Option Flowchart
  | .flowchart c => some c
  | .unsupported _ _ => none

/-- Whether the diagram is kept as text. -/
def isUnsupported : Diagram → Bool
  | .flowchart _ => false
  | .unsupported _ _ => true

end Diagram

end FlowLayout
