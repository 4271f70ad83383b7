import FlowLayout.Chart.Flowchart
/-!
# Building a chart from statements

A `Builder` holds the chart read so far and the warnings. Nodes are interned by id: the first
mention of an id appends a node, and later mentions only fill in a missing label and upgrade a
plain rectangle to another shape. Labels are cleaned: trimmed, stripped of surrounding double
quotes, single quotes and backquotes, trimmed again, and dropped when nothing is left.

Classes attach to known nodes only, once each. Styling directives accumulate: each one is laid
over the entry already in its side table.
-/

namespace FlowLayout.Syntax

/-- Drops every leading and trailing occurrence of a character. -/
def trimMatching (c : Char) (cs : List Char) : List Char :=
  ((cs.dropWhile (· == c)).reverse.dropWhile (· == c)).reverse

/-- A label, cleaned; none when nothing is left. -/
def cleanLabel : Option String → Option String
  | none => none
  | some raw =>
    let cs := Text.trimChars raw.toList
    let cs := trimMatching (Char.ofNat 96) (trimMatching '\'' (trimMatching '"' cs))
    let cs := Text.trimChars cs
    if cs.isEmpty then none else some (String.ofList cs)

/-- A chart being read, with its warnings in order. -/
structure Builder where
  chart : Flowchart := {}
  warnings : List String := []

namespace Builder

/-- A warning appended. -/
def warn (b : Builder) (w : String) : Builder := { b with warnings := b.warnings ++ [w] }

/-- The node at index `i` replaced by `f` of it. -/
def updateNode (b : Builder) (i : Nat) (f : Node → Node) : Builder :=
  { b with chart := { b.chart with nodes := b.chart.nodes.modify i f } }

/-- A mention of a node: its index, with the chart updated. An id that is empty after
trimming is skipped with a warning. -/
def intern (b : Builder) (id : String) (label : Option String) (shape : NodeShape) :
    Option Nat × Builder :=
  let id := Text.trim id
  if id.isEmpty then (none, b.warn "Encountered empty node identifier; skipped node")
  else match b.chart.findNodeIndex id with
    | some i =>
      (some i, b.updateNode i fun n =>
        { n with
          label := if n.label.isNone then cleanLabel label else n.label
          shape := if n.shape == .rectangle && shape != .rectangle then shape else n.shape })
    | none =>
      (some b.chart.nodes.length,
        { b with chart := { b.chart with
          nodes := b.chart.nodes ++ [{ id, label := cleanLabel label, shape }] } })

/-- An edge between the nodes at two indexes. -/
def pushEdge (b : Builder) (source target : Nat) (style : EdgeStyle)
    (label color : Option String) : Builder :=
  match b.chart.nodes[source]?, b.chart.nodes[target]? with
  | some s, some t =>
    { b with chart := { b.chart with
      edges := b.chart.edges ++
        [{ source := s.id, target := t.id, label := cleanLabel label, style,
           color := cleanLabel color }] } }
  | _, _ => b

/-- Attaches a class to a known node; false when the node is unknown. -/
def addClass (b : Builder) (id cls : String) : Bool × Builder :=
  match b.chart.findNodeIndex (Text.trim id) with
  | none => (false, b)
  | some i =>
    let cls := Text.trim cls
    (true, b.updateNode i fun n =>
      if !cls.isEmpty && !n.classes.contains cls then { n with classes := n.classes ++ [cls] }
      else n)

/-- Lays a style over a node's entry. -/
def setNodeStyle (b : Builder) (id : String) (s : Style) : Builder :=
  { b with chart := { b.chart with
    nodeStyles := b.chart.nodeStyles.alter (Text.trim id) Style.empty (·.overlay s) } }

/-- Lays a style over an edge's entry. -/
def setLinkStyle (b : Builder) (i : Nat) (s : Style) : Builder :=
  { b with chart := { b.chart with
    linkStyles := b.chart.linkStyles.alter i Style.empty (·.overlay s) } }

/-- Lays a style over the default link style. -/
def setDefaultLinkStyle (b : Builder) (s : Style) : Builder :=
  { b with chart := { b.chart with
    defaultLinkStyle := some ((b.chart.defaultLinkStyle.getD Style.empty).overlay s) } }

/-- Lays a style over a class definition. -/
def defineClass (b : Builder) (name : String) (s : Style) : Builder :=
  { b with chart := { b.chart with
    classDefs := b.chart.classDefs.alter (Text.trim name) Style.empty (·.overlay s) } }

/-- The chart and the warnings, with one more warning for each link style whose edge does
not exist, by increasing index. -/
def finish (b : Builder) : Flowchart × List String :=
  let count := b.chart.edges.length
  let dangling := b.chart.linkStyles.keys.filter (· ≥ count)
  (b.chart, b.warnings ++ dangling.map fun i =>
    "linkStyle " ++ toString i ++ " refers to a missing edge (" ++ toString count ++
      " edges declared)")

end Builder

end FlowLayout.Syntax
