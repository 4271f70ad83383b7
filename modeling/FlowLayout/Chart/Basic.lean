/-!
# Directions, shapes, edge styles, nodes and edges

The vocabulary of a flowchart. A direction says which way layers advance: down, up, right or
left. A node has an id, an optional label, one of eleven shapes and a list of class names; it
is drawn with its label, or with its id when it has none. An edge joins two node ids, with an
optional label, a line style and an optional colour.

Each enumeration has a short `name` (as summaries write it) and a `label` (as full data dumps
write it), and `ofLabel?` reads a label back.
-/

namespace FlowLayout

/-- Which way layers advance. -/
inductive Direction where
  | topDown
  | bottomToTop
  | leftToRight
  | rightToLeft
  deriving DecidableEq, Repr, Inhabited

namespace Direction

/-- `TD`, `BT`, `LR` or `RL`. -/
def name : Direction → String
  | .topDown => "TD"
  | .bottomToTop => "BT"
  | .leftToRight => "LR"
  | .rightToLeft => "RL"

/-- The full name. -/
def label : Direction → String
  | .topDown => "TopDown"
  | .bottomToTop => "BottomToTop"
  | .leftToRight => "LeftToRight"
  | .rightToLeft => "RightToLeft"

/-- The direction a header token names; `TB` is a second name for top-down. Case matters. -/
def ofToken : String → Option Direction
  | "TD" | "TB" => some .topDown
  | "BT" => some .bottomToTop
  | "LR" => some .leftToRight
  | "RL" => some .rightToLeft
  | _ => none

/-- Layers advance along the x axis. -/
def isHorizontal : Direction → Bool
  | .leftToRight | .rightToLeft => true
  | _ => false

/-- Layer 0 sits at the far end of the layer axis. -/
def isReversed : Direction → Bool
  | .bottomToTop | .rightToLeft => true
  | _ => false

end Direction

/-- The outline a node is drawn with. -/
inductive NodeShape where
  | rectangle
  | roundedRect
  | stadium
  | subroutine
  | cylinder
  | circle
  | rhombus
  | hexagon
  | parallelogram
  | trapezoid
  | asymmetric
  deriving DecidableEq, Repr, Inhabited

namespace NodeShape

/-- Every shape, in declaration order. -/
def all : List NodeShape :=
  [.rectangle, .roundedRect, .stadium, .subroutine, .cylinder, .circle, .rhombus, .hexagon,
    .parallelogram, .trapezoid, .asymmetric]

/-- The short name. -/
def name : NodeShape → String
  | .rectangle => "rectangle"
  | .roundedRect => "roundedRect"
  | .stadium => "stadium"
  | .subroutine => "subroutine"
  | .cylinder => "cylinder"
  | .circle => "circle"
  | .rhombus => "rhombus"
  | .hexagon => "hexagon"
  | .parallelogram => "parallelogram"
  | .trapezoid => "trapezoid"
  | .asymmetric => "asymmetric"

/-- The full name. -/
def label : NodeShape → String
  | .rectangle => "Rectangle"
  | .roundedRect => "RoundedRect"
  | .stadium => "Stadium"
  | .subroutine => "Subroutine"
  | .cylinder => "Cylinder"
  | .circle => "Circle"
  | .rhombus => "Rhombus"
  | .hexagon => "Hexagon"
  | .parallelogram => "Parallelogram"
  | .trapezoid => "Trapezoid"
  | .asymmetric => "Asymmetric"

/-- The shape with a full name. -/
def ofLabel? (s : String) : Option NodeShape := all.find? (·.label == s)

end NodeShape

/-- The line an edge is drawn with. -/
inductive EdgeStyle where
  | solid
  | dotted
  | thick
  deriving DecidableEq, Repr, Inhabited

namespace EdgeStyle

/-- The short name. -/
def name : EdgeStyle → String
  | .solid => "solid"
  | .dotted => "dotted"
  | .thick => "thick"

/-- The full name. -/
def label : EdgeStyle → String
  | .solid => "Solid"
  | .dotted => "Dotted"
  | .thick => "Thick"

/-- The style with a full name. -/
def ofLabel? : String → Option EdgeStyle
  | "Solid" => some .solid
  | "Dotted" => some .dotted
  | "Thick" => some .thick
  | _ => none

end EdgeStyle

/-- A node: id, optional label, shape and class names. -/
structure Node where
  id : String
  label : Option String := none
  shape : NodeShape := .rectangle
  classes : List String := []
  deriving DecidableEq, Repr, Inhabited

/-- The text drawn in a node: its label, or its id. -/
def Node.displayLabel (n : Node) : String := n.label.getD n.id

/-- An edge between two node ids. -/
structure Edge where
  source : String
  target : String
  label : Option String := none
  style : EdgeStyle := .solid
  color : Option String := none
  deriving DecidableEq, Repr, Inhabited

/-- An edge from a node to itself. -/
def Edge.isSelfLoop (e : Edge) : Bool := e.source == e.target

end FlowLayout
