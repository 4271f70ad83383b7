import FlowLayout.Layout.Config
import FlowLayout.Chart.Flowchart
import FlowLayout.Text.Grapheme
/-!
# Complexity and spacing

A chart is complex when it has more than 20 nodes, more than 2 edges per node or a layer wider
than 6; moderate when it has more than 8 nodes, more than 1.3 edges per node or a layer wider
than 3; simple otherwise. Each class has a profile: base and largest node width, node height,
and the ratios of node spacing to node width and of layer spacing to node height.

A node is wide enough for the longest label (7.5 per grapheme cluster plus 24), kept within
the profile's widths. A complex chart with a layer of several nodes narrows its nodes so that
the widest layer fits the target width less the margins, but never below 48.
-/

namespace FlowLayout

/-- How busy a chart is. -/
inductive ComplexityClass where
  | simple
  | moderate
  | complex
  deriving DecidableEq, Repr

/-- The name of a class. -/
def ComplexityClass.name : ComplexityClass → String
  | .simple => "simple"
  | .moderate => "moderate"
  | .complex => "complex"

/-- The measures that decide the class. -/
structure ComplexityReport (α : Type) where
  cls : ComplexityClass
  nodeCount : Nat
  edgeCount : Nat
  edgeDensity : α
  maxLayerWidth : Nat
  longestLabel : Nat

/-- Node size and the gaps between nodes and between layers. -/
structure Spacing (α : Type) where
  nodeWidth : α
  nodeHeight : α
  nodeSpacing : α
  layerSpacing : α

/-- A class's widths, height and spacing ratios. -/
structure Profile (α : Type) where
  baseWidth : α
  maxWidth : α
  height : α
  nodeSpacingRatio : α
  layerSpacingRatio : α

variable {α : Type} [Scalar α]

/-- The profile of a class. -/
def ComplexityClass.profile : ComplexityClass → Profile α
  | .simple => ⟨140.0, 220.0, 56.0, 0.45, 1.4⟩
  | .moderate => ⟨120.0, 180.0, 50.0, 0.35, 1.2⟩
  | .complex => ⟨100.0, 140.0, 44.0, 0.25, 1.0⟩

/-- The measures of a chart laid out in `layers`. -/
def analyzeComplexity (c : Flowchart) (layers : Array (Array Nat)) : ComplexityReport α :=
  let nodeCount := c.nodes.length
  let edgeCount := c.edges.length
  let density : α :=
    if nodeCount == 0 then 0.0 else Scalar.ofNat edgeCount / Scalar.ofNat nodeCount
  let maxLayerWidth := layers.foldl (fun m l => max m l.size) 0
  let longestLabel := c.nodes.foldl (fun m n => max m (Text.graphemeCount n.displayLabel)) 0
  let cls : ComplexityClass :=
    if nodeCount > 20 || decide ((2.0 : α) < density) || maxLayerWidth > 6 then .complex
    else if nodeCount > 8 || decide ((1.3 : α) < density) || maxLayerWidth > 3 then .moderate
    else .simple
  { cls, nodeCount, edgeCount, edgeDensity := density, maxLayerWidth, longestLabel }

/-- The spacing for a report under given settings. -/
def spacingFor (r : ComplexityReport α) (config : LayoutConfig α) : Spacing α :=
  let p : Profile α := r.cls.profile
  let labelWidth : α := Scalar.ofNat r.longestLabel * 7.5 + 24.0
  let width := Scalar.clamp labelWidth p.baseWidth p.maxWidth
  let width :=
    if r.cls == .complex && r.maxLayerWidth > 1 then
      let slots : α := Scalar.ofNat r.maxLayerWidth
      let gaps : α := Scalar.ofNat (r.maxLayerWidth - 1) * p.nodeSpacingRatio
      let fitted := Scalar.max (config.targetWidth - 2.0 * config.margin) 0.0 / (slots + gaps)
      Scalar.max (Scalar.min width fitted) 48.0
    else width
  { nodeWidth := width, nodeHeight := p.height, nodeSpacing := width * p.nodeSpacingRatio,
    layerSpacing := p.height * p.layerSpacingRatio }

end FlowLayout
