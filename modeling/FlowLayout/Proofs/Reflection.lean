import Mathlib
import FlowLayout.Proofs.Indexes
import FlowLayout.Proofs.Placement
/-!
# Reversed directions mirror the layer axis

Read over exact numbers, reversing a chart's direction (top-down to bottom-to-top, left-to-right
to right-to-left) only turns the layer axis around (`layout_reversed_mirrors`): the layers, the
canvas, and each node's layer, order and position across the layers stay, and each node's
position along the layers is mirrored within the canvas.

* No stage before the centres reads the direction, and the cross positions read only whether
  it is horizontal (`assignCoordinates_eq`).
* A node of layer `l` of `L` sits at rank `l`, or at `L - 1 - l` when the direction is reversed.
  No layer is empty, so either way the ranks run over `0, …, L - 1`, and the boxes span the
  same stretch of the layer axis (`foldl_min_least`, `foldl_max_greatest`).
* Recentering moves the content to the margin along the layers and centres it across
  (`recenter_spec`). With the same span the same shift serves both directions, and a rank
  counted from the far end mirrors the position (`assignCoordinates_mirror`).
-/

namespace FlowLayout

/-! ### Spans of the content -/

/-- A `min` fold from a start at or above the least value is that value. -/
theorem foldl_min_least {l : List ℝ} {m init : ℝ} (hmem : m ∈ l) (hle : ∀ y ∈ l, m ≤ y)
    (hinit : m ≤ init) : l.foldl min init = m := by
  have hne : l ≠ [] := List.ne_nil_of_mem hmem
  rw [List.foldl_min_eq_min hne, (List.min_eq_iff hne).2 ⟨hmem, hle⟩, min_eq_right hinit]

/-- A `max` fold from a start at or below the greatest value is that value. -/
theorem foldl_max_greatest {l : List ℝ} {m init : ℝ} (hmem : m ∈ l) (hle : ∀ y ∈ l, y ≤ m)
    (hinit : init ≤ m) : l.foldl max init = m := by
  have hne : l ≠ [] := List.ne_nil_of_mem hmem
  rw [List.foldl_max_eq_max hne, (List.max_eq_iff hne).2 ⟨hmem, hle⟩, max_eq_right hinit]

/-- The least of the values, from the largest finite value. -/
noncomputable def spanLow (vs : List ℝ) : ℝ := vs.foldl min Scalar.largest

/-- The greatest of the values, from the negative of the largest finite value. -/
noncomputable def spanHigh (vs : List ℝ) : ℝ := vs.foldl max (-Scalar.largest)

theorem largest_pos : (0 : ℝ) < Scalar.largest := by
  norm_num [Scalar.largest]

/-- The four bounds `recenter` folds at once, each folded on its own. -/
theorem foldl_bounds (hw hh : ℝ) : ∀ (cs : List (Point ℝ)) (b : ℝ × ℝ × ℝ × ℝ),
    cs.foldl (fun (b : ℝ × ℝ × ℝ × ℝ) c =>
      (Scalar.min b.1 (c.x - hw), Scalar.max b.2.1 (c.x + hw),
        Scalar.min b.2.2.1 (c.y - hh), Scalar.max b.2.2.2 (c.y + hh))) b =
      ((cs.map (·.x - hw)).foldl min b.1, (cs.map (·.x + hw)).foldl max b.2.1,
        (cs.map (·.y - hh)).foldl min b.2.2.1, (cs.map (·.y + hh)).foldl max b.2.2.2)
  | [], _ => rfl
  | c :: cs, _ => by
    rw [List.foldl_cons, foldl_bounds hw hh cs]
    rfl

/-- Recentering a non-empty drawing: along `x` the content is centred on a canvas at least the
target width wide, along `y` it starts at the margin. -/
theorem recenter_spec (cs : Array (Point ℝ)) (sp : Spacing ℝ) (cfg : LayoutConfig ℝ)
    (hne : cs.size ≠ 0) :
    recenter cs sp cfg =
      { centers := cs.map fun c =>
          ⟨c.x + ((max (spanHigh (cs.toList.map (·.x + sp.nodeWidth / 2)) -
              spanLow (cs.toList.map (·.x - sp.nodeWidth / 2)) + 2 * cfg.margin)
              cfg.targetWidth -
            (spanHigh (cs.toList.map (·.x + sp.nodeWidth / 2)) -
              spanLow (cs.toList.map (·.x - sp.nodeWidth / 2)))) / 2 -
            spanLow (cs.toList.map (·.x - sp.nodeWidth / 2))),
            c.y + (cfg.margin - spanLow (cs.toList.map (·.y - sp.nodeHeight / 2)))⟩
        canvas :=
          ⟨max (spanHigh (cs.toList.map (·.x + sp.nodeWidth / 2)) -
              spanLow (cs.toList.map (·.x - sp.nodeWidth / 2)) + 2 * cfg.margin)
              cfg.targetWidth,
            spanHigh (cs.toList.map (·.y + sp.nodeHeight / 2)) -
              spanLow (cs.toList.map (·.y - sp.nodeHeight / 2)) + 2 * cfg.margin⟩ } := by
  have hne' : cs.isEmpty = false := by simpa using hne
  simp only [recenter, hne', Bool.false_eq_true, if_false, ofScientific_two_real]
  rw [foldl_bounds]
  rfl

/-- Values at ranks at most `top` times a non-negative step, less `h`: the least is `-h` once
some rank is zero. -/
theorem spanLow_ranks (cross : Array ℝ) (rank : Nat → Nat) {step h : ℝ} (hstep : 0 ≤ step)
    (hh : 0 ≤ h) {v : Nat} (hv : v < cross.size) (hzero : rank v = 0) :
    spanLow (cross.toList.zipIdx.map fun x => (rank x.2 : ℝ) * step - h) = -h := by
  refine foldl_min_least ?_ ?_ (by linarith [largest_pos])
  · refine List.mem_map.2 ⟨(cross[v], v), ?_, by simp [hzero]⟩
    exact List.mem_zipIdx_iff_getElem?.2 (by simp [hv])
  · intro y hy
    obtain ⟨x, -, rfl⟩ := List.mem_map.1 hy
    have : (0 : ℝ) ≤ (rank x.2 : ℝ) * step := mul_nonneg (Nat.cast_nonneg _) hstep
    linarith

/-- Values at ranks at most `top` times a non-negative step, plus `h`: the greatest is
`top · step + h` once some rank is `top`. -/
theorem spanHigh_ranks (cross : Array ℝ) (rank : Nat → Nat) {step h : ℝ} {top : Nat}
    (hstep : 0 ≤ step) (hh : 0 ≤ h) (hle : ∀ v < cross.size, rank v ≤ top) {v : Nat}
    (hv : v < cross.size) (htop : rank v = top) :
    spanHigh (cross.toList.zipIdx.map fun x => (rank x.2 : ℝ) * step + h) = top * step + h := by
  refine foldl_max_greatest ?_ ?_ ?_
  · refine List.mem_map.2 ⟨(cross[v], v), ?_, by simp [htop]⟩
    exact List.mem_zipIdx_iff_getElem?.2 (by simp [hv])
  · intro y hy
    obtain ⟨x, hx, rfl⟩ := List.mem_map.1 hy
    have hx' := List.mem_zipIdx_iff_getElem?.1 hx
    have hlt : x.2 < cross.size := by
      simpa using (List.getElem?_eq_some_iff.1 hx').1
    have : (rank x.2 : ℝ) ≤ top := by exact_mod_cast hle x.2 hlt
    nlinarith
  · have : (0 : ℝ) ≤ (top : ℝ) * step := mul_nonneg (Nat.cast_nonneg _) hstep
    linarith [largest_pos]

/-! ### Centres -/

/-- `assignCoordinates` recentres the raw centres: each node at its rank times the layer step
along the layers and at its cross position across. The cross positions are those of the two
sweeps, which read the direction only through whether it is horizontal. -/
theorem assignCoordinates_eq (g : LayoutGraph) (layers : Array (Array Nat)) (layerOf : Array Nat)
    (sp : Spacing ℝ) (cfg : LayoutConfig ℝ) (horizontal : Bool) :
    ∃ cross : Array ℝ, cross.size = g.nodeCount ∧ ∀ d : Direction, d.isHorizontal = horizontal →
      assignCoordinates g layers layerOf d sp cfg =
        recenter ((cross.toList.zipIdx.map fun x =>
          let along := (layerRank d layers.size (layerOf.getD x.2 0) : ℝ) *
            ((if horizontal then sp.nodeWidth else sp.nodeHeight) + sp.layerSpacing)
          (if horizontal then ⟨along, x.1⟩ else ⟨x.1, along⟩ : Point ℝ)).toArray) sp cfg := by
  refine ⟨?cross, ?size, fun d hd => ?eq⟩
  case eq =>
    unfold assignCoordinates
    rw [hd]
    rfl
  case size => exact size_crossPositions _ _ _ _

/-- A point mirrored along the layer axis within a canvas: across the width when the layers run
along `x`, across the height otherwise. -/
def Size.mirror (canvas : Size ℝ) (horizontal : Bool) (p : Point ℝ) : Point ℝ :=
  if horizontal then ⟨canvas.width - p.x, p.y⟩ else ⟨p.x, canvas.height - p.y⟩

section Ranks

variable {count n : Nat} {layerOf : Array Nat}

theorem layerRank_le (d : Direction) {l : Nat} (hl : l < count) :
    layerRank d count l ≤ count - 1 := by
  unfold layerRank
  split <;> omega

/-- When every layer holds a node, every rank is some node's. -/
theorem exists_layerRank (hfull : ∀ l < count, ∃ v < n, layerOf.getD v 0 = l) (d : Direction)
    {r : Nat} (hr : r < count) : ∃ v < n, layerRank d count (layerOf.getD v 0) = r := by
  unfold layerRank
  split
  · obtain ⟨v, hv, hl⟩ := hfull (count - 1 - r) (by omega)
    exact ⟨v, hv, by omega⟩
  · exact hfull r hr

end Ranks

theorem assignCoordinates_mirror (g : LayoutGraph) (layers : Array (Array Nat))
    (layerOf : Array Nat) (sp : Spacing ℝ) (cfg : LayoutConfig ℝ) {d d' : Direction}
    (hh : d'.isHorizontal = d.isHorizontal) (hr : d.isReversed = false)
    (hr' : d'.isReversed = true) (hw : 0 ≤ sp.nodeWidth) (hht : 0 ≤ sp.nodeHeight)
    (hls : 0 ≤ sp.layerSpacing) (hlayer : ∀ v < g.nodeCount, layerOf.getD v 0 < layers.size)
    (hfull : ∀ l < layers.size, ∃ v < g.nodeCount, layerOf.getD v 0 = l) :
    (assignCoordinates g layers layerOf d' sp cfg).canvas =
        (assignCoordinates g layers layerOf d sp cfg).canvas ∧
      (assignCoordinates g layers layerOf d' sp cfg).centers =
        (assignCoordinates g layers layerOf d sp cfg).centers.map
          ((assignCoordinates g layers layerOf d sp cfg).canvas.mirror d.isHorizontal) := by
  obtain ⟨cross, hsize, heq⟩ := assignCoordinates_eq g layers layerOf sp cfg d.isHorizontal
  rw [heq d rfl, heq d' hh]
  rcases Nat.eq_zero_or_pos g.nodeCount with hn | hn
  · -- no nodes: nothing to place, and the canvas is the empty one
    have hc : cross = #[] := Array.eq_empty_of_size_eq_zero (hsize.trans hn)
    subst hc
    simp [recenter]
  · have hne : cross.size ≠ 0 := by omega
    have hcount : 0 < layers.size := lt_of_le_of_lt (Nat.zero_le _) (hlayer 0 hn)
    -- in either direction the ranks run over `0, …, L - 1`, so the boxes span the same stretch
    have hspan : ∀ (d₀ : Direction) (step h : ℝ), 0 ≤ step → 0 ≤ h →
        spanLow (cross.toList.zipIdx.map fun x =>
          (layerRank d₀ layers.size (layerOf.getD x.2 0) : ℝ) * step - h) = -h ∧
        spanHigh (cross.toList.zipIdx.map fun x =>
          (layerRank d₀ layers.size (layerOf.getD x.2 0) : ℝ) * step + h) =
          ((layers.size - 1 : Nat) : ℝ) * step + h := by
      intro d₀ step h hstep hh
      obtain ⟨v₀, hv₀, h₀⟩ := exists_layerRank hfull d₀ hcount
      obtain ⟨v₁, hv₁, h₁⟩ := exists_layerRank hfull d₀ (r := layers.size - 1) (by omega)
      exact ⟨spanLow_ranks cross (fun v => layerRank d₀ layers.size (layerOf.getD v 0)) hstep hh
          (hsize ▸ hv₀) h₀,
        spanHigh_ranks cross (fun v => layerRank d₀ layers.size (layerOf.getD v 0)) hstep hh
          (fun v hv => layerRank_le d₀ (hlayer v (hsize ▸ hv))) (hsize ▸ hv₁) h₁⟩
    -- a rank counted from the far end
    have hrank : ∀ x ∈ cross.toList.zipIdx,
        (layerRank d' layers.size (layerOf.getD x.2 0) : ℝ) =
          ((layers.size - 1 : Nat) : ℝ) - layerRank d layers.size (layerOf.getD x.2 0) := by
      intro x hx
      have hx' := List.mem_zipIdx_iff_getElem?.1 hx
      have hlt : x.2 < cross.size := by simpa using (List.getElem?_eq_some_iff.1 hx').1
      have hl := hlayer x.2 (hsize ▸ hlt)
      simp only [layerRank, hr, hr', if_true, Bool.false_eq_true, if_false]
      rw [Nat.cast_sub (by omega)]
    rw [recenter_spec _ _ _ (by simpa using hne), recenter_spec _ _ _ (by simpa using hne)]
    cases hz : d.isHorizontal
    · simp only [Bool.false_eq_true, if_false, List.map_toArray, List.map_map, Function.comp_def]
      obtain ⟨hlow, hhigh⟩ := hspan d (sp.nodeHeight + sp.layerSpacing) (sp.nodeHeight / 2)
        (by linarith) (by linarith)
      obtain ⟨hlow', hhigh'⟩ := hspan d' (sp.nodeHeight + sp.layerSpacing) (sp.nodeHeight / 2)
        (by linarith) (by linarith)
      rw [hlow, hhigh, hlow', hhigh']
      refine ⟨rfl, congrArg List.toArray (List.map_congr_left fun x hx => ?_)⟩
      rw [hrank x hx]
      simp only [Size.mirror, Bool.false_eq_true, if_false, Point.ext_iff', true_and]
      ring
    · simp only [if_true, List.map_toArray, List.map_map, Function.comp_def]
      obtain ⟨hlow, hhigh⟩ := hspan d (sp.nodeWidth + sp.layerSpacing) (sp.nodeWidth / 2)
        (by linarith) (by linarith)
      obtain ⟨hlow', hhigh'⟩ := hspan d' (sp.nodeWidth + sp.layerSpacing) (sp.nodeWidth / 2)
        (by linarith) (by linarith)
      rw [hlow, hhigh, hlow', hhigh']
      refine ⟨rfl, congrArg List.toArray (List.map_congr_left fun x hx => ?_)⟩
      rw [hrank x hx]
      simp only [Size.mirror, if_true, Point.ext_iff', and_true]
      ring

/-! ### Layouts -/

/-- `L'` is `L` with the layer axis turned around: the same layers, canvas and nodes in the same
layers and orders, each centre mirrored along the layer axis (along `x` when `horizontal`)
within the canvas. -/
def MirroredAlong (horizontal : Bool) (L L' : FlowchartLayout ℝ) : Prop :=
  L'.layers = L.layers ∧ L'.canvas = L.canvas ∧
    L'.nodes.map (fun p => (p.nodeIndex, p.nodeId, p.layer, p.order)) =
      L.nodes.map (fun p => (p.nodeIndex, p.nodeId, p.layer, p.order)) ∧
    L'.nodes.map (·.center) = (L.nodes.map (·.center)).map (L.canvas.mirror horizontal)

section Layout

variable (c : Flowchart) (s : LayoutConfig ℝ)

/-- Every layer of a layout run holds a node. -/
theorem orderingOf_full {l : Nat} (hl : l < (orderingOf c s).layers.size) :
    ∃ v < (LayoutGraph.ofChart c).nodeCount, (layeringOf c).layerOf.getD v 0 = l := by
  have hsize : (orderingOf c s).layers.size = (layeringOf c).layers.length := by
    simpa using (orderingOf_sameLayers c s).size
  have hl' : l < (layeringOf c).layers.length := hsize ▸ hl
  have hL : (layeringOf c).layers[l]? = some (layeringOf c).layers[l] :=
    List.getElem?_eq_getElem hl'
  obtain ⟨v, hv⟩ := List.exists_mem_of_ne_nil _
    ((layeringOf_spec c).2.2.1.nonempty _ (List.getElem_mem hl'))
  exact ⟨v, layeringOf_lt c (List.getElem_mem hl') hv, layeringOf_layer_eq c hL hv⟩

/-! Nothing before the centres reads the direction. -/

theorem ofChart_withDirection (d : Direction) :
    LayoutGraph.ofChart { c with direction := d } = LayoutGraph.ofChart c := rfl

theorem layeringOf_withDirection (d : Direction) :
    layeringOf { c with direction := d } = layeringOf c := rfl

theorem orderingOf_withDirection (d : Direction) :
    orderingOf { c with direction := d } s = orderingOf c s := rfl

theorem spacingOf_withDirection (d : Direction) :
    spacingOf { c with direction := d } s = spacingOf c s := rfl

theorem layout_canvas :
    (layoutChart c s).layout.canvas =
      (assignCoordinates (LayoutGraph.ofChart c) (orderingOf c s).layers (layeringOf c).layerOf
        c.direction (spacingOf c s) s.sanitized).canvas := by
  simp only [layoutChart]
  rfl

theorem layout_centers :
    (layoutChart c s).layout.nodes.map (·.center) =
      c.nodes.zipIdx.map fun x =>
        (assignCoordinates (LayoutGraph.ofChart c) (orderingOf c s).layers (layeringOf c).layerOf
          c.direction (spacingOf c s) s.sanitized).centers.getD x.2 ⟨0.0, 0.0⟩ := by
  unfold layoutChart
  rw [List.map_map]
  exact List.map_congr_left fun x _ => by
    simp only [Function.comp_apply]
    rfl

/-- Laying a chart out in a reversed direction mirrors its layout in the direction with the
same axis. Nothing before the centres reads the direction, so both runs place the same layers
with the same spacing, and `assignCoordinates_mirror` does the rest. -/
theorem layout_mirror_of_reversed {d d' : Direction} (hh : d'.isHorizontal = d.isHorizontal)
    (hr : d.isReversed = false) (hr' : d'.isReversed = true) :
    MirroredAlong d.isHorizontal (layoutChart { c with direction := d } s).layout
      (layoutChart { c with direction := d' } s).layout := by
  obtain ⟨hw, hht, -, hls⟩ := spacingOf_pos c s
  obtain ⟨hcanvas, hcenters⟩ := assignCoordinates_mirror (LayoutGraph.ofChart c)
    (orderingOf c s).layers (layeringOf c).layerOf (spacingOf c s) s.sanitized hh hr hr' hw.le
    hht.le hls.le (fun v hv => layeringOf_layerOf_lt c s hv) (fun l hl => orderingOf_full c s hl)
  refine ⟨?_, ?_, ?_, ?_⟩
  · rw [layout_layers, layout_layers]
    simp only [ofChart_withDirection, orderingOf_withDirection]
  · rw [layout_canvas, layout_canvas]
    simp only [ofChart_withDirection, layeringOf_withDirection, orderingOf_withDirection,
      spacingOf_withDirection]
    exact hcanvas
  · rw [layout_nodes_map, layout_nodes_map]
    simp only [ofChart_withDirection, layeringOf_withDirection, orderingOf_withDirection]
  · rw [layout_centers, layout_centers, List.map_map, layout_canvas]
    simp only [ofChart_withDirection, layeringOf_withDirection, orderingOf_withDirection,
      spacingOf_withDirection, Function.comp_def]
    refine List.map_congr_left fun x hx => ?_
    have hlt : x.2 < (assignCoordinates (LayoutGraph.ofChart c) (orderingOf c s).layers
        (layeringOf c).layerOf d (spacingOf c s) s.sanitized).centers.size := by
      rw [size_assignCoordinates, LayoutGraph.ofChart_nodeCount]
      have hx' := List.mem_zipIdx_iff_getElem?.1 hx
      simpa using (List.getElem?_eq_some_iff.1 hx').1
    rw [hcenters, Array.getD_eq_getD_getElem?, Array.getD_eq_getD_getElem?, Array.getElem?_map,
      Array.getElem?_eq_getElem hlt, Option.map_some, Option.getD_some, Option.getD_some]

end Layout

/-- Read over exact numbers, turning a chart from top-down to bottom-to-top, or from
left-to-right to right-to-left, keeps its layers, its canvas and the layer and order of every
node, keeps every node's position across the layers and mirrors its position along the layers
within the canvas: `y ↦ H - y`, respectively `x ↦ W - x`. -/
theorem layout_reversed_mirrors (c : Flowchart) (s : LayoutConfig ℝ) :
    MirroredAlong false (layoutChart { c with direction := .topDown } s).layout
        (layoutChart { c with direction := .bottomToTop } s).layout ∧
      MirroredAlong true (layoutChart { c with direction := .leftToRight } s).layout
        (layoutChart { c with direction := .rightToLeft } s).layout :=
  ⟨layout_mirror_of_reversed c s rfl rfl rfl, layout_mirror_of_reversed c s rfl rfl rfl⟩

end FlowLayout
