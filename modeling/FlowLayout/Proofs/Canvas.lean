import Mathlib
import FlowLayout.Proofs.Anchors
import FlowLayout.Proofs.Reflection
/-!
# Boxes on the canvas

Read over exact numbers, a layout puts its node boxes on its canvas as follows
(`layout_boxes_on_canvas`, with the fields of `FlowchartLayout.Placed`):

* within a layer, every node sits at least a box's cross extent and the node spacing further
  across than each node before it in the layer's order (`layout_spaced`);
* along the layers, every node sits at one base plus its layer's rank times the layer step
  (`layout_along`);
* every box lies within the margins of the canvas, which is at least the target width wide, and
  the boxes of two nodes share no point (`layout_within`, `layout_wide`, `layout_apart`);
* the gaps left and right of the boxes are equal exactly when the layers run across the page, or
  when the cross positions of the sweeps reach into the range of binary32
  (`layout_centred_iff`).

The last condition is where the exact reading parts from the intent of centring. Recentering
folds `min` and `max` from the largest binary32 value and its negative (`recenter_spec`); on
content that lies wholly beyond one of them the start value stays, and the gap on that side
grows by the distance (`min_add_max_eq_iff`). Placing a layer pushes the nodes that fall behind
their predecessors and shifts the layer back by the mean push, so the layer keeps the sum of its
aims (`placeLayer_sum`) while the pushes spread it: a node aiming near the origin ends where the
mean of its layer's aims takes it, and a layer can reach past the span of its aims by a share of
that span. So the cross positions can grow geometrically with the number of layers.
-/

namespace FlowLayout

/-! ### Least and greatest values -/

section Extremes

variable {β : Type} {l : List β} (f : β → ℝ)

/-- The least value of `f` on a non-empty list is attained and bounds all others. -/
theorem isLeast_min_map (hl : l.map f ≠ []) :
    IsLeast (f '' {b | b ∈ l}) ((l.map f).min hl) := by
  refine ⟨?_, ?_⟩
  · obtain ⟨b, hb, hfb⟩ := List.mem_map.1 (List.min_mem hl)
    exact ⟨b, hb, hfb⟩
  · rintro _ ⟨b, hb, rfl⟩
    exact List.min_le_of_mem (List.mem_map_of_mem hb)

/-- The greatest value of `f` on a non-empty list is attained and bounds all others. -/
theorem isGreatest_max_map (hl : l.map f ≠ []) :
    IsGreatest (f '' {b | b ∈ l}) ((l.map f).max hl) := by
  refine ⟨?_, ?_⟩
  · obtain ⟨b, hb, hfb⟩ := List.mem_map.1 (List.max_mem hl)
    exact ⟨b, hb, hfb⟩
  · rintro _ ⟨b, hb, rfl⟩
    exact List.le_max_of_mem (List.mem_map_of_mem hb)

end Extremes

/-- The `min` fold from the largest finite value is the lesser of that value and the least value:
it stops at the start when every value lies beyond. -/
theorem spanLow_eq_min {l : List ℝ} (hl : l ≠ []) :
    spanLow l = min Scalar.largest (l.min hl) :=
  List.foldl_min_eq_min hl

theorem spanHigh_eq_max {l : List ℝ} (hl : l ≠ []) :
    spanHigh l = max (-Scalar.largest) (l.max hl) :=
  List.foldl_max_eq_max hl

theorem spanLow_le {l : List ℝ} {y : ℝ} (hy : y ∈ l) : spanLow l ≤ y := by
  rw [spanLow_eq_min (List.ne_nil_of_mem hy)]
  exact (min_le_right _ _).trans (List.min_le_of_mem hy)

theorem le_spanHigh {l : List ℝ} {y : ℝ} (hy : y ∈ l) : y ≤ spanHigh l := by
  rw [spanHigh_eq_max (List.ne_nil_of_mem hy)]
  exact (List.le_max_of_mem hy).trans (le_max_right _ _)

/-- Starting the folds from `L` and `-L` leaves the sum of the extremes `a ≤ b` alone exactly
when the values reach into `[-L, L]`. -/
theorem min_add_max_eq_iff {L a b : ℝ} (hL : 0 < L) (hab : a ≤ b) :
    min L a + max (-L) b = a + b ↔ a ≤ L ∧ -L ≤ b := by
  constructor
  · intro h
    constructor
    · by_contra ha
      rw [min_eq_left (by linarith), max_eq_right (by linarith)] at h
      linarith
    · by_contra hb
      rw [min_eq_right (by linarith), max_eq_left (by linarith)] at h
      linarith
  · rintro ⟨ha, hb⟩
    rw [min_eq_right ha, max_eq_right hb]

/-! ### Centred boxes -/

/-- Boxes leave equal gaps to the two sides of a canvas `width` wide: some `g` is the least
distance from the left side to a box and the least distance from a box to the right side. -/
def Centred (boxes : List (Rect ℝ)) (width : ℝ) : Prop :=
  ∃ g, IsLeast ((·.x) '' {r | r ∈ boxes}) g ∧
    IsGreatest ((fun r => r.x + r.width) '' {r | r ∈ boxes}) (width - g)

/-- With the leftmost left side at `a` and the rightmost right side at `b`, the boxes are
centred exactly when `a` is as far from the left of the canvas as `b` from its right. -/
theorem centred_iff {boxes : List (Rect ℝ)} {width a b : ℝ}
    (ha : IsLeast ((·.x) '' {r | r ∈ boxes}) a)
    (hb : IsGreatest ((fun r => r.x + r.width) '' {r | r ∈ boxes}) b) :
    Centred boxes width ↔ a = width - b := by
  constructor
  · rintro ⟨g, hg, hg'⟩
    have hag : a = g := ha.unique hg
    have hbg : b = width - g := hb.unique hg'
    linarith
  · intro h
    refine ⟨a, ha, ?_⟩
    rwa [show width - a = b by linarith]

/-- The content of raw centres, as boxes `2 h` wide, reaches into the range of binary32: some box
starts at or below the largest finite value and some box ends at or above its negative. -/
def Reaches (xs : List ℝ) (h : ℝ) : Prop :=
  (∃ x ∈ xs, x - h ≤ Scalar.largest) ∧ ∃ x ∈ xs, -Scalar.largest ≤ x + h

/-- Boxes around the values of `g` reach into the range exactly when the leftmost starts at or
below the largest finite value and the rightmost ends at or above its negative. -/
theorem reaches_map_iff {β : Type} {l : List β} (g : β → ℝ) {h a b : ℝ}
    (ha : IsLeast ((fun c => g c - h) '' {c | c ∈ l}) a)
    (hb : IsGreatest ((fun c => g c + h) '' {c | c ∈ l}) b) :
    Reaches (l.map g) h ↔ a ≤ Scalar.largest ∧ -Scalar.largest ≤ b := by
  constructor
  · rintro ⟨⟨x, hx, hxl⟩, ⟨y, hy, hyl⟩⟩
    obtain ⟨c, hc, rfl⟩ := List.mem_map.1 hx
    obtain ⟨d, hd, rfl⟩ := List.mem_map.1 hy
    exact ⟨(ha.2 ⟨c, hc, rfl⟩).trans hxl, hyl.trans (hb.2 ⟨d, hd, rfl⟩)⟩
  · rintro ⟨hal, hbl⟩
    obtain ⟨c, hc, hca⟩ := ha.1
    obtain ⟨d, hd, hdb⟩ := hb.1
    exact ⟨⟨g c, List.mem_map_of_mem hc, hca.trans_le hal⟩,
      ⟨g d, List.mem_map_of_mem hd, hbl.trans_eq hdb.symm⟩⟩

/-! ### Recentering -/

section Shifted

variable {w h sx sy : ℝ}

/-- Boxes `w` by `h` around points shifted by `(sx, sy)`: the leftmost left side is the least
left side of the points' boxes, shifted. -/
theorem isLeast_shifted_lefts {ps : List (Point ℝ)} {m : ℝ}
    (hm : IsLeast ((fun c => c.x - w / 2) '' {c | c ∈ ps}) m) :
    IsLeast ((·.x) '' {r | r ∈ (ps.map fun c => (⟨c.x + sx, c.y + sy⟩ : Point ℝ)).map
      fun c => Rect.fromCenter c w h}) (m + sx) := by
  obtain ⟨⟨c₀, hc₀, rfl⟩, hle⟩ := hm
  refine ⟨⟨_, List.mem_map_of_mem (List.mem_map_of_mem hc₀), ?_⟩, ?_⟩
  · simp only [Rect.fromCenter_x]
    ring
  · rintro _ ⟨r, hr, rfl⟩
    obtain ⟨c', hc', rfl⟩ := List.mem_map.1 hr
    obtain ⟨c, hc, rfl⟩ := List.mem_map.1 hc'
    have hc_le : c₀.x - w / 2 ≤ c.x - w / 2 := hle ⟨c, hc, rfl⟩
    simp only [Rect.fromCenter_x]
    linarith

/-- The rightmost right side is the greatest right side of the points' boxes, shifted. -/
theorem isGreatest_shifted_rights {ps : List (Point ℝ)} {m : ℝ}
    (hm : IsGreatest ((fun c => c.x + w / 2) '' {c | c ∈ ps}) m) :
    IsGreatest ((fun r => r.x + r.width) '' {r | r ∈ (ps.map fun c =>
      (⟨c.x + sx, c.y + sy⟩ : Point ℝ)).map fun c => Rect.fromCenter c w h}) (m + sx) := by
  obtain ⟨⟨c₀, hc₀, rfl⟩, hge⟩ := hm
  refine ⟨⟨_, List.mem_map_of_mem (List.mem_map_of_mem hc₀), ?_⟩, ?_⟩
  · simp only [Rect.fromCenter_x, Rect.fromCenter_width]
    ring
  · rintro _ ⟨r, hr, rfl⟩
    obtain ⟨c', hc', rfl⟩ := List.mem_map.1 hr
    obtain ⟨c, hc, rfl⟩ := List.mem_map.1 hc'
    have hc_le : c.x + w / 2 ≤ c₀.x + w / 2 := hge ⟨c, hc, rfl⟩
    simp only [Rect.fromCenter_x, Rect.fromCenter_width]
    linarith

end Shifted

section Recenter

variable (cs : Array (Point ℝ)) (sp : Spacing ℝ) (cfg : LayoutConfig ℝ)

/-- After recentering, the canvas is at least the target width wide. -/
theorem recenter_wide : cfg.targetWidth ≤ (recenter cs sp cfg).canvas.width := by
  by_cases hne : cs.size = 0
  · -- nothing to place: the canvas is the target width and two margins
    rw [recenter, if_pos (by simpa using hne)]
  · rw [recenter_spec cs sp cfg hne]
    exact le_max_right _ _

/-- After recentering, the box around each centre lies within the margins of the canvas. -/
theorem recenter_within :
    ∀ c ∈ (recenter cs sp cfg).centers.toList,
      cfg.margin ≤ c.x - sp.nodeWidth / 2 ∧
        c.x + sp.nodeWidth / 2 ≤ (recenter cs sp cfg).canvas.width - cfg.margin ∧
        cfg.margin ≤ c.y - sp.nodeHeight / 2 ∧
        c.y + sp.nodeHeight / 2 ≤ (recenter cs sp cfg).canvas.height - cfg.margin := by
  intro c hc
  have hne : cs.size ≠ 0 := by
    have hpos := List.length_pos_of_mem hc
    rw [Array.length_toList, size_recenter] at hpos
    omega
  rw [recenter_spec cs sp cfg hne] at hc ⊢
  rw [Array.toList_map] at hc
  obtain ⟨c₀, hc₀, rfl⟩ := List.mem_map.1 hc
  -- the folds bound every box, whatever value they start from
  have hlo := spanLow_le (List.mem_map_of_mem (f := fun c : Point ℝ => c.x - sp.nodeWidth / 2) hc₀)
  have hhi := le_spanHigh (List.mem_map_of_mem (f := fun c : Point ℝ => c.x + sp.nodeWidth / 2) hc₀)
  have hloy := spanLow_le
    (List.mem_map_of_mem (f := fun c : Point ℝ => c.y - sp.nodeHeight / 2) hc₀)
  have hhiy := le_spanHigh
    (List.mem_map_of_mem (f := fun c : Point ℝ => c.y + sp.nodeHeight / 2) hc₀)
  have hW := le_max_left (spanHigh (cs.toList.map (·.x + sp.nodeWidth / 2)) -
    spanLow (cs.toList.map (·.x - sp.nodeWidth / 2)) + 2 * cfg.margin) cfg.targetWidth
  dsimp only at hlo hhi hloy hhiy ⊢
  refine ⟨?_, ?_, ?_, ?_⟩ <;> linarith

/-- Recentering centres the boxes exactly when they reach into the range of binary32: the folds
then find the true extremes, and otherwise the start value stands in for one of them. -/
theorem recenter_centred_iff (hne : cs.size ≠ 0) (hw : 0 ≤ sp.nodeWidth) :
    Centred ((recenter cs sp cfg).centers.toList.map fun c =>
        Rect.fromCenter c sp.nodeWidth sp.nodeHeight) (recenter cs sp cfg).canvas.width ↔
      Reaches (cs.toList.map (·.x)) (sp.nodeWidth / 2) := by
  have hlows : cs.toList.map (·.x - sp.nodeWidth / 2) ≠ [] := by simpa using hne
  have hhighs : cs.toList.map (·.x + sp.nodeWidth / 2) ≠ [] := by simpa using hne
  -- the true extremes of the boxes before the shift
  have ha := isLeast_min_map (fun c : Point ℝ => c.x - sp.nodeWidth / 2) hlows
  have hb := isGreatest_max_map (fun c : Point ℝ => c.x + sp.nodeWidth / 2) hhighs
  set a := (cs.toList.map (·.x - sp.nodeWidth / 2)).min hlows
  set b := (cs.toList.map (·.x + sp.nodeWidth / 2)).max hhighs
  have hab : a ≤ b := by
    obtain ⟨⟨c, hc, hca⟩, -⟩ := ha
    have hcb : c.x + sp.nodeWidth / 2 ≤ b := hb.2 ⟨c, hc, rfl⟩
    dsimp only at hca
    linarith
  rw [reaches_map_iff Point.x ha hb, ← min_add_max_eq_iff largest_pos hab,
    recenter_spec cs sp cfg hne]
  dsimp only
  rw [Array.toList_map, centred_iff (isLeast_shifted_lefts ha) (isGreatest_shifted_rights hb),
    spanLow_eq_min hlows, spanHigh_eq_max hhighs]
  constructor <;> intro h <;> linarith

end Recenter

/-! ### A placed layer keeps the sum of its aims -/

theorem Scalar.sum_real (xs : List ℝ) : Scalar.sum xs = xs.sum := by
  have hzero : (-(0.0 : ℝ)) = 0 := by norm_num
  rw [Scalar.sum, hzero, List.sum_eq_foldl]

theorem sum_map_zip_sub : ∀ {xs ys : List ℝ}, xs.length = ys.length →
    ((xs.zip ys).map fun x => x.1 - x.2).sum = xs.sum - ys.sum
  | [], [], _ => by simp
  | x :: xs, y :: ys, h => by
    rw [List.zip_cons_cons, List.map_cons, List.sum_cons, sum_map_zip_sub (by simpa using h),
      List.sum_cons, List.sum_cons]
    ring
  | [], _ :: _, h | _ :: _, [], h => absurd h (by simp)

/-- Placing a layer keeps the sum, and so the mean, of its nodes' aims: the drift hands back
to the layer what the pushes took from it. A node whose own aim is near the origin therefore
ends wherever the mean of its layer's aims takes it. -/
theorem placeLayer_sum {layer : Array Nat} {ideal : List ℝ} {cross : Array ℝ} (gap : ℝ)
    (hnd : layer.toList.Nodup) (hlt : ∀ v ∈ layer.toList, v < cross.size)
    (hlen : ideal.length = layer.size) :
    (layer.toList.map fun v => (placeLayer layer ideal gap cross).getD v 0).sum = ideal.sum := by
  set row := placedRow ideal gap
  have hrow : row.length = layer.size := (length_placedRow ideal gap).trans hlen
  set d : ℝ := if row.isEmpty then 0.0 else
    Scalar.sum ((ideal.zip row).map fun (t, p) => t - p) / Scalar.ofNat row.length
  have hplace : placeLayer layer ideal gap cross =
      (layer.toList.zip row).foldl (fun c vp => c.setIfInBounds vp.1 (vp.2 + d)) cross := rfl
  -- each node of the layer is read back at its place in the row, moved by the drift
  have hmap : (layer.toList.map fun v => (placeLayer layer ideal gap cross).getD v 0) =
      row.map (· + d) := by
    rw [hplace]
    apply List.ext_getElem (by simp [hrow])
    intro k hk hk'
    rw [List.getElem_map, List.getElem_map]
    exact getD_foldl_setRow d _ _ _ hnd k _ _ (List.getElem?_eq_getElem _)
      (List.getElem?_eq_getElem _) (hlt _ (List.getElem_mem _))
  rw [hmap, List.sum_map_add, List.map_id', List.map_const', List.sum_replicate, nsmul_eq_mul]
  by_cases hn : row = []
  · -- an empty layer has no aims
    have hideal : ideal = [] := by
      rw [← List.length_eq_zero_iff, hlen, ← hrow, hn, List.length_nil]
    simp [hn, hideal]
  · have hpos : (0 : ℝ) < row.length := by exact_mod_cast List.length_pos_iff.2 hn
    have hd : d = (ideal.sum - row.sum) / row.length := by
      simp only [d, List.isEmpty_iff, hn, if_false, Scalar.sum_real, Scalar.ofNat_real]
      rw [← sum_map_zip_sub (hlen.trans hrow.symm)]
    rw [hd]
    field_simp
    ring

/-! ### Across and along the layers -/

namespace Direction

/-- The coordinate of a point across the layers: `y` when the layers run across the page,
`x` otherwise. -/
def across (d : Direction) (p : Point ℝ) : ℝ := if d.isHorizontal then p.y else p.x

/-- The coordinate of a point along the layers. -/
def along (d : Direction) (p : Point ℝ) : ℝ := if d.isHorizontal then p.x else p.y

@[simp] theorem across_shift (d : Direction) (al ac a b : ℝ) :
    d.across ⟨(d.point al ac).x + a, (d.point al ac).y + b⟩ = ac + d.across ⟨a, b⟩ := by
  unfold across point
  split <;> rfl

@[simp] theorem along_shift (d : Direction) (al ac a b : ℝ) :
    d.along ⟨(d.point al ac).x + a, (d.point al ac).y + b⟩ = al + d.along ⟨a, b⟩ := by
  unfold along point
  split <;> rfl

theorem point_x (d : Direction) (al ac : ℝ) :
    (d.point al ac).x = if d.isHorizontal then al else ac := by
  unfold point
  split <;> rfl

end Direction

/-- Where a layout puts its node boxes: within each layer the centres are spaced across in the
layer's order, along the layers each centre is one base plus its layer's rank times the layer
step, every box lies within the margins of a canvas at least `targetWidth` wide, and the boxes
of two nodes share no point. -/
structure FlowchartLayout.Placed (L : FlowchartLayout ℝ) (margin targetWidth : ℝ) : Prop where
  spaced : ∀ p ∈ L.nodes, ∀ q ∈ L.nodes, p.layer = q.layer → p.order < q.order →
    L.direction.across p.center + (L.spacing.crossExtent L.direction + L.spacing.nodeSpacing) ≤
      L.direction.across q.center
  along : ∃ base, ∀ p ∈ L.nodes, L.direction.along p.center =
    base + (layerRank L.direction L.layers.length p.layer : ℝ) *
      (L.spacing.primaryExtent L.direction + L.spacing.layerSpacing)
  within : ∀ p ∈ L.nodes, margin ≤ p.bounds.x ∧
    p.bounds.x + p.bounds.width ≤ L.canvas.width - margin ∧ margin ≤ p.bounds.y ∧
    p.bounds.y + p.bounds.height ≤ L.canvas.height - margin
  wide : targetWidth ≤ L.canvas.width
  apart : ∀ p ∈ L.nodes, ∀ q ∈ L.nodes, p.nodeIndex ≠ q.nodeIndex → p.bounds.Apart q.bounds

/-! ### The boxes of a layout -/

section Layout

variable (c : Flowchart) (s : LayoutConfig ℝ)

/-- The cross positions a layout run leaves before recentering. -/
noncomputable def crossOf : Array ℝ :=
  crossPositions (LayoutGraph.ofChart c) (orderingOf c s).layers (layeringOf c).layerOf
    ((spacingOf c s).crossExtent c.direction + (spacingOf c s).nodeSpacing)

/-- The centres a layout run recentres: each node at its layer's rank times the layer step
along the layers, and at its cross position across. -/
noncomputable def rawCentersOf : Array (Point ℝ) :=
  ((crossOf c s).toList.zipIdx.map fun x =>
    c.direction.point ((layerRank c.direction (orderingOf c s).layers.size
        ((layeringOf c).layerOf.getD x.2 0) : ℝ) *
      ((spacingOf c s).primaryExtent c.direction + (spacingOf c s).layerSpacing)) x.1).toArray

theorem assignCoordinates_recenter :
    assignCoordinates (LayoutGraph.ofChart c) (orderingOf c s).layers (layeringOf c).layerOf
        c.direction (spacingOf c s) s.sanitized =
      recenter (rawCentersOf c s) (spacingOf c s) s.sanitized :=
  rfl

theorem size_rawCentersOf : (rawCentersOf c s).size = c.nodes.length := by
  simp [rawCentersOf, crossOf, size_crossPositions]

/-- A placed node's centre is its recentred centre, and its bounds are the box around it. -/
theorem layout_node_box {i : Nat} {p : NodePlacement ℝ}
    (hp : (layoutChart c s).layout.nodes[i]? = some p) :
    (recenter (rawCentersOf c s) (spacingOf c s) s.sanitized).centers.toList[i]? = some p.center ∧
      p.bounds = Rect.fromCenter p.center (spacingOf c s).nodeWidth (spacingOf c s).nodeHeight := by
  obtain ⟨hi, -, hbounds⟩ := layout_bounds c s hp
  have hcenter := congrArg (·[i]?) (layout_centers c s)
  simp only [List.getElem?_map, hp, Option.map_some, List.getElem?_zipIdx,
    List.getElem?_eq_getElem hi, Option.some.injEq, Nat.zero_add] at hcenter
  rw [assignCoordinates_recenter] at hcenter
  have hsize : i < (recenter (rawCentersOf c s) (spacingOf c s) s.sanitized).centers.size := by
    rw [size_recenter, size_rawCentersOf]
    exact hi
  constructor
  · rw [hcenter, Array.getElem?_toList, Array.getD_eq_getD_getElem?,
      Array.getElem?_eq_getElem hsize, Option.getD_some]
  · rw [hbounds, hcenter, boxesOf, assignCoordinates_recenter, Array.getD_eq_getD_getElem?,
      Array.getD_eq_getD_getElem?, Array.getElem?_map, Array.getElem?_eq_getElem hsize,
      Option.map_some, Option.getD_some, Option.getD_some]

/-- The bounds of a layout's nodes are the boxes around the recentred centres. -/
theorem layout_boxes :
    (layoutChart c s).layout.nodes.map (·.bounds) =
      (recenter (rawCentersOf c s) (spacingOf c s) s.sanitized).centers.toList.map fun q =>
        Rect.fromCenter q (spacingOf c s).nodeWidth (spacingOf c s).nodeHeight := by
  apply List.ext_getElem?
  intro i
  rw [List.getElem?_map, List.getElem?_map]
  cases hp : (layoutChart c s).layout.nodes[i]? with
  | none =>
    -- past the last node, past the last centre
    have hlen := List.getElem?_eq_none_iff.1 hp
    rw [layout_nodes_length] at hlen
    rw [List.getElem?_eq_none (by simpa [size_recenter, size_rawCentersOf] using hlen)]
    rfl
  | some p =>
    obtain ⟨hcenter, hbounds⟩ := layout_node_box c s hp
    rw [hcenter, Option.map_some, Option.map_some, hbounds]

/-- The centres of a layout, across and along the layers: node `i` at its cross position across
and at its layer's rank times the layer step along, each moved by one amount; the cross
positions space every reduced layer. -/
theorem layout_centers_spec :
    ∃ cross : Array ℝ, (∀ L ∈ (orderingOf c s).layers.toList,
        Spaced ((spacingOf c s).crossExtent c.direction + (spacingOf c s).nodeSpacing) L cross) ∧
      ∃ acr alo : ℝ, ∀ {i : Nat} {p : NodePlacement ℝ},
        (layoutChart c s).layout.nodes[i]? = some p →
          c.direction.across p.center = cross.getD i 0 + acr ∧
          c.direction.along p.center = (layerRank c.direction (orderingOf c s).layers.size
            ((layeringOf c).layerOf.getD i 0) : ℝ) *
              ((spacingOf c s).primaryExtent c.direction + (spacingOf c s).layerSpacing) + alo := by
  obtain ⟨cross, hspaced, a, b, -, hbox⟩ := boxesOf_spec c s
  refine ⟨cross, hspaced, c.direction.across ⟨a, b⟩, c.direction.along ⟨a, b⟩, fun {i p} hp => ?_⟩
  obtain ⟨hi, -, hbounds⟩ := layout_bounds c s hp
  -- the node's box is centred both at its centre and at the point `boxesOf_spec` gives
  have hcenter := congrArg Rect.center
    (((layout_node_box c s hp).2.symm.trans hbounds).trans (hbox i hi _))
  rw [Rect.center_fromCenter, Rect.center_fromCenter] at hcenter
  rw [hcenter, Direction.across_shift, Direction.along_shift]
  exact ⟨rfl, rfl⟩

/-- Within a layer, a node sits at least a box's cross extent and the node spacing further across
than each node before it in the layer's order. -/
theorem layout_spaced {p q : NodePlacement ℝ} (hp : p ∈ (layoutChart c s).layout.nodes)
    (hq : q ∈ (layoutChart c s).layout.nodes) (hl : p.layer = q.layer) (ho : p.order < q.order) :
    c.direction.across p.center +
        ((spacingOf c s).crossExtent c.direction + (spacingOf c s).nodeSpacing) ≤
      c.direction.across q.center := by
  obtain ⟨cross, hspaced, acr, _, hcen⟩ := layout_centers_spec c s
  obtain ⟨i, hpi⟩ := List.mem_iff_getElem?.1 hp
  obtain ⟨j, hqj⟩ := List.mem_iff_getElem?.1 hq
  have hpk := (layout_node_slot c s hpi).1
  have hqk := (layout_node_slot c s hqj).1
  rw [← hl] at hqk
  -- both nodes sit in the reduced layer of `p`, which is one of the reduced layers
  obtain ⟨-, -, -, -, hpl, -⟩ := layout_node c s hpi
  obtain ⟨L, hL, -, -, -, -, hLeq⟩ := orderingOf_slot c s (layout_bounds c s hpi).1
  rw [hpl, ← hLeq, Array.getElem?_toList] at hpk hqk
  obtain ⟨hpk, hLp⟩ := Array.getElem?_eq_some_iff.1 hpk
  obtain ⟨hqk, hLq⟩ := Array.getElem?_eq_some_iff.1 hqk
  have hgap := hspaced L hL p.order q.order hpk hqk ho
  rw [hLp, hLq] at hgap
  have hpc := (hcen hpi).1
  have hqc := (hcen hqj).1
  rw [hpc, hqc]
  linarith

theorem layout_direction : (layoutChart c s).layout.direction = c.direction := by
  simp only [layoutChart]

theorem layout_spacing : (layoutChart c s).layout.spacing = spacingOf c s := by
  simp only [layoutChart]
  rfl

/-- Along the layers, every node sits at one base plus its layer's rank times the layer step. -/
theorem layout_along : ∃ base : ℝ, ∀ p ∈ (layoutChart c s).layout.nodes,
    c.direction.along p.center = base + (layerRank c.direction (orderingOf c s).layers.size p.layer : ℝ) *
      ((spacingOf c s).primaryExtent c.direction + (spacingOf c s).layerSpacing) := by
  obtain ⟨_, -, _, alo, hcen⟩ := layout_centers_spec c s
  refine ⟨alo, fun p hp => ?_⟩
  obtain ⟨i, hpi⟩ := List.mem_iff_getElem?.1 hp
  obtain ⟨-, -, -, -, hpl, -⟩ := layout_node c s hpi
  have hpc := (hcen hpi).2
  rw [hpc, hpl]
  ring

/-- Every box lies within the margins of the canvas. -/
theorem layout_within {p : NodePlacement ℝ} (hp : p ∈ (layoutChart c s).layout.nodes) :
    s.sanitized.margin ≤ p.bounds.x ∧
      p.bounds.x + p.bounds.width ≤ (layoutChart c s).layout.canvas.width - s.sanitized.margin ∧
      s.sanitized.margin ≤ p.bounds.y ∧
      p.bounds.y + p.bounds.height ≤ (layoutChart c s).layout.canvas.height - s.sanitized.margin := by
  obtain ⟨i, hpi⟩ := List.mem_iff_getElem?.1 hp
  obtain ⟨hcenter, hbounds⟩ := layout_node_box c s hpi
  obtain ⟨hl, hr, ht, hb⟩ := recenter_within _ _ _ _ (List.mem_of_getElem? hcenter)
  rw [layout_canvas, assignCoordinates_recenter, hbounds, Rect.fromCenter_x, Rect.fromCenter_y,
    Rect.fromCenter_width, Rect.fromCenter_height]
  refine ⟨hl, ?_, ht, ?_⟩ <;> linarith

theorem layout_wide : s.sanitized.targetWidth ≤ (layoutChart c s).layout.canvas.width := by
  rw [layout_canvas, assignCoordinates_recenter]
  exact recenter_wide _ _ _

/-- The boxes of two distinct nodes share no point. -/
theorem layout_apart {p q : NodePlacement ℝ} (hp : p ∈ (layoutChart c s).layout.nodes)
    (hq : q ∈ (layoutChart c s).layout.nodes) (hpq : p.nodeIndex ≠ q.nodeIndex) :
    p.bounds.Apart q.bounds := by
  obtain ⟨i, hpi⟩ := List.mem_iff_getElem?.1 hp
  obtain ⟨j, hqj⟩ := List.mem_iff_getElem?.1 hq
  obtain ⟨hi, hpi', hpb⟩ := layout_bounds c s hpi
  obtain ⟨hj, hqj', hqb⟩ := layout_bounds c s hqj
  rw [hpb, hqb]
  exact boxesOf_apart c s hi hj (by rwa [← hpi', ← hqj']) _

/-- A layout puts its node boxes on its canvas as `FlowchartLayout.Placed` says. -/
theorem layout_placed_on_canvas :
    (layoutChart c s).layout.Placed s.sanitized.margin s.sanitized.targetWidth where
  spaced p hp q hq hl ho := by
    rw [layout_direction, layout_spacing]
    exact layout_spaced c s hp hq hl ho
  along := by
    rw [layout_direction, layout_spacing, layout_layers, List.length_map, Array.length_toList]
    exact layout_along c s
  within _ hp := layout_within c s hp
  wide := layout_wide c s
  apart _ hp _ hq hpq := layout_apart c s hp hq hpq

theorem rawCentersOf_xs : (rawCentersOf c s).toList.map (·.x) =
    (crossOf c s).toList.zipIdx.map fun x => if c.direction.isHorizontal then
      (layerRank c.direction (orderingOf c s).layers.size ((layeringOf c).layerOf.getD x.2 0) : ℝ) *
        ((spacingOf c s).primaryExtent c.direction + (spacingOf c s).layerSpacing) else x.1 := by
  rw [rawCentersOf, List.toList_toArray, List.map_map]
  exact List.map_congr_left fun x _ => Direction.point_x _ _ _

/-- Some node of a non-empty chart sits in the layer of rank zero. -/
theorem exists_rank_zero (hne : c.nodes ≠ []) : ∃ x ∈ (crossOf c s).toList.zipIdx,
    layerRank c.direction (orderingOf c s).layers.size ((layeringOf c).layerOf.getD x.2 0) = 0 := by
  obtain ⟨-, -, -, -, -, hl, -⟩ := orderingOf_slot c s (List.length_pos_iff.2 hne)
  obtain ⟨v, hv, hrank⟩ := exists_layerRank (fun _ hl => orderingOf_full c s hl) c.direction
    (r := 0) (by omega)
  have hv' : v < (crossOf c s).size := by
    rw [crossOf, size_crossPositions]
    exact hv
  refine ⟨((crossOf c s)[v], v), ?_, hrank⟩
  rw [List.mem_zipIdx_iff_getElem?, Array.getElem?_toList, Array.getElem?_eq_getElem hv']

/-- The gaps left and right of the boxes are equal exactly when the layers run across the page,
or when the cross positions reach into the range of binary32. -/
theorem layout_centred_iff (hne : c.nodes ≠ []) :
    Centred ((layoutChart c s).layout.nodes.map (·.bounds)) (layoutChart c s).layout.canvas.width ↔
      c.direction.isHorizontal = true ∨
        Reaches (crossOf c s).toList ((spacingOf c s).nodeWidth / 2) := by
  have hsize : (rawCentersOf c s).size ≠ 0 := by
    rw [size_rawCentersOf]
    exact (List.length_pos_iff.2 hne).ne'
  rw [layout_boxes, layout_canvas, assignCoordinates_recenter,
    recenter_centred_iff _ _ _ hsize (spacingOf_pos c s).1.le, rawCentersOf_xs]
  cases hd : c.direction.isHorizontal
  · -- layers run down the page: a centre's `x` is its cross position
    simp only [Bool.false_eq_true, if_false, false_or, List.zipIdx_map_fst]
  · -- layers run across the page: a centre's `x` is its rank times the layer step, which is
    -- zero for some node
    simp only [if_true, true_or, iff_true]
    obtain ⟨x, hx, hrank⟩ := exists_rank_zero c s hne
    have h0 := List.mem_map_of_mem (f := fun x : ℝ × Nat =>
      (layerRank c.direction (orderingOf c s).layers.size ((layeringOf c).layerOf.getD x.2 0) : ℝ) *
        ((spacingOf c s).primaryExtent c.direction + (spacingOf c s).layerSpacing)) hx
    simp only [hrank, Nat.cast_zero, zero_mul] at h0
    have hw := (spacingOf_pos c s).1
    have hL := largest_pos
    exact ⟨⟨0, h0, by linarith⟩, ⟨0, h0, by linarith⟩⟩

/-- Read over exact numbers, a layout of a non-empty chart puts its boxes on its canvas as
`FlowchartLayout.Placed` says, and leaves equal gaps to their left and right exactly when its
layers run across the page or its cross positions reach into the range of binary32. -/
theorem layout_boxes_on_canvas (hne : c.nodes ≠ []) :
    (layoutChart c s).layout.Placed s.sanitized.margin s.sanitized.targetWidth ∧
      (Centred ((layoutChart c s).layout.nodes.map (·.bounds)) (layoutChart c s).layout.canvas.width ↔
        c.direction.isHorizontal = true ∨
          Reaches (crossOf c s).toList ((spacingOf c s).nodeWidth / 2)) :=
  ⟨layout_placed_on_canvas c s, layout_centred_iff c s hne⟩

end Layout

/-- The layout of a circle with an edge to a hexagon puts its boxes on its canvas. -/
theorem layout_circle_hexagon_on_canvas :
    circleToHexagon.nodes ≠ [] ∧
      (layoutChart circleToHexagon LayoutConfig.default).layout.Placed
          (LayoutConfig.default : LayoutConfig ℝ).sanitized.margin
          (LayoutConfig.default : LayoutConfig ℝ).sanitized.targetWidth ∧
        (Centred ((layoutChart circleToHexagon LayoutConfig.default).layout.nodes.map (·.bounds))
            (layoutChart circleToHexagon LayoutConfig.default).layout.canvas.width ↔
          circleToHexagon.direction.isHorizontal = true ∨
            Reaches (crossOf circleToHexagon LayoutConfig.default).toList
              ((spacingOf circleToHexagon LayoutConfig.default).nodeWidth / 2)) :=
  have hne : circleToHexagon.nodes ≠ [] := by simp [circleToHexagon]
  ⟨hne, layout_boxes_on_canvas _ _ hne⟩

end FlowLayout
