import FlowLayout.Proofs.Exact
import FlowLayout.Proofs.Pipeline
/-!
# Node boxes keep apart

Over exact scalars the boxes of two distinct nodes of a layout share no point
(`boxesOf_apart`).

Along the layer axis a node of rank `k` sits at `k · (primary extent + layer spacing)`. Across,
a layer is placed by `placeLayer`, which puts each node at its aim or a gap after the node before
it and then shifts the whole layer by one drift, so every two nodes of the layer keep at least a
gap between their centres (`placeLayer_spaced`). A sweep places each layer once and writes no
other node (`placeLayer_getD_of_not_mem`); as the layers share no node, after the last sweep
every layer is spaced (`sweep_spaced`). Recentering moves all centres by one vector
(`recenter_centers`).

So nodes of different layers are at least a layer step apart along the layer axis, and nodes of
one layer at least a gap apart across it; both exceed the box's extent on that axis, since the
node spacing and the layer spacing of every profile are positive (`spacingFor_pos`).
-/

namespace FlowLayout

/-! ### Placing one layer -/

section Row

variable {α : Type} [Scalar α]

/-- One step of `placeLayer`'s row, kept last first: the next node goes to its aim, or a gap
after the node before it. -/
def pushPlace (gap : α) (acc : List α) (target : α) : List α :=
  match acc with
  | [] => [target]
  | previous :: _ => Scalar.max target (previous + gap) :: acc

/-- The places of a layer's nodes before the drift. -/
def placedRow (ideal : List α) (gap : α) : List α := (ideal.foldl (pushPlace gap) []).reverse

/-- `placeLayer` writes the row, moved by one drift, at the layer's nodes. -/
theorem placeLayer_eq (layer : Array Nat) (ideal : List α) (gap : α) (cross : Array α) :
    ∃ d, placeLayer layer ideal gap cross =
      (layer.toList.zip (placedRow ideal gap)).foldl
        (fun c vp => c.setIfInBounds vp.1 (vp.2 + d)) cross :=
  ⟨_, rfl⟩

theorem length_foldl_pushPlace (gap : α) :
    ∀ (ideal acc : List α), (ideal.foldl (pushPlace gap) acc).length = acc.length + ideal.length
  | [], _ => rfl
  | t :: ideal, acc => by
    rw [List.foldl_cons, length_foldl_pushPlace gap ideal]
    cases acc with
    | nil =>
      simp only [pushPlace, List.length_nil, List.length_cons]
      omega
    | cons previous rest =>
      simp only [pushPlace, List.length_cons]
      omega

theorem length_placedRow (ideal : List α) (gap : α) :
    (placedRow ideal gap).length = ideal.length := by
  simp [placedRow, length_foldl_pushPlace]

end Row

section Exact

variable {gap : ℝ}

/-- Kept last first, each place of the row is at least a gap after the one below it. -/
theorem pairwise_foldl_pushPlace (hgap : 0 ≤ gap) :
    ∀ (ideal acc : List ℝ), acc.Pairwise (fun a b => b + gap ≤ a) →
      (ideal.foldl (pushPlace gap) acc).Pairwise (fun a b => b + gap ≤ a)
  | [], _, h => h
  | t :: ideal, acc, h => by
    refine pairwise_foldl_pushPlace hgap ideal _ ?_
    cases acc with
    | nil => exact List.pairwise_singleton _ _
    | cons previous rest =>
      -- the new place is a gap after the previous one, which is above all the others
      have hnew : previous + gap ≤ Scalar.max t (previous + gap) := by
        rw [Scalar.max_real]
        exact le_max_right _ _
      refine List.Pairwise.cons (fun x hx => ?_) h
      rcases List.mem_cons.1 hx with rfl | hx
      · exact hnew
      · have hx' : x + gap ≤ previous := List.rel_of_pairwise_cons h hx
        linarith

theorem placedRow_pairwise (hgap : 0 ≤ gap) (ideal : List ℝ) :
    (placedRow ideal gap).Pairwise (fun a b => a + gap ≤ b) := by
  rw [placedRow, List.pairwise_reverse]
  exact pairwise_foldl_pushPlace hgap ideal [] List.Pairwise.nil

/-! ### Writing a row -/

section Write

variable (d : ℝ)

theorem getD_foldl_setRow_of_not_mem {v : Nat} :
    ∀ (vps : List (Nat × ℝ)) (c : Array ℝ), (∀ vp ∈ vps, vp.1 ≠ v) →
      (vps.foldl (fun c vp => c.setIfInBounds vp.1 (vp.2 + d)) c).getD v 0 = c.getD v 0
  | [], _, _ => rfl
  | vp :: vps, c, hv => by
    rw [List.foldl_cons, getD_foldl_setRow_of_not_mem vps _ fun x hx => hv x (.tail _ hx)]
    have hne : vp.1 ≠ v := hv vp List.mem_cons_self
    simp [Array.getD_eq_getD_getElem?, hne]

/-- A node listed once is read back at the place written for it. -/
theorem getD_foldl_setRow :
    ∀ (vs : List Nat) (ps : List ℝ) (c : Array ℝ), vs.Nodup → ∀ (k v : Nat) (p : ℝ),
      vs[k]? = some v → ps[k]? = some p → v < c.size →
      ((vs.zip ps).foldl (fun c vp => c.setIfInBounds vp.1 (vp.2 + d)) c).getD v 0 = p + d
  | [], _, _, _, _, _, _, hk, _, _ => by simp at hk
  | _ :: _, [], _, _, _, _, _, _, hp, _ => by simp at hp
  | w :: vs, q :: ps, c, hnd, k, v, p, hk, hp, hv => by
    rw [List.zip_cons_cons, List.foldl_cons]
    have hnd' := List.nodup_cons.1 hnd
    cases k with
    | zero =>
      simp only [List.getElem?_cons_zero, Option.some.injEq] at hk hp
      subst hk hp
      -- the later writes are at other nodes
      have hlater : ∀ vp ∈ vs.zip ps, vp.1 ≠ w := fun vp hvp heq =>
        hnd'.1 (heq ▸ (List.of_mem_zip hvp).1)
      rw [getD_foldl_setRow_of_not_mem d _ _ hlater]
      simp [Array.getD_eq_getD_getElem?, hv]
    | succ k =>
      simp only [List.getElem?_cons_succ] at hk hp
      exact getD_foldl_setRow vs ps _ hnd'.2 k v p hk hp (by rw [Array.size_setIfInBounds]; exact hv)

end Write

/-- Every two nodes of a layer, in order, have their centres at least `gap` apart across. -/
def Spaced (gap : ℝ) (L : Array Nat) (cross : Array ℝ) : Prop :=
  ∀ (i j : Nat) (hi : i < L.size) (hj : j < L.size), i < j →
    cross.getD L[i] 0 + gap ≤ cross.getD L[j] 0

theorem size_placeLayer (layer : Array Nat) (ideal : List ℝ) (gap : ℝ) (cross : Array ℝ) :
    (placeLayer layer ideal gap cross).size = cross.size := by
  obtain ⟨d, hd⟩ := placeLayer_eq layer ideal gap cross
  rw [hd, size_foldl_of_size fun _ _ => Array.size_setIfInBounds]

/-- Placing a layer writes none of the other nodes. -/
theorem placeLayer_getD_of_not_mem {layer : Array Nat} (ideal : List ℝ) (gap : ℝ)
    (cross : Array ℝ) {v : Nat} (hv : v ∉ layer.toList) :
    (placeLayer layer ideal gap cross).getD v 0 = cross.getD v 0 := by
  obtain ⟨d, hd⟩ := placeLayer_eq layer ideal gap cross
  rw [hd]
  exact getD_foldl_setRow_of_not_mem d _ _ fun vp hvp heq => hv (heq ▸ (List.of_mem_zip hvp).1)

/-- A placed layer is spaced: its row keeps a gap between places and one drift moves them all. -/
theorem placeLayer_spaced (hgap : 0 ≤ gap) {layer : Array Nat} {ideal : List ℝ}
    {cross : Array ℝ} (hnd : layer.toList.Nodup) (hlen : ideal.length = layer.size)
    (hlt : ∀ v ∈ layer.toList, v < cross.size) :
    Spaced gap layer (placeLayer layer ideal gap cross) := by
  obtain ⟨d, hd⟩ := placeLayer_eq layer ideal gap cross
  have hrow := placedRow_pairwise hgap ideal
  have hrowlen : (placedRow ideal gap).length = layer.size := by rw [length_placedRow, hlen]
  -- the node at index `k` of the layer is read back at the row's `k`-th place
  have hread : ∀ (k : Nat) (hk : k < layer.size) (hk' : k < (placedRow ideal gap).length),
      (placeLayer layer ideal gap cross).getD layer[k] 0 = (placedRow ideal gap)[k] + d := by
    intro k hk hk'
    rw [hd]
    exact getD_foldl_setRow d _ _ _ hnd k _ _ (by simp [hk]) (List.getElem?_eq_getElem hk')
      (hlt _ (Array.getElem_mem_toList hk))
  intro i j hi hj hij
  rw [hread i hi (by omega), hread j hj (by omega)]
  have hgap_ij := List.pairwise_iff_getElem.1 hrow i j (by omega) (by omega) hij
  linarith

/-! ### The sweeps -/

section Sweep

variable (ideal : Array ℝ → Array Nat → List ℝ)

theorem size_sweep :
    ∀ (Ls : List (Array Nat)) (c : Array ℝ),
      (Ls.foldl (fun c L => placeLayer L (ideal c L) gap c) c).size = c.size
  | [], _ => rfl
  | _ :: Ls, c => by rw [List.foldl_cons, size_sweep Ls, size_placeLayer]

theorem sweep_getD_of_not_mem {v : Nat} :
    ∀ (Ls : List (Array Nat)) (c : Array ℝ), v ∉ (Ls.map Array.toList).flatten →
      (Ls.foldl (fun c L => placeLayer L (ideal c L) gap c) c).getD v 0 = c.getD v 0
  | [], _, _ => rfl
  | L :: Ls, c, hv => by
    rw [List.map_cons, List.flatten_cons, List.mem_append, not_or] at hv
    rw [List.foldl_cons, sweep_getD_of_not_mem Ls _ hv.2, placeLayer_getD_of_not_mem _ _ _ hv.1]

/-- After a sweep over layers that share no node, every layer is spaced: its own placement
spaces it, and the later placements write only nodes of other layers. -/
theorem sweep_spaced (hgap : 0 ≤ gap) (hlen : ∀ c L, (ideal c L).length = L.size) :
    ∀ (Ls : List (Array Nat)) (c : Array ℝ), (Ls.map Array.toList).flatten.Nodup →
      (∀ L ∈ Ls, ∀ v ∈ L.toList, v < c.size) →
      ∀ L ∈ Ls, Spaced gap L (Ls.foldl (fun c L => placeLayer L (ideal c L) gap c) c)
  | [], _, _, _, _, hL => absurd hL List.not_mem_nil
  | L₀ :: Ls, c, hnd, hlt, L, hL => by
    rw [List.map_cons, List.flatten_cons, List.nodup_append] at hnd
    obtain ⟨hnd₀, hndLs, hdisj⟩ := hnd
    have hsize := size_placeLayer L₀ (ideal c L₀) gap c
    have hlt' : ∀ L ∈ Ls, ∀ v ∈ L.toList, v < (placeLayer L₀ (ideal c L₀) gap c).size := by
      intro L hL v hv
      rw [hsize]
      exact hlt L (.tail _ hL) v hv
    rw [List.foldl_cons]
    rcases List.mem_cons.1 hL with rfl | hL
    · -- the first layer is spaced by its placement, and no later layer writes its nodes
      have hfirst := placeLayer_spaced hgap hnd₀ (hlen c L) (hlt L List.mem_cons_self)
      intro i j hi hj hij
      have hkeep : ∀ (k : Nat) (hk : k < L.size),
          (Ls.foldl (fun c L => placeLayer L (ideal c L) gap c)
            (placeLayer L (ideal c L) gap c)).getD L[k] 0 =
            (placeLayer L (ideal c L) gap c).getD L[k] 0 := by
        intro k hk
        exact sweep_getD_of_not_mem ideal Ls _ fun hmem =>
          hdisj _ (Array.getElem_mem_toList hk) _ hmem rfl
      rw [hkeep i hi, hkeep j hj]
      exact hfirst i j hi hj hij
    · exact sweep_spaced hgap hlen Ls _ hndLs hlt' L hL

end Sweep

/-! ### Centres -/

/-- Recentering moves every centre by one vector. -/
theorem recenter_centers (cs : Array (Point ℝ)) (sp : Spacing ℝ) (cfg : LayoutConfig ℝ) :
    ∃ a b : ℝ, (recenter cs sp cfg).centers = cs.map fun c => ⟨c.x + a, c.y + b⟩ := by
  unfold recenter
  split
  · refine ⟨0, 0, ?_⟩
    simp
  · exact ⟨_, _, rfl⟩

/-- The rank of layer `l` of `count` along the layer axis: its index, or counted from the far
end. -/
def layerRank (direction : Direction) (count l : Nat) : Nat :=
  if direction.isReversed then count - 1 - l else l

theorem layerRank_inj {direction : Direction} {count l₁ l₂ : Nat} (h₁ : l₁ < count)
    (h₂ : l₂ < count) (h : layerRank direction count l₁ = layerRank direction count l₂) :
    l₁ = l₂ := by
  unfold layerRank at h
  split at h <;> omega

/-- Two different layers sit at least one layer step apart along the layer axis. -/
theorem layerRank_step_apart {direction : Direction} {count l₁ l₂ : Nat} (h₁ : l₁ < count)
    (h₂ : l₂ < count) (hl : l₁ ≠ l₂) {step : ℝ} (hstep : 0 ≤ step) :
    step ≤ |(layerRank direction count l₁ : ℝ) * step - layerRank direction count l₂ * step| := by
  set r₁ := layerRank direction count l₁
  set r₂ := layerRank direction count l₂
  have hrank : r₁ ≠ r₂ := fun h => hl (layerRank_inj h₁ h₂ h)
  -- distinct ranks are whole numbers at least one apart
  have hone : 1 ≤ |(r₁ : ℝ) - r₂| := by
    rcases Nat.lt_or_gt_of_ne hrank with hr | hr
    · have hr' : (r₁ : ℝ) + 1 ≤ r₂ := by exact_mod_cast hr
      rw [abs_sub_comm, abs_of_nonneg (by linarith)]
      linarith
    · have hr' : (r₂ : ℝ) + 1 ≤ r₁ := by exact_mod_cast hr
      rw [abs_of_nonneg (by linarith)]
      linarith
  calc step ≤ |(r₁ : ℝ) - r₂| * step := le_mul_of_one_le_left hstep hone
    _ = |(r₁ : ℝ) * step - r₂ * step| := by rw [← sub_mul, abs_mul, abs_of_nonneg hstep]

/-- The extent of a node box across the layers. -/
def Spacing.crossExtent (sp : Spacing ℝ) (direction : Direction) : ℝ :=
  if direction.isHorizontal then sp.nodeHeight else sp.nodeWidth

/-- The extent of a node box along the layers. -/
def Spacing.primaryExtent (sp : Spacing ℝ) (direction : Direction) : ℝ :=
  if direction.isHorizontal then sp.nodeWidth else sp.nodeHeight

/-- The point at `along` on the layer axis and `across` on the cross axis. -/
def Direction.point (direction : Direction) (along across : ℝ) : Point ℝ :=
  if direction.isHorizontal then ⟨along, across⟩ else ⟨across, along⟩

/-- The centres of `assignCoordinates`: node `v` sits at its rank times the layer step along the
layer axis and at its cross position across, all moved by one vector; every layer is spaced in
the cross positions. -/
theorem assignCoordinates_spec (g : LayoutGraph) (layers : Array (Array Nat))
    (layerOf : Array Nat) (direction : Direction) (spacing : Spacing ℝ) (config : LayoutConfig ℝ)
    (hgap : 0 ≤ spacing.crossExtent direction + spacing.nodeSpacing)
    (hnd : (layers.toList.map Array.toList).flatten.Nodup)
    (hlt : ∀ L ∈ layers.toList, ∀ v ∈ L.toList, v < g.nodeCount) :
    ∃ cross : Array ℝ, cross.size = g.nodeCount ∧
      (∀ L ∈ layers.toList, Spaced (spacing.crossExtent direction + spacing.nodeSpacing) L cross) ∧
      ∃ a b : ℝ, (assignCoordinates g layers layerOf direction spacing config).centers =
        ((cross.toList.zipIdx.map fun (x : ℝ × Nat) =>
          direction.point ((layerRank direction layers.size (layerOf.getD x.2 0) : ℝ) *
            (spacing.primaryExtent direction + spacing.layerSpacing)) x.1).toArray).map
          fun c => ⟨c.x + a, c.y + b⟩ := by
  unfold assignCoordinates
  obtain ⟨a, b, hrec⟩ := recenter_centers _ spacing config
  rw [hrec]
  refine ⟨_, ?_, ?_, a, b, rfl⟩
  · -- both sweeps keep the size of the all-zero start
    unfold crossPositions
    refine (size_sweep _ _ _).trans ?_
    rw [← Array.foldl_toList]
    refine (size_sweep _ _ _).trans ?_
    simp
  · -- the upward sweep, the last one, spaces every layer
    intro L hL
    unfold crossPositions
    refine sweep_spaced _ hgap (fun _ _ => by simp) _ _ ?_ ?_ L (List.mem_reverse.2 hL)
    · rw [List.map_reverse]
      exact ((List.reverse_perm _).flatten).nodup_iff.2 hnd
    · -- the downward sweep keeps the size of the all-zero start
      intro L' hL' v hv
      refine lt_of_lt_of_eq (hlt L' (List.mem_reverse.1 hL') v hv) ?_
      rw [← Array.foldl_toList]
      refine ((size_sweep _ _ _).trans ?_).symm
      simp

end Exact

/-! ### Spacing -/

theorem ComplexityClass.profile_pos (cls : ComplexityClass) :
    0 < (cls.profile : Profile ℝ).baseWidth ∧
      (cls.profile : Profile ℝ).baseWidth ≤ (cls.profile : Profile ℝ).maxWidth ∧
      0 < (cls.profile : Profile ℝ).height ∧ 0 < (cls.profile : Profile ℝ).nodeSpacingRatio ∧
      0 < (cls.profile : Profile ℝ).layerSpacingRatio := by
  cases cls <;> norm_num [ComplexityClass.profile]

/-- Node boxes are at least 44 wide and 44 tall, whatever the settings. -/
theorem spacingFor_size (r : ComplexityReport ℝ) (config : LayoutConfig ℝ) :
    44 ≤ (spacingFor r config).nodeWidth ∧ 44 ≤ (spacingFor r config).nodeHeight := by
  have hprofile : 100 ≤ (r.cls.profile : Profile ℝ).baseWidth ∧
      44 ≤ (r.cls.profile : Profile ℝ).height := by
    cases r.cls <;> norm_num [ComplexityClass.profile]
  obtain ⟨-, hmax, -, -, -⟩ := r.cls.profile_pos
  refine ⟨?_, hprofile.2⟩
  simp only [spacingFor]
  -- a width kept within the profile's widths, or narrowed to no less than 48
  split
  · rw [Scalar.max_real]
    exact le_trans (by norm_num) (le_max_right _ _)
  · unfold Scalar.clamp
    split
    · linarith
    · split <;> linarith

/-- Layers are at least 44 apart, whatever the settings. -/
theorem spacingFor_layerSpacing (r : ComplexityReport ℝ) (config : LayoutConfig ℝ) :
    44 ≤ (spacingFor r config).layerSpacing := by
  simp only [spacingFor]
  cases r.cls <;> norm_num [ComplexityClass.profile]

/-- Node sizes and both spacings are positive, whatever the settings. -/
theorem spacingFor_pos (r : ComplexityReport ℝ) (config : LayoutConfig ℝ) :
    0 < (spacingFor r config).nodeWidth ∧ 0 < (spacingFor r config).nodeHeight ∧
      0 < (spacingFor r config).nodeSpacing ∧ 0 < (spacingFor r config).layerSpacing := by
  obtain ⟨-, -, hheight, hnode, hlayer⟩ := r.cls.profile_pos
  have hwidth : 0 < (spacingFor r config).nodeWidth :=
    lt_of_lt_of_le (by norm_num) (spacingFor_size r config).1
  exact ⟨hwidth, hheight, mul_pos hwidth hnode, mul_pos hheight hlayer⟩

/-! ### Boxes -/

/-- Two rectangles share no point. -/
def Rect.Apart (r q : Rect ℝ) : Prop := ∀ p, r.contains p = true → q.contains p = false

/-- Two boxes of one size are apart when their centres are further apart than the size on one
axis. -/
theorem fromCenter_apart {c₁ c₂ : Point ℝ} {w h : ℝ}
    (hsep : w < |c₁.x - c₂.x| ∨ h < |c₁.y - c₂.y|) :
    (Rect.fromCenter c₁ w h).Apart (Rect.fromCenter c₂ w h) := by
  intro p hp
  rw [Rect.contains_iff] at hp
  simp only [Rect.fromCenter_x, Rect.fromCenter_y, Rect.fromCenter_width,
    Rect.fromCenter_height] at hp
  cases hq : (Rect.fromCenter c₂ w h).contains p with
  | false => rfl
  | true =>
    rw [Rect.contains_iff] at hq
    simp only [Rect.fromCenter_x, Rect.fromCenter_y, Rect.fromCenter_width,
      Rect.fromCenter_height] at hq
    rcases hsep with hx | hy
    · rcases lt_abs.1 hx with hx | hx <;> linarith [hp.1, hp.2.1, hq.1, hq.2.1]
    · rcases lt_abs.1 hy with hy | hy <;> linarith [hp.2.2.1, hp.2.2.2, hq.2.2.1, hq.2.2.2]

/-- Boxes placed on the layer and cross axes, moved by one vector, are apart when their
positions differ by more than the box's extent along or across the layers. -/
theorem point_apart {direction : Direction} {sp : Spacing ℝ} {al₁ al₂ ac₁ ac₂ a b : ℝ}
    (hsep : sp.primaryExtent direction < |al₁ - al₂| ∨ sp.crossExtent direction < |ac₁ - ac₂|) :
    (Rect.fromCenter ⟨(direction.point al₁ ac₁).x + a, (direction.point al₁ ac₁).y + b⟩
      sp.nodeWidth sp.nodeHeight).Apart
      (Rect.fromCenter ⟨(direction.point al₂ ac₂).x + a, (direction.point al₂ ac₂).y + b⟩
        sp.nodeWidth sp.nodeHeight) := by
  apply fromCenter_apart
  simp only [add_sub_add_right_eq_sub]
  unfold Direction.point
  unfold Spacing.primaryExtent Spacing.crossExtent at hsep
  cases h : direction.isHorizontal
  · simp only [h, Bool.false_eq_true, if_false] at hsep ⊢
    exact hsep.symm
  · simp only [h, if_true] at hsep ⊢
    exact hsep

/-! ### The boxes of a layout -/

section Layout

variable (c : Flowchart) (s : LayoutConfig ℝ)

/-- The spacing a layout run picks. -/
noncomputable def spacingOf : Spacing ℝ := spacingFor (analyzeComplexity c (orderingOf c s).layers) s.sanitized

/-- The node boxes a layout run places and routes around. -/
noncomputable def boxesOf : Array (Rect ℝ) :=
  (assignCoordinates (LayoutGraph.ofChart c) (orderingOf c s).layers (layeringOf c).layerOf
    c.direction (spacingOf c s) s.sanitized).centers.map fun p =>
      Rect.fromCenter p (spacingOf c s).nodeWidth (spacingOf c s).nodeHeight

theorem layout_routedEdges_eq :
    (layoutChart c s).layout.routedEdges =
      routeEdges c (LayoutGraph.ofChart c) (boxesOf c s) (LayoutGraph.ofChart c).backEdges
        s.sanitized :=
  rfl

/-- A placed node's bounds are its box. -/
theorem layout_bounds {i : Nat} {p : NodePlacement ℝ}
    (h : (layoutChart c s).layout.nodes[i]? = some p) :
    i < c.nodes.length ∧ p.nodeIndex = i ∧ p.bounds = (boxesOf c s).getD i ⟨0.0, 0.0, 0.0, 0.0⟩ := by
  have hmap : (layoutChart c s).layout.nodes.map (fun p => (p.nodeIndex, p.bounds)) =
      c.nodes.zipIdx.map fun x => (x.2, (boxesOf c s).getD x.2 ⟨0.0, 0.0, 0.0, 0.0⟩) := by
    unfold layoutChart
    rw [List.map_map]
    exact List.map_congr_left fun x _ => rfl
  have hi := congrArg (·[i]?) hmap
  simp only [List.getElem?_map, h, Option.map_some, List.getElem?_zipIdx] at hi
  cases hn : c.nodes[i]? with
  | none => simp [hn] at hi
  | some n =>
    simp only [hn, Option.map_some, Option.some.injEq, Prod.mk.injEq, Nat.zero_add] at hi
    exact ⟨(List.getElem?_eq_some_iff.1 hn).1, hi⟩

theorem spacingOf_pos :
    0 < (spacingOf c s).nodeWidth ∧ 0 < (spacingOf c s).nodeHeight ∧
      0 < (spacingOf c s).nodeSpacing ∧ 0 < (spacingOf c s).layerSpacing :=
  spacingFor_pos _ _

/-- Each node sits in the reduced layer of its layer, at some index of it. -/
theorem orderingOf_slot {v : Nat} (hv : v < c.nodes.length) :
    ∃ L ∈ (orderingOf c s).layers.toList, ∃ (k : Nat) (hk : k < L.size), L[k] = v ∧
      (layeringOf c).layerOf.getD v 0 < (orderingOf c s).layers.size ∧
      L = (orderingOf c s).layers.getD ((layeringOf c).layerOf.getD v 0) #[] := by
  have hat := (orderingOf_getElem?_iff c s ((layeringOf c).layerOf.getD v 0) _ v).2
    ⟨by rw [LayoutGraph.ofChart_nodeCount]; exact hv, rfl, rfl⟩
  obtain ⟨hk, hkv⟩ := List.getElem?_eq_some_iff.1 hat
  -- a layer past the last one is empty and holds no node
  have hl : (layeringOf c).layerOf.getD v 0 < (orderingOf c s).layers.size := by
    by_contra hge
    have hnil : (orderingOf c s).layers.getD ((layeringOf c).layerOf.getD v 0) #[] = #[] := by
      rw [Array.getD_eq_getD_getElem?, Array.getElem?_eq_none (not_lt.1 hge)]
      rfl
    rw [hnil] at hk
    simp at hk
  refine ⟨_, ?_, _, by simpa using hk, by simpa using hkv, hl, rfl⟩
  rw [Array.getD_eq_getD_getElem?, Array.getElem?_eq_getElem hl, Option.getD_some]
  exact Array.getElem_mem_toList hl

/-- The boxes of a layout: node `v`'s box has the spacing's node size and is centred at its
rank times the layer step along the layers and at its cross position across, all moved by one
vector; the cross positions space every reduced layer. -/
theorem boxesOf_spec :
    ∃ cross : Array ℝ, (∀ L ∈ (orderingOf c s).layers.toList,
        Spaced ((spacingOf c s).crossExtent c.direction + (spacingOf c s).nodeSpacing) L cross) ∧
      ∃ a b : ℝ, (boxesOf c s).size = c.nodes.length ∧
        ∀ v, v < c.nodes.length → ∀ d, (boxesOf c s).getD v d =
          Rect.fromCenter
            ⟨(c.direction.point ((layerRank c.direction (orderingOf c s).layers.size
                ((layeringOf c).layerOf.getD v 0) : ℝ) *
                ((spacingOf c s).primaryExtent c.direction + (spacingOf c s).layerSpacing))
                (cross.getD v 0)).x + a,
              (c.direction.point ((layerRank c.direction (orderingOf c s).layers.size
                ((layeringOf c).layerOf.getD v 0) : ℝ) *
                ((spacingOf c s).primaryExtent c.direction + (spacingOf c s).layerSpacing))
                (cross.getD v 0)).y + b⟩
            (spacingOf c s).nodeWidth (spacingOf c s).nodeHeight := by
  obtain ⟨hw, hh, hns, -⟩ := spacingOf_pos c s
  -- the reduced layers list every node once
  have hperm := orderingOf_flatten_perm c s
  have hnd := hperm.nodup_iff.2 List.nodup_range
  have hlt : ∀ L ∈ (orderingOf c s).layers.toList, ∀ v ∈ L.toList,
      v < (LayoutGraph.ofChart c).nodeCount := fun L hL v hv =>
    List.mem_range.1 (hperm.subset (List.mem_flatten.2 ⟨L.toList, List.mem_map_of_mem hL, hv⟩))
  have hgap : 0 ≤ (spacingOf c s).crossExtent c.direction + (spacingOf c s).nodeSpacing := by
    unfold Spacing.crossExtent
    split <;> linarith
  obtain ⟨cross, hsize, hspaced, a, b, hcen⟩ := assignCoordinates_spec (LayoutGraph.ofChart c)
    (orderingOf c s).layers (layeringOf c).layerOf c.direction (spacingOf c s) s.sanitized hgap
    hnd hlt
  rw [LayoutGraph.ofChart_nodeCount] at hsize
  refine ⟨cross, hspaced, a, b, by simp [boxesOf, hcen, hsize], fun v hv d => ?_⟩
  have hv' : v < cross.size := hsize ▸ hv
  simp [boxesOf, hcen, Array.getD_eq_getD_getElem?, hv']

theorem size_boxesOf : (boxesOf c s).size = c.nodes.length := by
  obtain ⟨_, -, _, _, hsize, -⟩ := boxesOf_spec c s
  exact hsize

/-- A node's box has the spacing's node size. -/
theorem boxesOf_getD_size {v : Nat} (hv : v < c.nodes.length) (d : Rect ℝ) :
    ((boxesOf c s).getD v d).width = (spacingOf c s).nodeWidth ∧
      ((boxesOf c s).getD v d).height = (spacingOf c s).nodeHeight := by
  obtain ⟨_, -, _, _, -, hbox⟩ := boxesOf_spec c s
  rw [hbox v hv d]
  exact ⟨rfl, rfl⟩

/-- The boxes of two distinct nodes share no point. Nodes of different layers sit a layer step
apart along the layer axis, more than a box's extent there; nodes of one layer are spaced across
by more than a box's extent there. -/
theorem boxesOf_apart {i j : Nat} (hi : i < c.nodes.length) (hj : j < c.nodes.length)
    (hij : i ≠ j) (d : Rect ℝ) : ((boxesOf c s).getD i d).Apart ((boxesOf c s).getD j d) := by
  obtain ⟨hw, hh, hns, hls⟩ := spacingOf_pos c s
  have hce : 0 < (spacingOf c s).crossExtent c.direction := by
    unfold Spacing.crossExtent
    split
    · exact hh
    · exact hw
  obtain ⟨cross, hspaced, a, b, -, hbox⟩ := boxesOf_spec c s
  obtain ⟨Li, hLi, ki, hki, hLki, hli, hLi_eq⟩ := orderingOf_slot c s hi
  obtain ⟨Lj, hLj, kj, hkj, hLkj, hlj, hLj_eq⟩ := orderingOf_slot c s hj
  rw [hbox i hi d, hbox j hj d]
  apply point_apart
  by_cases hl : (layeringOf c).layerOf.getD i 0 = (layeringOf c).layerOf.getD j 0
  · -- one layer: the cross positions are a gap apart
    right
    rw [← hl, ← hLi_eq] at hLj_eq
    subst Lj
    have hk : ki ≠ kj := fun h => hij (by subst h; rw [← hLki, hLkj])
    have hgap' : (spacingOf c s).crossExtent c.direction <
        (spacingOf c s).crossExtent c.direction + (spacingOf c s).nodeSpacing := by linarith
    rcases Nat.lt_or_gt_of_ne hk with hlt' | hlt'
    · have := hspaced Li hLi ki kj hki hkj hlt'
      rw [hLki, hLkj] at this
      rw [abs_sub_comm, abs_of_nonneg (by linarith)]
      linarith
    · have := hspaced Li hLi kj ki hkj hki hlt'
      rw [hLki, hLkj] at this
      rw [abs_of_nonneg (by linarith)]
      linarith
  · -- different layers: the ranks differ, so the positions along are a layer step apart
    left
    have hpe : 0 < (spacingOf c s).primaryExtent c.direction := by
      unfold Spacing.primaryExtent
      split
      · exact hw
      · exact hh
    calc (spacingOf c s).primaryExtent c.direction <
          (spacingOf c s).primaryExtent c.direction + (spacingOf c s).layerSpacing := by linarith
      _ ≤ _ := layerRank_step_apart hli hlj hl (by linarith)

/-- In a layout whose layers run down or up the page, the boxes of nodes of different layers are
a box's height and a layer gap apart vertically, at least. -/
theorem boxesOf_layers_apart_y (hdir : c.direction.isHorizontal = false) {i j : Nat}
    (hi : i < c.nodes.length) (hj : j < c.nodes.length)
    (hl : (layeringOf c).layerOf.getD i 0 ≠ (layeringOf c).layerOf.getD j 0) (d : Rect ℝ) :
    (spacingOf c s).nodeHeight + (spacingOf c s).layerSpacing ≤
      |((boxesOf c s).getD i d).center.y - ((boxesOf c s).getD j d).center.y| := by
  obtain ⟨-, hh, -, hls⟩ := spacingOf_pos c s
  obtain ⟨cross, -, a, b, -, hbox⟩ := boxesOf_spec c s
  obtain ⟨-, -, -, -, -, hli, -⟩ := orderingOf_slot c s hi
  obtain ⟨-, -, -, -, -, hlj, -⟩ := orderingOf_slot c s hj
  rw [hbox i hi d, hbox j hj d, Rect.center_fromCenter, Rect.center_fromCenter]
  simp only [Direction.point, Spacing.primaryExtent, hdir, Bool.false_eq_true, if_false,
    add_sub_add_right_eq_sub]
  exact layerRank_step_apart hli hlj hl (by linarith)

end Layout

end FlowLayout
