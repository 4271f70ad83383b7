import Mathlib.Algebra.BigOperators.Intervals
import FlowLayout.Proofs.Indexes
import FlowLayout.Proofs.Passes
/-!
# Transposing a layer lowers the crossings

`transpose` tries adjacent swaps in one layer and keeps a swap only when it lowers the
crossings on the two sides of the layer. Read over an arrangement whose positions agree with
its layers (`Arrangement.Consistent`) and an adjacency whose edges go from one layer to the
next (`Adjacency.StepsDown`):

* a swap keeps the positions consistent (`Consistent.swapAt`), and a second swap at the same
  place restores layer and positions exactly (`swapAt_swapAt`), which is how a rejected trial
  is undone;
* reordering one layer changes only the crossings on its two sides (`totalCrossings_add_local`),
  so each kept swap lowers the total crossings by at least one;
* `transpose` only reorders its layer, keeps the positions consistent, and reaches its result
  by as many kept swaps as it reports, so the total crossings fall by at least that count
  (`transpose_lowers_crossings`).

Both conditions hold where crossing reduction calls `transpose`: it starts, for a layering that
holds every node once, from consistent positions and an adjacency that steps down the layers
(`ofLayers_meets_transpose_conditions`), and its passes keep the positions consistent
(`Passing.run_consistent`) and the layers up to order.
-/

namespace FlowLayout

namespace Arrangement

variable {a : Arrangement} {li i : Nat}

theorem ext {b : Arrangement} (hl : a.layers = b.layers) (hp : a.pos = b.pos) : a = b := by
  cases a
  cases b
  cases hl
  cases hp
  rfl

/-! ### Layers -/

theorem layer_of_size_le {l : Nat} (h : a.layers.size ≤ l) : a.layer l = #[] := by
  simp [layer, Array.getD_eq_getD_getElem?, h]

theorem getElem?_layers {l : Nat} (h : l < a.layers.size) : a.layers[l]? = some (a.layer l) := by
  simp [layer, Array.getD_eq_getD_getElem?, h]

theorem lt_size_of_lt_size_layer {l k : Nat} (h : k < (a.layer l).size) : l < a.layers.size := by
  by_contra hl
  rw [layer_of_size_le (Nat.le_of_not_lt hl)] at h
  simp at h

theorem lt_size_of_mem_layer {l v : Nat} (hv : v ∈ (a.layer l).toList) : l < a.layers.size :=
  lt_size_of_lt_size_layer (by simpa using List.length_pos_of_mem hv)

theorem mem_layer_of_getElem? {l k v : Nat} (h : (a.layer l)[k]? = some v) :
    v ∈ (a.layer l).toList :=
  Array.mem_toList_iff.2 (Array.mem_of_getElem? h)

/-- Positions that agree with the layers: no node stands twice in the layering, and every node
of a layer has an entry in the positions, holding its index within the layer. -/
structure Consistent (a : Arrangement) : Prop where
  nodup : (a.layers.toList.map Array.toList).flatten.Nodup
  pos_eq : ∀ l k v, (a.layer l)[k]? = some v → v < a.pos.size ∧ a.pos.getD v 0 = k

theorem Consistent.layer_nodup (hc : a.Consistent) (l : Nat) : (a.layer l).toList.Nodup := by
  by_cases hl : l < a.layers.size
  · refine (List.nodup_flatten.1 hc.nodup).1 _ (List.mem_map.2 ⟨a.layer l, ?_, rfl⟩)
    exact Array.mem_toList_iff.2 (Array.mem_of_getElem? (getElem?_layers hl))
  · rw [layer_of_size_le (Nat.le_of_not_lt hl)]
    simp

/-- No node stands in two layers. -/
theorem Consistent.eq_of_mem (hc : a.Consistent) {l l' v : Nat} (hv : v ∈ (a.layer l).toList)
    (hv' : v ∈ (a.layer l').toList) : l = l' := by
  -- membership in layer `m` is membership in the `m`-th list of the flattening
  have hget : ∀ {m}, v ∈ (a.layer m).toList →
      ∃ hm : m < (a.layers.toList.map Array.toList).length,
        v ∈ (a.layers.toList.map Array.toList)[m] := fun {m} hm => by
    have hlt := lt_size_of_mem_layer hm
    exact ⟨by simpa using hlt, by simpa [layer, Array.getD_eq_getD_getElem?, hlt] using hm⟩
  have hdis := List.pairwise_iff_getElem.1 (List.nodup_flatten.1 hc.nodup).2
  obtain ⟨hl, hvl⟩ := hget hv
  obtain ⟨hl', hvl'⟩ := hget hv'
  by_contra hne
  rcases Nat.lt_or_gt_of_ne hne with h | h
  · exact hdis l l' hl hl' h hvl hvl'
  · exact hdis l' l hl' hl h hvl' hvl

/-- A node stands at one index of its layer only. -/
theorem Consistent.index_eq (hc : a.Consistent) {l k j v : Nat} (hk : (a.layer l)[k]? = some v)
    (hj : (a.layer l)[j]? = some v) : k = j :=
  (hc.pos_eq l k v hk).2.symm.trans (hc.pos_eq l j v hj).2

/-- Neighbours in a layer are distinct nodes. -/
theorem Consistent.ne_of_adjacent (hc : a.Consistent) {x y : Nat} (hx : (a.layer li)[i]? = some x)
    (hy : (a.layer li)[i + 1]? = some y) : x ≠ y :=
  fun h => absurd (hc.index_eq hx (h ▸ hy)) (by omega)

/-! ### One swap -/

theorem layer_swapAt_self (a : Arrangement) (li i : Nat) :
    (a.swapAt li i).layer li = (a.layer li).swapIfInBounds i (i + 1) := by
  by_cases hli : li < a.layers.size
  · simp [swapAt, layer, Array.getD_eq_getD_getElem?, hli]
  · simp [swapAt, layer, Array.getD_eq_getD_getElem?, hli, Array.swapIfInBounds]

theorem layer_swapAt_of_ne (a : Arrangement) {l : Nat} (li i : Nat) (hl : l ≠ li) :
    (a.swapAt li i).layer l = a.layer l := by
  simp [swapAt, layer, Array.getD_eq_getD_getElem?, Ne.symm hl]

@[simp] theorem size_pos_swapAt (a : Arrangement) (li i : Nat) :
    (a.swapAt li i).pos.size = a.pos.size := by
  simp [swapAt]

variable {x y : Nat}

/-- A swap in range records the two nodes it exchanges at their new indexes. -/
theorem pos_swapAt (hx : (a.layer li)[i]? = some x) (hy : (a.layer li)[i + 1]? = some y) :
    (a.swapAt li i).pos = (a.pos.setIfInBounds y i).setIfInBounds x (i + 1) := by
  obtain ⟨hi, rfl⟩ := Array.getElem?_eq_some_iff.1 hy
  obtain ⟨hi', rfl⟩ := Array.getElem?_eq_some_iff.1 hx
  simp [swapAt, Array.swapIfInBounds, hi, hi', Array.getD_eq_getD_getElem?]

theorem getElem?_swapIfInBounds {L : Array Nat} (hx : L[i]? = some x) (hy : L[i + 1]? = some y)
    (k : Nat) :
    (L.swapIfInBounds i (i + 1))[k]? = if i + 1 = k then some x else if i = k then some y else L[k]? := by
  obtain ⟨hi, rfl⟩ := Array.getElem?_eq_some_iff.1 hy
  obtain ⟨hi', rfl⟩ := Array.getElem?_eq_some_iff.1 hx
  simp only [Array.swapIfInBounds, hi, hi', dite_true, Array.getElem?_swap]

theorem exists_swap_pair {L : Array Nat} (hi : i + 1 < L.size) :
    ∃ x y, L[i]? = some x ∧ L[i + 1]? = some y :=
  ⟨_, _, Array.getElem?_eq_getElem (Nat.lt_of_succ_lt hi), Array.getElem?_eq_getElem hi⟩

/-- A swap in range keeps the positions consistent with the layers. -/
theorem Consistent.swapAt (hc : a.Consistent) (hi : i + 1 < (a.layer li).size) :
    (a.swapAt li i).Consistent where
  nodup := (SameLayers.flatten_perm (a.swapAt_sameLayers li i)).nodup_iff.2 hc.nodup
  pos_eq l k v hv := by
    obtain ⟨x, y, hx, hy⟩ := exists_swap_pair hi
    have hpx := hc.pos_eq li i x hx
    have hpy := hc.pos_eq li (i + 1) y hy
    have hxy := hc.ne_of_adjacent hx hy
    rw [size_pos_swapAt, pos_swapAt hx hy]
    -- a node that is neither of the two keeps its entry
    have hkeep : ∀ w, w ≠ x → w ≠ y →
        ((a.pos.setIfInBounds y i).setIfInBounds x (i + 1)).getD w 0 = a.pos.getD w 0 :=
      fun w h1 h2 => by
        rw [getD_setIfInBounds_of_ne (Ne.symm h1), getD_setIfInBounds_of_ne (Ne.symm h2)]
    by_cases hl : l = li
    · subst hl
      rw [layer_swapAt_self, getElem?_swapIfInBounds hx hy] at hv
      split_ifs at hv with h1 h2
      · -- the node moved down to index `i + 1`
        obtain rfl := Option.some.inj hv
        refine ⟨hpx.1, ?_⟩
        rw [Peeling.getD_setIfInBounds _ _ _ _ _ (by simpa using hpx.1), if_pos rfl, h1]
      · -- the node moved up to index `i`
        obtain rfl := Option.some.inj hv
        refine ⟨hpy.1, ?_⟩
        rw [Peeling.getD_setIfInBounds _ _ _ _ _ (by simpa using hpx.1), if_neg hxy,
          Peeling.getD_setIfInBounds _ _ _ _ _ hpy.1, if_pos rfl, h2]
      · -- every other node of the layer keeps its index
        have hv' := hc.pos_eq l k v hv
        refine ⟨hv'.1, (hkeep v ?_ ?_).trans hv'.2⟩
        · rintro rfl; exact h2 (hc.index_eq hx hv)
        · rintro rfl; exact h1 (hc.index_eq hy hv)
    · -- nodes of other layers are not among the two
      rw [layer_swapAt_of_ne a li i hl] at hv
      have hv' := hc.pos_eq l k v hv
      refine ⟨hv'.1, (hkeep v ?_ ?_).trans hv'.2⟩
      · rintro rfl; exact hl (hc.eq_of_mem (mem_layer_of_getElem? hv) (mem_layer_of_getElem? hx))
      · rintro rfl; exact hl (hc.eq_of_mem (mem_layer_of_getElem? hv) (mem_layer_of_getElem? hy))

theorem setIfInBounds_layer_self (a : Arrangement) (li : Nat) :
    a.layers.setIfInBounds li (a.layer li) = a.layers := by
  by_cases hli : li < a.layers.size
  · simp [layer, Array.getD_eq_getD_getElem?, hli, Array.setIfInBounds, Array.set_getElem_self]
  · simp [Array.setIfInBounds, hli]

theorem swapIfInBounds_swapIfInBounds {L : Array Nat} (hi : i + 1 < L.size) :
    (L.swapIfInBounds i (i + 1)).swapIfInBounds i (i + 1) = L := by
  simp [Array.swapIfInBounds, hi, Nat.lt_of_succ_lt hi, Array.swap_swap]

/-- Swapping the same two neighbours again restores the layer and the positions exactly: this
is how a trial swap that does not pay is undone. -/
theorem swapAt_swapAt (hc : a.Consistent) (hi : i + 1 < (a.layer li).size) :
    (a.swapAt li i).swapAt li i = a := by
  obtain ⟨x, y, hx, hy⟩ := exists_swap_pair hi
  have hx' : ((a.swapAt li i).layer li)[i]? = some y := by
    rw [layer_swapAt_self, getElem?_swapIfInBounds hx hy]; simp
  have hy' : ((a.swapAt li i).layer li)[i + 1]? = some x := by
    rw [layer_swapAt_self, getElem?_swapIfInBounds hx hy]; simp
  have hlayers : ((a.swapAt li i).swapAt li i).layers = a.layers := by
    change ((a.layers.setIfInBounds li _).setIfInBounds li
      (((a.swapAt li i).layer li).swapIfInBounds i (i + 1))) = _
    rw [Array.setIfInBounds_setIfInBounds, layer_swapAt_self, swapIfInBounds_swapIfInBounds hi,
      setIfInBounds_layer_self]
  -- the second swap writes each of the two nodes back at its old index
  have hpos : ((a.swapAt li i).swapAt li i).pos = a.pos := by
    have hpx := hc.pos_eq li i x hx
    have hpy := hc.pos_eq li (i + 1) y hy
    have hxy := hc.ne_of_adjacent hx hy
    rw [pos_swapAt hx' hy', pos_swapAt hx hy]
    apply Array.ext_getElem?
    intro w
    simp only [Array.getElem?_setIfInBounds, Array.size_setIfInBounds]
    by_cases hwy : w = y
    · subst hwy
      simp [hpy.1, ← hpy.2, Array.getD_eq_getD_getElem?]
    · by_cases hwx : w = x
      · subst hwx
        simp [hpx.1, Ne.symm hxy, ← hpx.2, Array.getD_eq_getD_getElem?]
      · simp [Ne.symm hwx, Ne.symm hwy]
  exact ext hlayers hpos

/-! ### Layers that differ in one layer only -/

/-- `b` holds the layers of `a`, with layer `li` perhaps in another order, and positions for
as many nodes. -/
structure Reorders (li : Nat) (b a : Arrangement) : Prop where
  size : b.layers.size = a.layers.size
  pos_size : b.pos.size = a.pos.size
  layer_eq : ∀ l, l ≠ li → b.layer l = a.layer l
  perm : (b.layer li).toList.Perm (a.layer li).toList

namespace Reorders

variable {b c : Arrangement}

theorem refl (a : Arrangement) (li : Nat) : a.Reorders li a :=
  ⟨rfl, rfl, fun _ _ => rfl, List.Perm.refl _⟩

theorem trans (h₁ : c.Reorders li b) (h₂ : b.Reorders li a) : c.Reorders li a :=
  ⟨h₁.size.trans h₂.size, h₁.pos_size.trans h₂.pos_size,
    fun l hl => (h₁.layer_eq l hl).trans (h₂.layer_eq l hl), h₁.perm.trans h₂.perm⟩

theorem sameLayers (h : b.Reorders li a) : SameLayers b.layers a.layers where
  size := h.size
  perm l := by
    by_cases hl : l = li
    · subst hl; exact h.perm
    · exact List.Perm.of_eq (congrArg Array.toList (h.layer_eq l hl))

theorem size_layer (h : b.Reorders li a) : (b.layer li).size = (a.layer li).size := by
  simpa using h.perm.length_eq

end Reorders

theorem swapAt_reorders (a : Arrangement) (li i : Nat) : (a.swapAt li i).Reorders li a where
  size := (a.swapAt_sameLayers li i).size
  pos_size := size_pos_swapAt a li i
  layer_eq _ hl := layer_swapAt_of_ne a li i hl
  perm := (a.swapAt_sameLayers li i).perm li

/-- Two consistent arrangements with the same layer `l` give its nodes the same positions. -/
theorem Consistent.getD_pos_eq {b : Arrangement} (ha : a.Consistent) (hb : b.Consistent) {l w : Nat}
    (hl : b.layer l = a.layer l) (hw : w ∈ (a.layer l).toList) : b.pos.getD w 0 = a.pos.getD w 0 := by
  obtain ⟨k, hk⟩ := List.getElem?_of_mem hw
  rw [(hb.pos_eq l k w (by simpa [hl] using hk)).2, (ha.pos_eq l k w (by simpa using hk)).2]

end Arrangement

/-! ### Crossings next to a layer -/

/-- Every neighbour below a node of layer `l` stands in layer `l + 1`. -/
def Adjacency.StepsDown (adj : Adjacency) (layers : Array (Array Nat)) : Prop :=
  ∀ l, ∀ v ∈ (layers.getD l #[]).toList, ∀ t ∈ adj.below v, t ∈ (layers.getD (l + 1) #[]).toList

theorem Adjacency.stepsDown_iff (adj : Adjacency) (layers : Array (Array Nat)) :
    adj.StepsDown layers ↔ ∀ l < layers.size, ∀ v ∈ (layers.getD l #[]).toList,
      ∀ t ∈ adj.below v, t ∈ (layers.getD (l + 1) #[]).toList := by
  refine ⟨fun h l _ => h l, fun h l v hv => ?_⟩
  by_cases hl : l < layers.size
  · exact h l hl v hv
  · simp [Array.getD_eq_getD_getElem?, hl] at hv

instance (adj : Adjacency) (layers : Array (Array Nat)) : Decidable (adj.StepsDown layers) :=
  decidable_of_iff _ (adj.stepsDown_iff layers).symm

theorem Adjacency.StepsDown.of_sameLayers {adj : Adjacency} {A B : Array (Array Nat)}
    (h : adj.StepsDown B) (hs : SameLayers A B) : adj.StepsDown A :=
  fun l v hv t ht => (hs.mem_iff (l + 1)).2 (h l v ((hs.mem_iff l).1 hv) t ht)

/-- Crossings between a layer and the next read only the positions of the layer's nodes and of
their neighbours below. -/
theorem crossingsBetween_congr {upper : Array Nat} {adj : Adjacency} {p q : Array Nat}
    (h : ∀ v ∈ upper.toList, p.getD v 0 = q.getD v 0 ∧ ∀ t ∈ adj.below v, p.getD t 0 = q.getD t 0) :
    crossingsBetween upper adj p = crossingsBetween upper adj q := by
  unfold crossingsBetween
  rw [List.flatMap_congr fun v hv => List.map_congr_left fun t ht => by
    rw [(h v hv).1, (h v hv).2 t ht]]

theorem sum_map_take {β : Type} (L : List β) (f : β → Nat) (d : β) :
    ∀ m, m ≤ L.length → ((L.take m).map f).sum = ∑ l ∈ Finset.range m, f (L.getD l d)
  | 0, _ => by simp
  | m + 1, hm => by
    rw [List.take_add_one, List.map_append, List.sum_append, sum_map_take L f d m (by omega),
      Finset.sum_range_succ, List.getElem?_eq_getElem (by omega), List.getD_eq_getElem?_getD,
      List.getElem?_eq_getElem (by omega)]
    simp

/-- The crossings of a layering sum the crossings between each layer and the next. -/
theorem totalCrossings_eq_sum (adj : Adjacency) (A : Array (Array Nat)) (n : Nat) :
    totalCrossings adj A n =
      ∑ l ∈ Finset.range (A.size - 1), crossingsBetween (A.getD l #[]) adj (positionsOf A n) := by
  unfold totalCrossings
  rw [← List.sum_eq_foldl_nat, sum_map_take _ _ #[] _ (by simp)]
  refine Finset.sum_congr rfl fun l _ => ?_
  simp [List.getD_eq_getElem?_getD, Array.getD_eq_getD_getElem?]

namespace Arrangement

variable {a : Arrangement} {adj : Adjacency}

/-- Consistent positions are the positions recorded afresh from the layers. -/
theorem Consistent.getD_positionsOf (hc : a.Consistent) {l w : Nat}
    (hw : w ∈ (a.layer l).toList) : (positionsOf a.layers a.pos.size).getD w 0 = a.pos.getD w 0 := by
  obtain ⟨k, hk⟩ := List.getElem?_of_mem hw
  have hk' : (a.layer l)[k]? = some w := by simpa using hk
  rw [(hc.pos_eq l k w hk').2]
  exact positionsOf_getD hc.nodup (getElem?_layers (lt_size_of_mem_layer hw)) hk
    (hc.pos_eq l k w hk').1

/-- Over consistent positions, the crossings of the layering sum the crossings below each
layer read off the arrangement's own positions. -/
theorem Consistent.totalCrossings_eq (hc : a.Consistent) (hadj : adj.StepsDown a.layers) :
    totalCrossings adj a.layers a.pos.size =
      ∑ l ∈ Finset.range (a.layers.size - 1), crossingsBetween (a.layer l) adj a.pos := by
  rw [totalCrossings_eq_sum]
  refine Finset.sum_congr rfl fun l _ => crossingsBetween_congr fun v hv => ?_
  exact ⟨hc.getD_positionsOf hv, fun t ht => hc.getD_positionsOf (hadj l v hv t ht)⟩

/-- A reordering of layer `li` leaves the crossings below every layer but `li - 1` and `li`. -/
theorem Reorders.crossingsBetween_eq {b : Arrangement} (ha : a.Consistent) (hb : b.Consistent)
    (hadj : adj.StepsDown a.layers) (h : b.Reorders li a) {l : Nat} (hl : l ≠ li)
    (hl' : l + 1 ≠ li) :
    crossingsBetween (b.layer l) adj b.pos = crossingsBetween (a.layer l) adj a.pos := by
  rw [h.layer_eq l hl]
  refine crossingsBetween_congr fun v hv => ⟨ha.getD_pos_eq hb (h.layer_eq l hl) hv, fun t ht => ?_⟩
  exact ha.getD_pos_eq hb (h.layer_eq (l + 1) hl') (hadj l v hv t ht)

end Arrangement

/-- Two sequences that agree away from `li - 1` and `li`: each one's sum over the first `m`
places, with the other's terms at those two places added, is the same. -/
theorem sum_range_add_near {f g : Nat → Nat} {li : Nat}
    (h : ∀ l, l ≠ li → l + 1 ≠ li → f l = g l) :
    ∀ m, ∑ l ∈ Finset.range m, f l +
        ((if 0 < li ∧ li ≤ m then g (li - 1) else 0) + (if li < m then g li else 0)) =
      ∑ l ∈ Finset.range m, g l +
        ((if 0 < li ∧ li ≤ m then f (li - 1) else 0) + (if li < m then f li else 0))
  | 0 => by
    have h0 : ¬ (0 < li ∧ li ≤ 0) := by omega
    simp only [Finset.range_zero, Finset.sum_empty, if_neg h0, Nat.not_lt_zero, if_false]
  | m + 1 => by
    have ih := sum_range_add_near h m
    rw [Finset.sum_range_succ, Finset.sum_range_succ]
    by_cases hm : m = li ∨ m + 1 = li
    · -- the new place is one of the two: both sides gain `f m + g m`
      rcases hm with rfl | rfl
      · split_ifs at ih ⊢ <;> omega
      · rw [Nat.add_sub_cancel] at ih ⊢
        split_ifs at ih ⊢ <;> omega
    · -- the new place is neither: both sides gain the same term
      have hfg := h m (fun e => hm (Or.inl e)) (fun e => hm (Or.inr e))
      split_ifs at ih ⊢ <;> omega

namespace Arrangement

variable {a : Arrangement} {adj : Adjacency} {li : Nat}

/-- Reordering layer `li` changes no crossings but those on its two sides: the total and the
local crossings change by the same amount. -/
theorem totalCrossings_add_local {b : Arrangement} (ha : a.Consistent) (hb : b.Consistent)
    (hadj : adj.StepsDown a.layers) (h : b.Reorders li a) (hli : li < a.layers.size) :
    totalCrossings adj b.layers a.pos.size + a.localCrossings adj li =
      totalCrossings adj a.layers a.pos.size + b.localCrossings adj li := by
  have hadj' := hadj.of_sameLayers h.sameLayers
  rw [← h.pos_size, hb.totalCrossings_eq hadj', h.pos_size, ha.totalCrossings_eq hadj, h.size]
  unfold localCrossings
  rw [h.size]
  have key := sum_range_add_near (fun l hl hl' => h.crossingsBetween_eq ha hb hadj hl hl')
    (a.layers.size - 1)
  have e1 : (0 < li ∧ li ≤ a.layers.size - 1) ↔ li > 0 := by omega
  have e2 : li < a.layers.size - 1 ↔ li + 1 < a.layers.size := by omega
  simpa only [e1, e2] using key

end Arrangement

/-! ### Runs of kept swaps -/

/-- Kept swaps in layer `li`, each of two neighbours of the layer and each lowering the
crossings on the two sides of the layer: `SwapChain adj li a b s` says that `s` of them lead
from `a` to `b`. -/
inductive SwapChain (adj : Adjacency) (li : Nat) (a : Arrangement) : Arrangement → Nat → Prop
  | refl : SwapChain adj li a a 0
  | step {b : Arrangement} {s : Nat} (i : Nat) : SwapChain adj li a b s →
      i + 1 < (b.layer li).size →
      (b.swapAt li i).localCrossings adj li < b.localCrossings adj li →
      SwapChain adj li a (b.swapAt li i) (s + 1)

namespace SwapChain

variable {adj : Adjacency} {li s : Nat} {a b : Arrangement}

theorem reorders (h : SwapChain adj li a b s) : b.Reorders li a := by
  induction h with
  | refl => exact Arrangement.Reorders.refl a li
  | step i _ _ _ ih => exact (Arrangement.swapAt_reorders _ li i).trans ih

theorem consistent (ha : a.Consistent) (h : SwapChain adj li a b s) : b.Consistent := by
  induction h with
  | refl => exact ha
  | step i _ hi _ ih => exact ih.swapAt hi

/-- Each kept swap lowers the total crossings by at least one. -/
theorem total_add_le (ha : a.Consistent) (hadj : adj.StepsDown a.layers)
    (h : SwapChain adj li a b s) :
    totalCrossings adj b.layers a.pos.size + s ≤ totalCrossings adj a.layers a.pos.size := by
  induction h with
  | refl => simp
  | @step b s i hchain hi hlt ih =>
    have hb := hchain.consistent ha
    have hr := hchain.reorders
    -- the swap reorders layer `li` of `b`, so the total moves with the local crossings
    have key := Arrangement.totalCrossings_add_local hb (hb.swapAt hi)
      (hadj.of_sameLayers hr.sameLayers) (Arrangement.swapAt_reorders b li i)
      (Arrangement.lt_size_of_lt_size_layer hi)
    rw [hr.pos_size] at key
    omega

end SwapChain

/-- What a transposition in progress keeps: its kept swaps lead from the start `a` to the
present arrangement, and its count is the present local crossings. -/
structure Transposing.Tracks (adj : Adjacency) (li : Nat) (a : Arrangement) (t : Transposing) :
    Prop where
  chain : SwapChain adj li a t.arrangement t.swaps
  current : t.current = t.arrangement.localCrossings adj li

namespace Transposing

variable {adj : Adjacency} {li : Nat} {a : Arrangement}

theorem sweep_tracks : ∀ (slots : List Nat) (t : Transposing),
    (∀ i ∈ slots, i + 1 < (a.layer li).size) → t.Tracks adj li a →
      (sweep adj li slots t).Tracks adj li a
  | [], _, _, h => h
  | i :: rest, t, hs, h => by
    have hrest : ∀ j ∈ rest, j + 1 < (a.layer li).size := fun j hj => hs j (List.mem_cons_of_mem i hj)
    rw [sweep]
    split
    · exact ⟨h.chain, h.current⟩
    · dsimp only
      -- a kept swap extends the chain; a rejected one leaves the state as it was
      split
      · rename_i hlt
        have hi : i + 1 < (t.arrangement.layer li).size := by
          rw [h.chain.reorders.size_layer]; exact hs i List.mem_cons_self
        exact sweep_tracks rest _ hrest ⟨h.chain.step i hi (h.current ▸ hlt), rfl⟩
      · exact sweep_tracks rest t hrest h

theorem rounds_tracks (slots : List Nat) (hs : ∀ i ∈ slots, i + 1 < (a.layer li).size) :
    ∀ (k : Nat) (t : Transposing), t.Tracks adj li a → (rounds adj li slots k t).Tracks adj li a
  | 0, _, h => h
  | k + 1, t, h => by
    rw [rounds]
    have hsweep := sweep_tracks slots { t with improved := false } hs ⟨h.chain, h.current⟩
    split
    · exact hsweep
    · exact rounds_tracks slots hs k _ hsweep

end Transposing

/-- A transposition reaches its result by as many kept swaps as it reports. -/
theorem transpose_swapChain (adj : Adjacency) (a : Arrangement) (li rounds : Nat) :
    SwapChain adj li a (transpose adj a li rounds).1 (transpose adj a li rounds).2 := by
  unfold transpose
  dsimp only
  split
  · exact SwapChain.refl
  · refine (Transposing.rounds_tracks _ (fun i hi => ?_) rounds _ ⟨SwapChain.refl, rfl⟩).chain
    rw [List.mem_range] at hi
    omega

/-! ### Where crossing reduction starts -/

namespace Arrangement

theorem flatten_ofLayers (layers : List (List Nat)) (n : Nat) :
    ((ofLayers layers n).layers.toList.map Array.toList).flatten = layers.flatten := by
  simp [ofLayers, List.map_map, Function.comp_def]

/-- The arrangement crossing reduction starts from is consistent when no node stands twice in
the layering and every node has an entry. -/
theorem consistent_ofLayers {layers : List (List Nat)} {n : Nat} (hnd : layers.flatten.Nodup)
    (hlt : ∀ L ∈ layers, ∀ v ∈ L, v < n) : (ofLayers layers n).Consistent where
  nodup := (flatten_ofLayers layers n).symm ▸ hnd
  pos_eq l k v hv := by
    cases hL : layers[l]? with
    | none => simp [ofLayers, layer, Array.getD_eq_getD_getElem?, hL] at hv
    | some L =>
      have hk : L[k]? = some v := by
        simpa [ofLayers, layer, Array.getD_eq_getD_getElem?, hL] using hv
      have hvn : v < n := hlt L (List.mem_of_getElem? hL) v (List.mem_of_getElem? hk)
      have hA : (ofLayers layers n).layers[l]? = some L.toArray := by simp [ofLayers, hL]
      refine ⟨(size_positionsOf _ n).symm ▸ hvn, ?_⟩
      exact positionsOf_getD ((flatten_ofLayers layers n).symm ▸ hnd) hA (by simpa using hk) hvn

variable {a : Arrangement} {li : Nat} {L : Array Nat}

theorem layer_withLayer_self (h : li < a.layers.size) : (a.withLayer li L).layer li = L := by
  simp [withLayer, layer, Array.getD_eq_getD_getElem?, h]

theorem layer_withLayer_of_ne {l : Nat} (hl : l ≠ li) : (a.withLayer li L).layer l = a.layer l := by
  simp [withLayer, layer, Array.getD_eq_getD_getElem?, Ne.symm hl]

/-- Replacing a layer by a reordering of it and recording its positions keeps the positions
consistent. -/
theorem Consistent.withLayer (hc : a.Consistent) (hL : L.toList.Perm (a.layer li).toList) :
    (a.withLayer li L).Consistent where
  nodup := (SameLayers.flatten_perm (a.withLayer_sameLayers li hL)).nodup_iff.2 hc.nodup
  pos_eq l k v hv := by
    rw [show (a.withLayer li L).pos = recordPositions L a.pos from rfl, size_recordPositions]
    by_cases hl : l = li
    · -- a node of the new layer is recorded at its new index
      subst hl
      have hli : l < a.layers.size := by
        simpa [withLayer] using lt_size_of_lt_size_layer (Array.getElem?_eq_some_iff.1 hv).1
      rw [layer_withLayer_self hli] at hv
      have hmem : v ∈ (a.layer l).toList := hL.subset (Array.mem_toList_iff.2 (Array.mem_of_getElem? hv))
      obtain ⟨k', hk'⟩ := List.getElem?_of_mem hmem
      have hvlt := (hc.pos_eq l k' v (by simpa using hk')).1
      exact ⟨hvlt, recordPositions_getD a.pos (hL.nodup_iff.2 (hc.layer_nodup l))
        (by simpa using hv) hvlt⟩
    · -- a node of another layer is not in the new one, so keeps its entry
      rw [layer_withLayer_of_ne hl] at hv
      have hv' := hc.pos_eq l k v hv
      have hvL : v ∉ L.toList := fun hvL =>
        hl (hc.eq_of_mem (mem_layer_of_getElem? hv) (hL.subset hvL))
      exact ⟨hv'.1, (recordPositions_getD_of_not_mem a.pos hvL).trans hv'.2⟩

end Arrangement

/-- A step of a pass keeps the positions consistent: it reorders a layer by medians and
transposes it. -/
theorem Passing.step_consistent (adj : Adjacency) (rounds : Nat) (nb : Nat → List Nat)
    (st : Passing) (li : Nat) (h : st.current.Consistent) :
    (Passing.step adj rounds nb st li).current.Consistent :=
  (transpose_swapChain adj _ li rounds).consistent (h.withLayer (reorderByMedian_perm _ _ _))

/-- Crossing reduction keeps the positions of the arrangement in hand consistent with its
layers, through every pass. -/
theorem Passing.run_consistent (adj : Adjacency) (rounds n : Nat) :
    ∀ (remaining pass : Nat) (st : Passing), st.current.Consistent →
      (Passing.run adj rounds n remaining pass st).current.Consistent :=
  Passing.run_current adj rounds n Arrangement.Consistent (Passing.step_consistent adj rounds)

theorem mem_getD_modify_append {A : Array (List Nat)} {u v w x : Nat}
    (hx : x ∈ (A.modify u (· ++ [w])).getD v []) : x ∈ A.getD v [] ∨ (u = v ∧ x = w) := by
  simp only [Array.getD_eq_getD_getElem?, Array.getElem?_modify] at hx ⊢
  by_cases huv : u = v
  · subst huv
    cases hget : A[u]? with
    | none => simp [hget] at hx
    | some l =>
      simp only [hget, if_true, Option.map_some, Option.getD_some, List.mem_append,
        List.mem_singleton] at hx
      rcases hx with hx | rfl
      · exact Or.inl hx
      · exact Or.inr ⟨rfl, rfl⟩
  · simp only [huv, if_false] at hx
    exact Or.inl hx

/-- The adjacency records a neighbour below a node only one layer further down, as `layerOf`
reads layers. -/
theorem Adjacency.build_below (g : LayoutGraph) (layerOf : Array Nat) {v t : Nat}
    (ht : t ∈ (Adjacency.build g layerOf).below v) : layerOf.getD t 0 = layerOf.getD v 0 + 1 := by
  unfold Adjacency.build at ht
  refine List.foldlRecOn (motive := fun a : Adjacency =>
      ∀ v t, t ∈ a.down.getD v [] → layerOf.getD t 0 = layerOf.getD v 0 + 1)
    g.edges _ ?_ ?_ v t ht
  · intro v t ht
    simp only [Array.getD_eq_getD_getElem?, Array.getElem?_replicate] at ht
    split at ht <;> simp at ht
  · rintro a ih ⟨e, s, t⟩ _ v' t' ht'
    dsimp only at ht'
    -- an edge between adjacent layers is recorded below its upper end
    split at ht'
    · rename_i hst
      rcases mem_getD_modify_append ht' with ht' | ⟨rfl, rfl⟩
      · exact ih v' t' ht'
      · exact (beq_iff_eq.1 hst).symm
    · split at ht'
      · rename_i _ hts
        rcases mem_getD_modify_append ht' with ht' | ⟨rfl, rfl⟩
        · exact ih v' t' ht'
        · exact (beq_iff_eq.1 hts).symm
      · exact ih v' t' ht'

/-- For a layering that holds every node once, the adjacency built from its layer index steps
down its layers. -/
theorem Adjacency.build_stepsDown {g : LayoutGraph} {layers : List (List Nat)}
    (hperm : layers.flatten.Perm (List.range g.nodeCount)) :
    (Adjacency.build g (layerIndex layers g.nodeCount)).StepsDown
      (Arrangement.ofLayers layers g.nodeCount).layers := by
  -- a layer of the arrangement is the list of the layering at the same place
  have hlayer : ∀ {m w}, w ∈ ((Arrangement.ofLayers layers g.nodeCount).layers.getD m #[]).toList ↔
      ∃ L, layers[m]? = some L ∧ w ∈ L := fun {m w} => by
    cases hm : layers[m]? <;> simp [Arrangement.ofLayers, Array.getD_eq_getD_getElem?, hm]
  intro l v hv t ht
  obtain ⟨L, hL, hvL⟩ := hlayer.1 hv
  have hup := Adjacency.build_below g _ ht
  rw [LayoutGraph.layerIndex_eq_of_mem hperm hL hvL] at hup
  -- a node past the last has index zero, so `t` is a node, in the layer its index names
  have ht : t < g.nodeCount := by
    by_contra hge
    have hzero : (layerIndex layers g.nodeCount).getD t 0 = 0 := by
      simp [Array.getD_eq_getD_getElem?, size_layerIndex, Nat.le_of_not_lt hge]
    omega
  obtain ⟨L', hL', htL'⟩ := LayoutGraph.exists_mem_layerIndex hperm ht
  rw [hup] at hL'
  exact hlayer.2 ⟨L', hL', htL'⟩

/-- Crossing reduction starts, for a layering that holds every node once, from consistent
positions and an adjacency that steps down its layers. -/
theorem ofLayers_meets_transpose_conditions {g : LayoutGraph} {layers : List (List Nat)}
    (hperm : layers.flatten.Perm (List.range g.nodeCount)) :
    (Arrangement.ofLayers layers g.nodeCount).Consistent ∧
      (Adjacency.build g (layerIndex layers g.nodeCount)).StepsDown
        (Arrangement.ofLayers layers g.nodeCount).layers := by
  refine ⟨Arrangement.consistent_ofLayers (hperm.nodup_iff.2 List.nodup_range) fun L hL v hv => ?_,
    Adjacency.build_stepsDown hperm⟩
  exact List.mem_range.1 (hperm.subset (List.mem_flatten.2 ⟨L, hL, hv⟩))

/-! ### Transposing a layer -/

/-- What transposing layer `li` of `a` into `b`, keeping `s` swaps, guarantees. -/
structure Transposed (adj : Adjacency) (li : Nat) (a b : Arrangement) (s : Nat) : Prop where
  /-- only layer `li` is reordered -/
  reorders : b.Reorders li a
  /-- the positions stay consistent with the layers -/
  consistent : b.Consistent
  /-- `s` kept swaps of neighbours in layer `li` lead from `a` to `b`, each lowering the
  crossings on the two sides of the layer -/
  swaps : SwapChain adj li a b s
  /-- wherever the kept swaps stand, swapping the same two neighbours again undoes a trial
  swap exactly, layer and positions -/
  undo : ∀ c s', SwapChain adj li a c s' → ∀ i, i + 1 < (c.layer li).size →
    (c.swapAt li i).swapAt li i = c
  /-- a reordering of layer `li` changes only the crossings on its two sides -/
  only_local : ∀ c : Arrangement, c.Consistent → c.Reorders li a → li < a.layers.size →
    totalCrossings adj c.layers a.pos.size + a.localCrossings adj li =
      totalCrossings adj a.layers a.pos.size + c.localCrossings adj li
  /-- so the total crossings fall by at least one for each kept swap -/
  total_le : totalCrossings adj b.layers a.pos.size + s ≤ totalCrossings adj a.layers a.pos.size

/-- Transposing a layer of an arrangement with consistent positions, over an adjacency whose
edges go down one layer, reorders only that layer, keeps the positions consistent, and lowers
the total crossings by at least the number of swaps it keeps. -/
theorem transpose_lowers_crossings (adj : Adjacency) (a : Arrangement) (li rounds : Nat)
    (hc : a.Consistent) (hadj : adj.StepsDown a.layers) :
    Transposed adj li a (transpose adj a li rounds).1 (transpose adj a li rounds).2 :=
  have hchain := transpose_swapChain adj a li rounds
  { reorders := hchain.reorders
    consistent := hchain.consistent hc
    swaps := hchain
    undo := fun _ _ hc' _ hi => Arrangement.swapAt_swapAt (hc'.consistent hc) hi
    only_local := fun _ hcc hr hli => Arrangement.totalCrossings_add_local hc hcc hadj hr hli
    total_le := hchain.total_add_le hc hadj }

/-- Two nodes over two, wired across. -/
def crossedWires : Adjacency where
  up := #[[], [], [1], [0]]
  down := #[[3], [2], [], []]

theorem crossedWires_transposed :
    (Arrangement.ofLayers [[0, 1], [2, 3]] 4).Consistent ∧
      crossedWires.StepsDown (Arrangement.ofLayers [[0, 1], [2, 3]] 4).layers ∧
      Transposed crossedWires 0 (Arrangement.ofLayers [[0, 1], [2, 3]] 4)
        (transpose crossedWires (Arrangement.ofLayers [[0, 1], [2, 3]] 4) 0 1).1
        (transpose crossedWires (Arrangement.ofLayers [[0, 1], [2, 3]] 4) 0 1).2 :=
  have hc := Arrangement.consistent_ofLayers (by decide) (by decide)
  have hadj : crossedWires.StepsDown (Arrangement.ofLayers [[0, 1], [2, 3]] 4).layers := by decide
  ⟨hc, hadj, transpose_lowers_crossings crossedWires _ 0 1 hc hadj⟩

end FlowLayout
