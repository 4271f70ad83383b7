import Mathlib.Algebra.BigOperators.Intervals
import FlowLayout.Layout.Ordering
/-!
# Inversions and crossings are counted exactly

`sortCount` sorts a list by merging halves and counts its inversions on the way;
`crossingsBetween` counts the crossings between a layer and the next as inversions. Both counts
are exact (`crossings_counted_exactly`):

* `sortCount v` returns `v` sorted ascending, and the number of pairs of positions `i < j` with
  `v[i] > v[j]` (`sortCount_spec`). A merge counts, for each item of the right half taken first,
  the items of the left half still waiting; as the halves are sorted, these are exactly the left
  items above it (`mergeCount_spec`). The inversions of a list are those within each half and
  those across them (`card_relatedPairs_append`), and the count across does not see the order
  within either half (`crossPairs_perm_left`, `crossPairs_perm_right`).
* `crossingsBetween upper adj pos` is the number of pairs of edges from `upper` down to the next
  layer, parallel edges counted apart, whose upper ends and lower ends stand in opposite orders.
  Sorted by upper position and then by lower position, the edges show an inversion of their
  lower positions exactly at the pairs that cross (`card_relatedPairs_congr`), and crossing is
  symmetric, so sorting does not change the count (`card_relatedPairs_perm`).

Counting goes through `relatedPairs R xs`, the pairs of positions `i < j` of `xs` whose entries
are related by `R`; putting an item in front adds the later items it is related to
(`card_relatedPairs_cons`).
-/

namespace FlowLayout

/-! ### Pairs of positions -/

section Pairs

variable {α : Type} (R : α → α → Prop) [DecidableRel R]

/-- The pairs of positions `i < j` of `xs` whose entries are related by `R`. -/
def relatedPairs [Inhabited α] (xs : List α) : Finset (Nat × Nat) :=
  (Finset.range xs.length ×ˢ Finset.range xs.length).filter fun p =>
    p.1 < p.2 ∧ R (xs.getD p.1 default) (xs.getD p.2 default)

/-- The pairs of an item of `l` and an item of `r` related by `R`, counted. -/
def crossPairs : List α → List α → Nat
  | [], _ => 0
  | a :: l, r => r.countP (fun b => decide (R a b)) + crossPairs l r

section Count

variable [Inhabited α]

theorem sum_range_getD_indicator (x : α) : ∀ xs : List α,
    ∑ j ∈ Finset.range xs.length, (if R x (xs.getD j default) then 1 else 0) =
      xs.countP (fun y => decide (R x y))
  | [] => by simp
  | y :: ys => by
    rw [List.length_cons, Finset.sum_range_succ', List.countP_cons]
    simp only [List.getD_cons_succ, List.getD_cons_zero]
    rw [sum_range_getD_indicator x ys]
    split_ifs <;> simp_all

@[simp] theorem card_relatedPairs_nil : (relatedPairs R ([] : List α)).card = 0 := by
  simp [relatedPairs]

/-- An item put in front is related to the later items `R` relates it to. -/
theorem card_relatedPairs_cons (x : α) (xs : List α) :
    (relatedPairs R (x :: xs)).card =
      xs.countP (fun y => decide (R x y)) + (relatedPairs R xs).card := by
  unfold relatedPairs
  rw [Finset.card_filter, Finset.card_filter, Finset.sum_product, Finset.sum_product,
    List.length_cons, Finset.sum_range_succ']
  -- peel position `0` off both coordinates: a pair `(0, j + 1)` puts `x` first
  simp only [Finset.sum_range_succ', List.getD_cons_succ, List.getD_cons_zero,
    Nat.add_lt_add_iff_right, Nat.not_lt_zero, false_and, if_false, add_zero, Nat.zero_lt_succ,
    true_and, lt_self_iff_false]
  rw [sum_range_getD_indicator, add_comm]

/-- The pairs of a joined list: within the first part, across, and within the second. -/
theorem card_relatedPairs_append (l r : List α) :
    (relatedPairs R (l ++ r)).card =
      (relatedPairs R l).card + crossPairs R l r + (relatedPairs R r).card := by
  induction l with
  | nil => simp [crossPairs]
  | cons a l ih =>
    rw [List.cons_append, card_relatedPairs_cons, card_relatedPairs_cons, ih, crossPairs,
      List.countP_append]
    omega

/-- A symmetric relation has as many related pairs in any reordering of a list. -/
theorem card_relatedPairs_perm (hsymm : ∀ a b, R a b → R b a) {l l' : List α}
    (h : l.Perm l') : (relatedPairs R l).card = (relatedPairs R l').card := by
  induction h with
  | nil => rfl
  | cons x hperm ih => rw [card_relatedPairs_cons, card_relatedPairs_cons, ih, hperm.countP_eq]
  | swap x y l =>
    -- the two items in front count each other once, whichever stands first
    have hxy : decide (R y x) = decide (R x y) := decide_eq_decide.2 ⟨hsymm y x, hsymm x y⟩
    simp only [card_relatedPairs_cons, List.countP_cons, hxy]
    omega
  | trans _ _ ih₁ ih₂ => exact ih₁.trans ih₂

/-- Two relations that agree on every pair standing in the order of a list count the same
pairs in it. -/
theorem card_relatedPairs_congr {S : α → α → Prop} [DecidableRel S] {P : α → α → Prop}
    (hRS : ∀ a b, P a b → (R a b ↔ S a b)) :
    ∀ {l : List α}, l.Pairwise P → (relatedPairs R l).card = (relatedPairs S l).card
  | [], _ => by simp
  | x :: l, hl => by
    rw [List.pairwise_cons] at hl
    have hcount : l.countP (fun y => decide (R x y)) = l.countP (fun y => decide (S x y)) :=
      List.countP_congr fun y hy => by simpa using hRS x y (hl.1 y hy)
    rw [card_relatedPairs_cons, card_relatedPairs_cons, hcount,
      card_relatedPairs_congr hRS hl.2]

/-- Pairs of images are pairs of the relation read through the map. -/
theorem card_relatedPairs_map {β : Type} [Inhabited β] (f : β → α) :
    ∀ l : List β, (relatedPairs R (l.map f)).card =
      (relatedPairs (fun a b => R (f a) (f b)) l).card
  | [] => by simp
  | x :: l => by
    rw [List.map_cons, card_relatedPairs_cons, card_relatedPairs_cons, List.countP_map,
      card_relatedPairs_map f l]
    rfl

end Count

/-! ### Pairs across two lists -/

theorem crossPairs_nil_right : ∀ l : List α, crossPairs R l [] = 0
  | [] => rfl
  | _ :: l => by simp [crossPairs, crossPairs_nil_right l]

/-- An item put in front of the second list meets the items of the first related to it. -/
theorem crossPairs_cons_right (b : α) (r : List α) :
    ∀ l : List α, crossPairs R l (b :: r) = l.countP (fun a => decide (R a b)) + crossPairs R l r
  | [] => rfl
  | a :: l => by
    rw [crossPairs, crossPairs, crossPairs_cons_right b r l, List.countP_cons, List.countP_cons]
    omega

theorem crossPairs_perm_left {l l' : List α} (h : l.Perm l') (r : List α) :
    crossPairs R l r = crossPairs R l' r := by
  induction h with
  | nil => rfl
  | cons x _ ih => rw [crossPairs, crossPairs, ih]
  | swap x y l => simp only [crossPairs]; omega
  | trans _ _ ih₁ ih₂ => exact ih₁.trans ih₂

theorem crossPairs_perm_right (l : List α) {r r' : List α} (h : r.Perm r') :
    crossPairs R l r = crossPairs R l r' := by
  induction l with
  | nil => rfl
  | cons a l ih => rw [crossPairs, crossPairs, ih, h.countP_eq]

end Pairs

/-! ### Counting inversions by merging -/

/-- A merge of two sorted lists interleaves them, and adds to the count the pairs of a left
item above a right item. -/
theorem mergeCount_spec : ∀ (l r : List Nat) (count : Nat), l.Pairwise (· ≤ ·) →
    r.Pairwise (· ≤ ·) →
      mergeCount l r count = (l.merge r fun a b => decide (a ≤ b), count + crossPairs (· > ·) l r)
  | [], r, count, _, _ => by simp [mergeCount, crossPairs]
  | l :: ls, [], count, _, _ => by simp [mergeCount, crossPairs_nil_right]
  | l :: ls, r :: rs, count, hl, hr => by
    have hls := hl.of_cons
    have hrs := hr.of_cons
    rw [mergeCount]
    by_cases hlr : l ≤ r
    · -- `l` goes first; it is at most every right item, so it stands above none
      rw [if_pos hlr, mergeCount_spec ls (r :: rs) count hls hr, List.cons_merge_cons,
        if_pos (decide_eq_true hlr)]
      have habove : (r :: rs).countP (fun b => decide (l > b)) = 0 := by
        rw [List.countP_eq_zero]
        intro b hb
        rcases List.mem_cons.1 hb with rfl | hb
        · simpa using hlr
        · simpa using hlr.trans (List.rel_of_pairwise_cons hr hb)
      simp only [crossPairs, habove, zero_add]
    · -- `r` goes first; every waiting left item is at least `l`, so stands above it
      rw [if_neg hlr, mergeCount_spec (l :: ls) rs _ hl hrs, List.cons_merge_cons,
        if_neg (by simpa using hlr)]
      have habove : (l :: ls).countP (fun a => decide (a > r)) = ls.length + 1 := by
        rw [List.countP_eq_length.2, List.length_cons]
        intro a ha
        rcases List.mem_cons.1 ha with rfl | ha
        · simpa using Nat.lt_of_not_le hlr
        · simpa using Nat.lt_of_lt_of_le (Nat.lt_of_not_le hlr) (List.rel_of_pairwise_cons hl ha)
      simp only [crossPairs_cons_right, habove]
      congr 1
      omega

/-- A list of at most one item has no pair of positions. -/
theorem card_relatedPairs_of_length_le_one {α : Type} [Inhabited α] (R : α → α → Prop)
    [DecidableRel R] {xs : List α} (h : xs.length ≤ 1) : (relatedPairs R xs).card = 0 := by
  match xs, h with
  | [], _ => simp
  | [x], _ => simp [card_relatedPairs_cons]

/-- `sortCount` sorts its list and counts the pairs of positions `i < j` with `xs[i] > xs[j]`. -/
theorem sortCount_spec (xs : List Nat) :
    (sortCount xs).1.Pairwise (· ≤ ·) ∧ (sortCount xs).1.Perm xs ∧
      (sortCount xs).2 = (relatedPairs (· > ·) xs).card := by
  induction xs using sortCount.induct with
  | case1 xs hshort =>
    rw [sortCount, dif_pos hshort]
    refine ⟨?_, List.Perm.refl xs, (card_relatedPairs_of_length_le_one _ hshort).symm⟩
    match xs, hshort with
    | [], _ => exact List.Pairwise.nil
    | [_], _ => exact List.pairwise_singleton _ _
  | case2 xs hlong mid left a _ right b _ merged c _ ihl ihr =>
    obtain ⟨hsl, hpl, hcl⟩ := ihl
    obtain ⟨hsr, hpr, hcr⟩ := ihr
    rw [sortCount, dif_neg hlong]
    dsimp only
    rw [mergeCount_spec _ _ 0 hsl hsr]
    refine ⟨hsl.merge hsr, (List.merge_perm_append _).trans ?_, ?_⟩
    · exact (hpl.append hpr).trans (List.Perm.of_eq (List.take_append_drop mid xs))
    · -- the pairs across the halves do not see the order within them
      have hacross : crossPairs (· > ·) (sortCount (xs.take mid)).1 (sortCount (xs.drop mid)).1 =
          crossPairs (· > ·) (xs.take mid) (xs.drop mid) :=
        (crossPairs_perm_left _ hpl _).trans (crossPairs_perm_right _ _ hpr)
      show (sortCount (xs.take mid)).2 + (sortCount (xs.drop mid)).2 +
          (0 + crossPairs (· > ·) (sortCount (xs.take mid)).1 (sortCount (xs.drop mid)).1) = _
      rw [hcl, hcr, hacross, zero_add, add_right_comm, ← card_relatedPairs_append,
        List.take_append_drop]

/-! ### Crossings between adjacent layers -/

/-- The edges from the nodes of `upper` to their neighbours below, node by node in layer order;
parallel edges stand once each. -/
def downEdges (upper : Array Nat) (adj : Adjacency) : List (Nat × Nat) :=
  upper.toList.flatMap fun v => (adj.below v).map fun t => (v, t)

/-- Two edges cross when their upper ends and their lower ends stand in opposite orders. -/
def Crossed (pos : Array Nat) (e f : Nat × Nat) : Prop :=
  (pos.getD e.1 0 < pos.getD f.1 0 ∧ pos.getD f.2 0 < pos.getD e.2 0) ∨
    (pos.getD f.1 0 < pos.getD e.1 0 ∧ pos.getD e.2 0 < pos.getD f.2 0)

instance (pos : Array Nat) : DecidableRel (Crossed pos) := fun _ _ =>
  inferInstanceAs (Decidable (_ ∨ _))

/-- Edges with a common end never cross. -/
theorem not_crossed_of_common_end (pos : Array Nat) {e f : Nat × Nat} (h : e.1 = f.1 ∨ e.2 = f.2) :
    ¬ Crossed pos e f := by
  unfold Crossed
  rcases h with h | h <;> rw [h] <;> omega

theorem pairLe_trans (a b c : Nat × Nat) (hab : pairLe a b = true) (hbc : pairLe b c = true) :
    pairLe a c = true := by
  simp only [pairLe, Bool.or_eq_true, decide_eq_true_eq, Bool.and_eq_true, beq_iff_eq] at *
  omega

theorem pairLe_total (a b : Nat × Nat) : (pairLe a b || pairLe b a) = true := by
  simp only [pairLe, Bool.or_eq_true, decide_eq_true_eq, Bool.and_eq_true, beq_iff_eq]
  omega

/-- Two pairs of positions in opposite orders. -/
def Opposed (p q : Nat × Nat) : Prop :=
  (p.1 < q.1 ∧ q.2 < p.2) ∨ (q.1 < p.1 ∧ p.2 < q.2)

instance : DecidableRel Opposed := fun _ _ => inferInstanceAs (Decidable (_ ∨ _))

theorem Opposed.symm {p q : Nat × Nat} (h : Opposed p q) : Opposed q p := by
  unfold Opposed at *
  omega

/-- Of two pairs in lexicographic order, the second component falls exactly when they are
opposed. -/
theorem gt_iff_opposed {p q : Nat × Nat} (h : pairLe p q = true) : p.2 > q.2 ↔ Opposed p q := by
  simp only [pairLe, Bool.or_eq_true, decide_eq_true_eq, Bool.and_eq_true, beq_iff_eq] at h
  unfold Opposed
  omega

/-- `crossingsBetween` counts the pairs of edges down from `upper` that cross. -/
theorem crossingsBetween_eq (upper : Array Nat) (adj : Adjacency) (pos : Array Nat) :
    crossingsBetween upper adj pos = (relatedPairs (Crossed pos) (downEdges upper adj)).card := by
  -- the pairs of positions the count sorts are those of the edges
  have hpairs : (upper.toList.flatMap fun v =>
      (adj.below v).map fun t => (pos.getD v 0, pos.getD t 0)) =
      (downEdges upper adj).map fun e => (pos.getD e.1 0, pos.getD e.2 0) := by
    simp only [downEdges, List.map_flatMap, List.map_map]
    rfl
  have hsorted := List.pairwise_mergeSort pairLe_trans pairLe_total
    ((downEdges upper adj).map fun e => (pos.getD e.1 0, pos.getD e.2 0))
  -- sorted, the inversions are the opposed pairs, and being opposed does not see the order
  unfold crossingsBetween inversions
  dsimp only
  rw [hpairs, (sortCount_spec _).2.2, card_relatedPairs_map,
    card_relatedPairs_congr _ (fun _ _ h => gt_iff_opposed h) hsorted,
    card_relatedPairs_perm _ (fun _ _ h => h.symm) (List.mergeSort_perm _ _), card_relatedPairs_map]
  rfl

/-- Both counts are exact, for every list, every layer, every neighbour lists and every position
array. `sortCount v` returns `v` sorted ascending and the number of pairs of positions `i < j`
with `v[i] > v[j]`. `crossingsBetween` returns the number of pairs of edges down from the layer,
parallel edges counted apart, whose upper ends and lower ends stand in opposite orders; edges
with a common end never count. -/
theorem crossings_counted_exactly (v : List Nat) (upper : Array Nat) (adj : Adjacency)
    (pos : Array Nat) :
    (sortCount v).1.Pairwise (· ≤ ·) ∧ (sortCount v).1.Perm v ∧
      (sortCount v).2 = (relatedPairs (· > ·) v).card ∧
      crossingsBetween upper adj pos = (relatedPairs (Crossed pos) (downEdges upper adj)).card ∧
      ∀ e f : Nat × Nat, e.1 = f.1 ∨ e.2 = f.2 → ¬ Crossed pos e f :=
  ⟨(sortCount_spec v).1, (sortCount_spec v).2.1, (sortCount_spec v).2.2,
    crossingsBetween_eq upper adj pos, fun _ _ h => not_crossed_of_common_end pos h⟩

end FlowLayout
