import Mathlib.Data.List.Nodup
import FlowLayout.Layout.Ordering
import FlowLayout.Proofs.Layering
/-!
# Crossing reduction only reorders layers

`minimizeCrossings` moves nodes only within their layers. Each step either replaces one layer
by a reordering of it (the median sort, an adjacent swap) or keeps the arrangement, and the
result is one of the arrangements the passes went through. So the result has the same layers
as the start, up to the order within each (`SameLayers`), and every node keeps its layer.

Positions recorded for a layering in which no node appears twice are the nodes' indexes within
their layers (`positionsOf_getD`).
-/

namespace FlowLayout

/-- Two layerings with the same number of layers whose layers hold, one by one, the same
nodes. -/
structure SameLayers (A B : Array (Array Nat)) : Prop where
  size : A.size = B.size
  perm : ∀ i, (A.getD i #[]).toList.Perm (B.getD i #[]).toList

namespace SameLayers

theorem refl (A : Array (Array Nat)) : SameLayers A A := ⟨rfl, fun _ => List.Perm.refl _⟩

theorem trans {A B C : Array (Array Nat)} (h₁ : SameLayers A B) (h₂ : SameLayers B C) :
    SameLayers A C :=
  ⟨h₁.size.trans h₂.size, fun i => (h₁.perm i).trans (h₂.perm i)⟩

/-- Replacing one layer by a reordering of it. -/
theorem setIfInBounds {A : Array (Array Nat)} {li : Nat} {L : Array Nat}
    (h : L.toList.Perm (A.getD li #[]).toList) : SameLayers (A.setIfInBounds li L) A where
  size := Array.size_setIfInBounds
  perm i := by
    by_cases hi : li = i
    · subst hi
      by_cases hs : li < A.size
      · have hget : (A.setIfInBounds li L).getD li #[] = L := by
          simp [Array.getD_eq_getD_getElem?, hs]
        rw [hget]
        exact h
      · rw [Array.setIfInBounds, dif_neg hs]
    · have hget : (A.setIfInBounds li L).getD i #[] = A.getD i #[] := by
        simp [Array.getD_eq_getD_getElem?, hi]
      rw [hget]

end SameLayers

/-- Sorting a layer by medians only reorders it. -/
theorem reorderByMedian_perm (layer : Array Nat) (neighbours : Nat → List Nat)
    (pos : Array Nat) : (reorderByMedian layer neighbours pos).toList.Perm layer.toList := by
  unfold reorderByMedian
  dsimp only
  refine ((List.mergeSort_perm _ _).map _).trans ?_
  rw [List.map_map]
  conv => rhs; rw [← List.zipIdx_map_fst 0 layer.toList]
  exact List.Perm.of_eq (List.map_congr_left fun x _ => rfl)

theorem swapIfInBounds_perm (xs : Array Nat) (i j : Nat) :
    (xs.swapIfInBounds i j).toList.Perm xs.toList := by
  unfold Array.swapIfInBounds
  split
  · split
    · exact (Array.swap_perm _ _).toList
    · exact List.Perm.refl _
  · exact List.Perm.refl _

namespace Arrangement

theorem withLayer_sameLayers (a : Arrangement) (li : Nat) {L : Array Nat}
    (h : L.toList.Perm (a.layer li).toList) : SameLayers (a.withLayer li L).layers a.layers :=
  SameLayers.setIfInBounds h

theorem swapAt_sameLayers (a : Arrangement) (li i : Nat) :
    SameLayers (a.swapAt li i).layers a.layers :=
  SameLayers.setIfInBounds (swapIfInBounds_perm _ _ _)

end Arrangement

namespace SameLayers

variable {A B : Array (Array Nat)}

theorem mem_iff (h : SameLayers A B) (i : Nat) {v : Nat} :
    v ∈ (A.getD i #[]).toList ↔ v ∈ (B.getD i #[]).toList :=
  (h.perm i).mem_iff

/-- Lists of lists that agree, one by one, up to order, have flattenings that agree up to
order. -/
theorem flatten_perm_of_getD : ∀ (L M : List (List Nat)), L.length = M.length →
    (∀ i, (L.getD i []).Perm (M.getD i [])) → L.flatten.Perm M.flatten
  | [], [], _, _ => List.Perm.refl _
  | l :: L, m :: M, hlen, hperm =>
    (hperm 0).append (flatten_perm_of_getD L M (by simpa using hlen) fun i => hperm (i + 1))
  | [], _ :: _, hlen, _ => absurd hlen (by simp)
  | _ :: _, [], hlen, _ => absurd hlen (by simp)

theorem getD_map_toList (A : Array (Array Nat)) (i : Nat) :
    (A.toList.map Array.toList).getD i [] = (A.getD i #[]).toList := by
  simp only [List.getD_eq_getElem?_getD, List.getElem?_map, Array.getD_eq_getD_getElem?,
    Array.getElem?_toList]
  cases A[i]? <;> rfl

theorem flatten_perm (h : SameLayers A B) :
    (A.toList.map Array.toList).flatten.Perm (B.toList.map Array.toList).flatten :=
  flatten_perm_of_getD _ _ (by simpa using h.size) fun i => by
    rw [getD_map_toList, getD_map_toList]
    exact h.perm i

end SameLayers

/-! ### Every step keeps the layers -/

theorem Transposing.sweep_sameLayers (adj : Adjacency) (li : Nat) :
    ∀ (slots : List Nat) (t : Transposing),
      SameLayers (sweep adj li slots t).arrangement.layers t.arrangement.layers
  | [], t => SameLayers.refl _
  | i :: rest, t => by
    rw [sweep]
    split
    · exact SameLayers.refl _
    · dsimp only
      split
      · exact (sweep_sameLayers adj li rest _).trans (t.arrangement.swapAt_sameLayers li i)
      · exact sweep_sameLayers adj li rest t

theorem Transposing.rounds_sameLayers (adj : Adjacency) (li : Nat) (slots : List Nat) :
    ∀ (k : Nat) (t : Transposing),
      SameLayers (rounds adj li slots k t).arrangement.layers t.arrangement.layers
  | 0, t => SameLayers.refl _
  | k + 1, t => by
    rw [rounds]
    have hsweep := sweep_sameLayers adj li slots { t with improved := false }
    split
    · exact hsweep
    · exact (rounds_sameLayers adj li slots k _).trans hsweep

theorem transpose_sameLayers (adj : Adjacency) (a : Arrangement) (li rounds : Nat) :
    SameLayers (transpose adj a li rounds).1.layers a.layers := by
  unfold transpose
  dsimp only
  split
  · exact SameLayers.refl _
  · exact Transposing.rounds_sameLayers adj li _ rounds _

theorem Passing.step_sameLayers (adj : Adjacency) (rounds : Nat) (neighbours : Nat → List Nat)
    (st : Passing) (li : Nat) :
    SameLayers (step adj rounds neighbours st li).current.layers st.current.layers :=
  (transpose_sameLayers adj _ li rounds).trans
    (st.current.withLayer_sameLayers li (reorderByMedian_perm _ _ _))

theorem Passing.foldl_step_sameLayers (adj : Adjacency) (rounds : Nat)
    (neighbours : Nat → List Nat) :
    ∀ (lis : List Nat) (st : Passing),
      SameLayers (lis.foldl (step adj rounds neighbours) st).current.layers st.current.layers ∧
        (lis.foldl (step adj rounds neighbours) st).best = st.best
  | [], st => ⟨SameLayers.refl _, rfl⟩
  | li :: lis, st => by
    obtain ⟨hsame, hbest⟩ := foldl_step_sameLayers adj rounds neighbours lis (step adj rounds neighbours st li)
    exact ⟨hsame.trans (step_sameLayers adj rounds neighbours st li), hbest⟩

/-- Passes keep both the arrangement in hand and the best one seen to the layers of the
start. -/
theorem Passing.run_sameLayers (adj : Adjacency) (rounds n : Nat) (S : Array (Array Nat)) :
    ∀ (remaining pass : Nat) (st : Passing), SameLayers st.current.layers S →
      SameLayers st.best S → SameLayers (run adj rounds n remaining pass st).best S
  | 0, _, _, _, hbest => hbest
  | remaining + 1, pass, st, hcur, hbest => by
    rw [run]
    obtain ⟨hdown, hdownBest⟩ :=
      foldl_step_sameLayers adj rounds adj.above (List.range' 1 (st.current.layers.size - 1)) st
    obtain ⟨hup, hupBest⟩ := foldl_step_sameLayers adj rounds adj.below
      (List.range (st.current.layers.size - 1)).reverse
      ((List.range' 1 (st.current.layers.size - 1)).foldl (step adj rounds adj.above) st)
    have hcur' := (hup.trans hdown).trans hcur
    rw [← hdownBest] at hbest
    rw [← hupBest] at hbest
    dsimp only
    -- whether this pass beat the best so far, then whether the passes stop here
    split <;> split
    case isTrue.isTrue => exact hcur'
    case isTrue.isFalse => exact run_sameLayers adj rounds n S remaining _ _ hcur' hcur'
    case isFalse.isTrue => exact hbest
    case isFalse.isFalse => exact run_sameLayers adj rounds n S remaining _ _ hcur' hbest

/-- Crossing reduction returns the layers it was given, each possibly reordered. -/
theorem minimizeCrossings_sameLayers (g : LayoutGraph) (layers : List (List Nat))
    (layerOf : Array Nat) (maxPasses rounds : Nat) :
    SameLayers (minimizeCrossings g layers layerOf maxPasses rounds).layers
      (layers.map List.toArray).toArray := by
  unfold minimizeCrossings
  dsimp only
  split
  · exact Passing.run_sameLayers _ _ _ _ _ _ _ (SameLayers.refl _) (SameLayers.refl _)
  · exact SameLayers.refl _

/-! ### Positions within the layers -/

theorem size_recordPositions (layer : Array Nat) (pos : Array Nat) :
    (recordPositions layer pos).size = pos.size := by
  unfold recordPositions
  induction layer.toList.zipIdx generalizing pos with
  | nil => rfl
  | cons x xs ih => rw [List.foldl_cons, ih]; simp

theorem getD_setIfInBounds_of_ne {a : Array Nat} {i v x : Nat} (h : i ≠ v) :
    (a.setIfInBounds i x).getD v 0 = a.getD v 0 := by
  simp [Array.getD_eq_getD_getElem?, h]

theorem flatten_map_singleton_zipIdx (l : List Nat) :
    (l.zipIdx.map fun x => [x.1]).flatten = l := by
  have hmap : (l.zipIdx.map fun x => [x.1]) = (l.zipIdx.map Prod.fst).map fun y => [y] := by
    rw [List.map_map]; rfl
  rw [hmap, List.zipIdx_map_fst]
  exact List.flatMap_singleton' l

/-- Recording a layer without repeats writes each of its nodes' indexes. -/
theorem recordPositions_getD {layer : Array Nat} (pos : Array Nat) (hnd : layer.toList.Nodup)
    {k v : Nat} (hk : layer.toList[k]? = some v) (hv : v < pos.size) :
    (recordPositions layer pos).getD v 0 = k :=
  getD_foldl_write (fun (x : Nat × Nat) a => a.setIfInBounds x.1 x.2) (fun x => [x.1])
    (fun x _ => x.2) (fun _ _ => Array.size_setIfInBounds)
    (fun x a v hv => getD_setIfInBounds_of_ne fun h => hv (by simp [h]))
    layer.toList.zipIdx (fun x _ a v hv hva => by
      obtain rfl := List.mem_singleton.1 hv
      simp [Array.getD_eq_getD_getElem?, hva])
    pos v (v, k) (by rw [flatten_map_singleton_zipIdx]; exact hnd)
    (List.mk_mem_zipIdx_iff_getElem?.2 hk) (List.mem_singleton_self v) hv

theorem recordPositions_getD_of_not_mem {layer : Array Nat} (pos : Array Nat) {v : Nat}
    (hv : v ∉ layer.toList) : (recordPositions layer pos).getD v 0 = pos.getD v 0 :=
  getD_foldl_write_of_not_mem (fun (x : Nat × Nat) a => a.setIfInBounds x.1 x.2) (fun x => [x.1])
    (fun x a v hv => getD_setIfInBounds_of_ne fun h => hv (by simp [h]))
    layer.toList.zipIdx pos v fun x hx hvx => hv (by
      rw [List.mem_singleton.1 hvx]
      exact List.mem_of_getElem? (List.mk_mem_zipIdx_iff_getElem?.1 hx))

/-- In a layering where no node appears twice, the position of a node is its index within its
layer. -/
theorem positionsOf_getD {layers : Array (Array Nat)} {n : Nat}
    (hnd : (layers.toList.map Array.toList).flatten.Nodup) {l k v : Nat} {L : Array Nat}
    (hl : layers[l]? = some L) (hk : L.toList[k]? = some v) (hv : v < n) :
    (positionsOf layers n).getD v 0 = k := by
  have hL : L ∈ layers.toList := List.mem_of_getElem? (by simpa using hl)
  -- each layer of the list is without repeats, so a node's first index is its only one
  have hwrite : ∀ L' ∈ layers.toList, ∀ (a : Array Nat) (v : Nat), v ∈ L'.toList → v < a.size →
      (recordPositions L' a).getD v 0 = L'.toList.idxOf v := by
    intro L' hL' a v hv hva
    exact recordPositions_getD a ((List.nodup_flatten.1 hnd).1 _ (List.mem_map_of_mem hL'))
      (List.getElem?_idxOf hv) hva
  have hLnd : L.toList.Nodup := (List.nodup_flatten.1 hnd).1 _ (List.mem_map_of_mem hL)
  have hidx : L.toList.idxOf v = k := by
    obtain ⟨hklt, rfl⟩ := List.getElem?_eq_some_iff.1 hk
    exact hLnd.idxOf_getElem k hklt
  unfold positionsOf
  rw [← Array.foldl_toList, ← hidx]
  exact getD_foldl_write (fun (L : Array Nat) a => recordPositions L a) Array.toList
    (fun L v => L.toList.idxOf v) (fun L a => size_recordPositions L a)
    (fun L a v hv => recordPositions_getD_of_not_mem a hv)
    layers.toList hwrite _ v L hnd hL (List.mem_of_getElem? hk) (by simpa using hv)

end FlowLayout
