import FlowLayout.Layout.Pipeline
import FlowLayout.Proofs.Builder
import FlowLayout.Proofs.Pipeline
/-!
# Every index a layout run reads is in range

A layout run keeps its tables in arrays and reads them by index. By node it reads the search
standings, the outgoing lists, the in-degrees and marks of the layering, each node's layer, the
neighbours above and below, the positions within layers, the neighbour lists, the cross
positions, the centres and the boxes; by edge it reads the ends of the edges. Each read is in
range for two reasons:

* every table read by node is made with one entry per node and only written in place, so it
  keeps that size in every state of its loop (`Search.size_explore`, `Peeling.size_run`,
  `Arrangement.Fits`, `size_placeLayer_eq`, `size_assignCoordinates`);
* every index read at is a node or an edge: it counts up to the node count, is a resolved end
  of an edge or an entry of an outgoing list (`LayoutGraph.Indexed`), or is taken from a layer
  or a neighbour list, and these only ever hold nodes (`NodeLists`, `Arrangement.Fits`).

A node's layer is below the number of layers, so a rank counted from the far end never goes
below zero (`layeringOf_layerOf_lt`); the medians read the middle entries of a non-empty list
(`middle_lt`), and transposition swaps two neighbours inside one layer.

`layout_reads_in_range` gathers these facts for the run on any chart with any settings. The
other subtractions stand behind guards in the code itself: the passes of crossing reduction run
only over more than one layer, and keep the number of layers; transposition runs only over a
layer of at least two; the seeded start takes the first node only when there is one; an `end`
lowers the count of open subgraphs only when one is open. Text is read as lists of characters,
so no read of it can split a character.
-/

namespace FlowLayout

/-! ### Indexes a graph stores -/

namespace LayoutGraph

/-- The indexes a graph stores are in range: one outgoing list per node, outgoing lists hold
edges, and the ends of a resolved edge are nodes. -/
structure Indexed (g : LayoutGraph) : Prop where
  outgoing_size : g.outgoing.size = g.nodeCount
  out_lt : ∀ {v e : Nat}, e ∈ g.out v → e < g.edgeCount
  ends_lt : ∀ {e s t : Nat}, g.ends e = some (s, t) → s < g.nodeCount ∧ t < g.nodeCount

/-- Only an edge has resolved ends. -/
theorem lt_edgeCount_of_ends {g : LayoutGraph} {e s t : Nat} (h : g.ends e = some (s, t)) :
    e < g.edgeCount := by
  refine Nat.lt_of_not_le fun hge => ?_
  rw [ends, Array.getD_eq_getD_getElem?, Array.getElem?_eq_none hge] at h
  cases h

theorem WellFormed.indexed {g : LayoutGraph} (hg : g.WellFormed)
    (hsize : g.outgoing.size = g.nodeCount) : g.Indexed where
  outgoing_size := hsize
  out_lt he := by
    obtain ⟨t, ht⟩ := hg.mem_out.1 he
    exact lt_edgeCount_of_ends ht
  ends_lt := hg.ends_lt

/-- The graph of every chart stores only indexes in range. -/
theorem ofChart_indexed (c : Flowchart) : (ofChart c).Indexed :=
  (ofChart_wellFormed c).indexed (ofChart_outgoing_size c)

/-- A resolved edge joins two nodes. -/
theorem Indexed.edge_lt {g : LayoutGraph} (hg : g.Indexed) {e s t : Nat}
    (h : (e, s, t) ∈ g.edges) : s < g.nodeCount ∧ t < g.nodeCount :=
  hg.ends_lt (mem_edges.1 h)

end LayoutGraph

/-! ### Tables of node lists -/

/-- A table of node lists read by node: one list per node, each holding nodes. -/
structure NodeLists (n : Nat) (a : Array (List Nat)) : Prop where
  size : a.size = n
  lt : ∀ v, ∀ w ∈ a.getD v [], w < n

namespace NodeLists

theorem replicate (n : Nat) : NodeLists n (Array.replicate n []) where
  size := Array.size_replicate
  lt v w hw := by
    simp only [Array.getD_eq_getD_getElem?, Array.getElem?_replicate] at hw
    split at hw <;> simp at hw

/-- Appending a node to one list keeps a table of node lists. -/
theorem append {n : Nat} {a : Array (List Nat)} (h : NodeLists n a) (v : Nat) {w : Nat}
    (hw : w < n) : NodeLists n (a.modify v (· ++ [w])) where
  size := by rw [Array.size_modify, h.size]
  lt u x hx := by
    simp only [Array.getD_eq_getD_getElem?, Array.getElem?_modify] at hx
    have hold : ∀ x ∈ a[u]?.getD [], x < n := fun x hx =>
      h.lt u x (by simpa [Array.getD_eq_getD_getElem?] using hx)
    by_cases huv : v = u
    · subst huv
      cases hget : a[v]? with
      | none => simp [hget] at hx
      | some l =>
        simp only [hget, if_true, Option.map_some, Option.getD_some, List.mem_append,
          List.mem_singleton] at hx
        rcases hx with hx | rfl
        · exact hold x (by simp [hget, hx])
        · exact hw
    · simp only [huv, if_false] at hx
      exact hold x hx

end NodeLists

/-- The neighbours above and below each node: one list per node, each holding nodes. -/
theorem Adjacency.build_nodeLists {g : LayoutGraph} (hg : g.Indexed) (layerOf : Array Nat) :
    NodeLists g.nodeCount (Adjacency.build g layerOf).up ∧
      NodeLists g.nodeCount (Adjacency.build g layerOf).down := by
  unfold Adjacency.build
  refine List.foldlRecOn
    (motive := fun a : Adjacency => NodeLists g.nodeCount a.up ∧ NodeLists g.nodeCount a.down)
    g.edges _ ⟨NodeLists.replicate _, NodeLists.replicate _⟩ ?_
  rintro a ⟨hup, hdown⟩ ⟨e, s, t⟩ hx
  obtain ⟨hs, ht⟩ := hg.edge_lt hx
  dsimp only
  -- an edge between adjacent layers is recorded both ways, whichever end is above
  split
  · exact ⟨hup.append t hs, hdown.append s ht⟩
  · split
    · exact ⟨hup.append s ht, hdown.append t hs⟩
    · exact ⟨hup, hdown⟩

/-- The neighbour lists the centres are aimed with: one list per node, each holding nodes. -/
theorem neighbourLists_nodeLists {g : LayoutGraph} (hg : g.Indexed) :
    NodeLists g.nodeCount (neighbourLists g) := by
  unfold neighbourLists
  refine List.foldlRecOn (motive := NodeLists g.nodeCount) g.edges _ (NodeLists.replicate _) ?_
  rintro a ha ⟨e, s, t⟩ hx
  obtain ⟨hs, ht⟩ := hg.edge_lt hx
  dsimp only
  split
  · exact ha
  · exact (ha.append s ht).append t hs

/-! ### The search and the peeling keep their tables -/

namespace Search

/-- Exploring never changes how many standings there are. -/
theorem size_explore (g : LayoutGraph) :
    ∀ (fuel v : Nat) (s : Search), (explore g fuel v s).visit.size = s.visit.size
  | 0, _, _ => rfl
  | fuel + 1, v, s => by
    -- an edge keeps the size: an unvisited target is explored with less fuel
    have hedge : ∀ (s : Search) (e : Nat), (visitEdge g fuel v s e).visit.size = s.visit.size := by
      intro s e
      unfold visitEdge
      split
      · split
        · exact size_explore g fuel _ s
        · rfl
        · rfl
      · rfl
    rw [explore_succ]
    simp only [Array.size_setIfInBounds]
    exact foldl_invariant (fun s' : Search => s'.visit.size = s.visit.size) (visitEdge g fuel v)
      (fun s' e h => (hedge s' e).trans h) _ _ Array.size_setIfInBounds

end Search

namespace Peeling

variable (g : LayoutGraph) (back : BackEdges)

/-- Releasing an edge keeps one in-degree and one mark per node. -/
theorem size_releaseEdge (st : Peeling × List Nat) (e : Nat) :
    (releaseEdge g back st e).1.inDegree.size = st.1.inDegree.size ∧
      (releaseEdge g back st e).1.placed.size = st.1.placed.size := by
  obtain ⟨p, next⟩ := st
  unfold releaseEdge
  dsimp only
  split
  · exact ⟨rfl, rfl⟩
  · split
    · exact ⟨rfl, rfl⟩
    · split
      · exact ⟨rfl, rfl⟩
      · split <;> simp

/-- The peeling keeps one in-degree and one mark per node through all its rounds. -/
theorem size_run : ∀ (fuel : Nat) (F : List Nat) (p : Peeling),
    (run g back fuel F p).inDegree.size = p.inDegree.size ∧
      (run g back fuel F p).placed.size = p.placed.size
  | 0, _, _ => ⟨rfl, rfl⟩
  | _ + 1, [], _ => ⟨rfl, rfl⟩
  | fuel + 1, f :: fs, p => by
    rw [run_succ_round]
    obtain ⟨hdeg, hplaced⟩ := size_run fuel (round g back (f :: fs) p).2 (round g back (f :: fs) p).1
    rw [hdeg, hplaced, round_eq, foldl_release]
    -- the marks are set in place, then each released edge keeps both sizes
    exact foldl_invariant
      (fun st : Peeling × List Nat =>
        st.1.inDegree.size = p.inDegree.size ∧ st.1.placed.size = p.placed.size)
      (releaseEdge g back)
      (fun st e h => ⟨(size_releaseEdge g back st e).1.trans h.1,
        (size_releaseEdge g back st e).2.trans h.2⟩) _ _ ⟨rfl, size_foldl_of_size (fun _ _ => Array.size_setIfInBounds) _ _⟩

end Peeling

/-! ### The layering -/

/-- Each node's layer is kept in one entry per node. -/
theorem size_layerIndex (layers : List (List Nat)) (n : Nat) : (layerIndex layers n).size = n := by
  unfold layerIndex
  exact foldl_invariant (fun a : Array Nat => a.size = n) _
    (fun a x h => (size_foldl_of_size (fun _ _ => Array.size_setIfInBounds) x.1 a).trans h) _ _ Array.size_replicate

/-! ### Arrangements during crossing reduction -/

/-- Positions recorded for layers are kept in one entry per node. -/
theorem size_positionsOf (layers : Array (Array Nat)) (n : Nat) :
    (positionsOf layers n).size = n := by
  unfold positionsOf
  rw [← Array.foldl_toList]
  exact foldl_invariant (fun p : Array Nat => p.size = n) _
    (fun p L h => (size_recordPositions L p).trans h) _ _ Array.size_replicate

namespace Arrangement

/-- An arrangement of `count` layers read by node: one position per node, and layers that hold
nodes. -/
structure Fits (n count : Nat) (a : Arrangement) : Prop where
  pos_size : a.pos.size = n
  layers_size : a.layers.size = count
  layer_lt : ∀ li, ∀ v ∈ (a.layer li).toList, v < n

variable {n count : Nat} {a : Arrangement}

/-- Replacing a layer by a reordering of it keeps an arrangement fitting. -/
theorem Fits.withLayer (h : a.Fits n count) (li : Nat) {L : Array Nat}
    (hL : L.toList.Perm (a.layer li).toList) : (a.withLayer li L).Fits n count where
  pos_size := (size_recordPositions L a.pos).trans h.pos_size
  layers_size := (a.withLayer_sameLayers li hL).size.trans h.layers_size
  layer_lt lj v hv := h.layer_lt lj v (((a.withLayer_sameLayers li hL).mem_iff lj).1 hv)

/-- Swapping two neighbours of a layer keeps an arrangement fitting. -/
theorem Fits.swapAt (h : a.Fits n count) (li i : Nat) : (a.swapAt li i).Fits n count where
  pos_size := by simp [Arrangement.swapAt, h.pos_size]
  layers_size := (a.swapAt_sameLayers li i).size.trans h.layers_size
  layer_lt lj v hv := h.layer_lt lj v (((a.swapAt_sameLayers li i).mem_iff lj).1 hv)

/-- A swap keeps the length of its layer, so the slots of a transposition stay inside it. -/
theorem size_layer_swapAt (a : Arrangement) (li i : Nat) :
    ((a.swapAt li i).layer li).size = (a.layer li).size := by
  by_cases hli : li < a.layers.size
  · simp [Arrangement.swapAt, Arrangement.layer, Array.getD_eq_getD_getElem?, hli]
  · simp [Arrangement.swapAt, Arrangement.layer, Array.getD_eq_getD_getElem?, hli]

/-- The arrangement crossing reduction starts from fits when every layer holds nodes. -/
theorem Fits.start {layers : List (List Nat)} (h : ∀ L ∈ layers, ∀ v ∈ L, v < n) :
    ({ layers := (layers.map List.toArray).toArray,
       pos := positionsOf (layers.map List.toArray).toArray n } : Arrangement).Fits n
      layers.length where
  pos_size := size_positionsOf _ n
  layers_size := by simp
  layer_lt li v hv := by
    simp only [Arrangement.layer, Array.getD_eq_getD_getElem?, List.getElem?_toArray,
      List.getElem?_map] at hv
    cases hL : layers[li]? with
    | none => simp [hL] at hv
    | some L =>
      simp only [hL, Option.map_some, Option.getD_some, List.toList_toArray] at hv
      exact h L (List.mem_of_getElem? hL) v hv

end Arrangement

section Passes

variable {n count : Nat}

theorem Transposing.sweep_fits (adj : Adjacency) (li : Nat) :
    ∀ (slots : List Nat) (t : Transposing), t.arrangement.Fits n count →
      (Transposing.sweep adj li slots t).arrangement.Fits n count
  | [], _, h => h
  | i :: rest, t, h => by
    rw [Transposing.sweep]
    split
    · exact h
    · dsimp only
      -- a kept swap goes on from the swapped arrangement, an undone one from the same
      split
      · exact sweep_fits adj li rest _ (h.swapAt li i)
      · exact sweep_fits adj li rest t h

theorem Transposing.rounds_fits (adj : Adjacency) (li : Nat) (slots : List Nat) :
    ∀ (k : Nat) (t : Transposing), t.arrangement.Fits n count →
      (Transposing.rounds adj li slots k t).arrangement.Fits n count
  | 0, _, h => h
  | k + 1, t, h => by
    rw [Transposing.rounds]
    have hsweep := Transposing.sweep_fits adj li slots { t with improved := false } h
    split
    · exact hsweep
    · exact rounds_fits adj li slots k _ hsweep

theorem transpose_fits (adj : Adjacency) (a : Arrangement) (li rounds : Nat)
    (h : a.Fits n count) : (transpose adj a li rounds).1.Fits n count := by
  unfold transpose
  dsimp only
  split
  · exact h
  · exact Transposing.rounds_fits adj li _ rounds _ h

theorem Passing.step_fits (adj : Adjacency) (rounds : Nat) (neighbours : Nat → List Nat)
    (st : Passing) (li : Nat) (h : st.current.Fits n count) :
    (Passing.step adj rounds neighbours st li).current.Fits n count :=
  transpose_fits adj _ li rounds (h.withLayer li (reorderByMedian_perm _ _ _))

/-- What every step keeps of the arrangement in hand, a run of passes keeps: a pass reorders and
transposes one layer at a time. -/
theorem Passing.run_current (adj : Adjacency) (rounds m : Nat) (P : Arrangement → Prop)
    (hstep : ∀ (nb : Nat → List Nat) (st : Passing) (li : Nat), P st.current →
      P (Passing.step adj rounds nb st li).current) :
    ∀ (remaining pass : Nat) (st : Passing), P st.current →
      P (Passing.run adj rounds m remaining pass st).current
  | 0, _, _, h => h
  | remaining + 1, pass, st, h => by
    rw [Passing.run]
    have hsweep : ∀ (nb : Nat → List Nat) (lis : List Nat) (st : Passing),
        P st.current → P (lis.foldl (Passing.step adj rounds nb) st).current :=
      fun nb lis st h => foldl_invariant (fun st : Passing => P st.current) _
        (fun st li h => hstep nb st li h) lis st h
    have hpass := hsweep adj.below (List.range (st.current.layers.size - 1)).reverse _
      (hsweep adj.above (List.range' 1 (st.current.layers.size - 1)) st h)
    dsimp only
    -- whether the pass beat the best so far, then whether the passes stop here
    split <;> split
    case isTrue.isTrue => exact hpass
    case isTrue.isFalse => exact run_current adj rounds m P hstep remaining _ _ hpass
    case isFalse.isTrue => exact hpass
    case isFalse.isFalse => exact run_current adj rounds m P hstep remaining _ _ hpass

/-- Every arrangement the passes go through fits. -/
theorem Passing.run_fits (adj : Adjacency) (rounds m : Nat) :
    ∀ (remaining pass : Nat) (st : Passing), st.current.Fits n count →
      (Passing.run adj rounds m remaining pass st).current.Fits n count :=
  Passing.run_current adj rounds m (Arrangement.Fits n count)
    fun nb st li h => Passing.step_fits adj rounds nb st li h

end Passes

/-! ### Cross positions, centres and medians -/

section Coordinates

variable {α : Type} [Scalar α]

/-- Placing a layer writes in place: the cross positions keep one entry per node. -/
theorem size_placeLayer_eq (layer : Array Nat) (ideal : List α) (gap : α) (cross : Array α) :
    (placeLayer layer ideal gap cross).size = cross.size := by
  unfold placeLayer
  dsimp only
  refine foldl_invariant (fun c : Array α => c.size = cross.size) _ ?_ _ _ rfl
  rintro c ⟨v, p⟩ h
  simpa using h

theorem size_recenter (centers : Array (Point α)) (spacing : Spacing α)
    (config : LayoutConfig α) : (recenter centers spacing config).centers.size = centers.size := by
  unfold recenter
  split
  · rfl
  · simp

/-- One cross position per node, whatever the layers and the gap. -/
theorem size_crossPositions (g : LayoutGraph) (layers : Array (Array Nat)) (layerOf : Array Nat)
    (gap : α) : (crossPositions g layers layerOf gap).size = g.nodeCount := by
  unfold crossPositions
  dsimp only
  -- both sweeps place layers in place over one cross position per node
  refine foldl_invariant (fun c : Array α => c.size = g.nodeCount) _ ?_ _ _ ?_
  · exact fun c L h => (size_placeLayer_eq L _ _ c).trans h
  · rw [← Array.foldl_toList]
    refine foldl_invariant (fun c : Array α => c.size = g.nodeCount) _ ?_ _ _ Array.size_replicate
    exact fun c L h => (size_placeLayer_eq L _ _ c).trans h

/-- One centre per node, whatever the layers, the layer of each node and the spacing. -/
theorem size_assignCoordinates (g : LayoutGraph) (layers : Array (Array Nat))
    (layerOf : Array Nat) (direction : Direction) (spacing : Spacing α)
    (config : LayoutConfig α) :
    (assignCoordinates g layers layerOf direction spacing config).centers.size = g.nodeCount := by
  unfold assignCoordinates
  dsimp only
  rw [size_recenter, List.size_toArray, List.length_map, List.length_zipIdx, Array.length_toList,
    size_crossPositions]

end Coordinates

/-- The middle index of a sorted non-empty list is an entry of it, and in a list of even length
it is positive, so the entry before it is one too. -/
theorem middle_lt {β : Type} (le : β → β → Bool) {xs : List β} (h : xs ≠ []) :
    (xs.mergeSort le).length / 2 < (xs.mergeSort le).length ∧
      ((xs.mergeSort le).length % 2 = 0 → 0 < (xs.mergeSort le).length / 2) := by
  rw [List.length_mergeSort]
  have hpos : 0 < xs.length := List.length_pos_iff.2 h
  omega

variable {α : Type} [Scalar α]

section Chart

variable (c : Flowchart) (s : LayoutConfig α)

/-- Every layer holds nodes. -/
theorem layeringOf_lt {L : List Nat} (hL : L ∈ (layeringOf c).layers) {v : Nat} (hv : v ∈ L) :
    v < (LayoutGraph.ofChart c).nodeCount :=
  List.mem_range.1 ((layeringOf_perm c).subset (List.mem_flatten.2 ⟨L, hL, hv⟩))

/-- A node's layer is one of the reduced layers, so a rank counted from the far end stays
non-negative. -/
theorem layeringOf_layerOf_lt {v : Nat} (hv : v < (LayoutGraph.ofChart c).nodeCount) :
    (layeringOf c).layerOf.getD v 0 < (orderingOf c s).layers.size := by
  obtain ⟨L, hL, -⟩ := LayoutGraph.exists_mem_layerIndex (layeringOf_perm c) hv
  rw [(orderingOf_sameLayers c s).size, List.size_toArray, List.length_map]
  exact (List.getElem?_eq_some_iff.1 hL).1

/-- Every reduced layer holds nodes. -/
theorem orderingOf_lt (li : Nat) {v : Nat} (hv : v ∈ ((orderingOf c s).layers.getD li #[]).toList) :
    v < (LayoutGraph.ofChart c).nodeCount := by
  rw [orderingOf_mem_iff] at hv
  rw [List.getD_eq_getElem?_getD] at hv
  cases hL : (layeringOf c).layers[li]? with
  | none => simp [hL] at hv
  | some L =>
    rw [hL, Option.getD_some] at hv
    exact layeringOf_lt c (List.mem_of_getElem? hL) hv

/-- What keeps every read of a layout run of chart `c` under settings `s` in range. Each field
names the tables it is about; a table read by node is read at a node, a table read by edge at an
edge. -/
structure LayoutReadsInRange (c : Flowchart) (s : LayoutConfig α) : Prop where
  /-- outgoing lists and edge ends: one outgoing list per node, holding edges whose ends are
  nodes -/
  graph : (LayoutGraph.ofChart c).Indexed
  /-- search standings: made one per node, and kept so by every exploration -/
  standings : ∀ (fuel v : Nat) (st : Search),
    (Search.explore (LayoutGraph.ofChart c) fuel v st).visit.size = st.visit.size
  /-- in-degrees and marks: kept one per node by every round of the peeling -/
  peeling : ∀ (fuel : Nat) (F : List Nat) (p : Peeling),
    (Peeling.run (LayoutGraph.ofChart c) (LayoutGraph.ofChart c).backEdges fuel F p).inDegree.size =
        p.inDegree.size ∧
      (Peeling.run (LayoutGraph.ofChart c) (LayoutGraph.ofChart c).backEdges fuel F p).placed.size =
        p.placed.size
  /-- frontiers and layers hold nodes -/
  layers : ∀ L ∈ (layeringOf c).layers, ∀ v ∈ L, v < (LayoutGraph.ofChart c).nodeCount
  /-- each node's layer: one entry per node, below the number of layers -/
  layerOf : (layeringOf c).layerOf.size = (LayoutGraph.ofChart c).nodeCount ∧
    ∀ v < (LayoutGraph.ofChart c).nodeCount,
      (layeringOf c).layerOf.getD v 0 < (orderingOf c s).layers.size
  /-- neighbours above and below -/
  adjacency :
    NodeLists (LayoutGraph.ofChart c).nodeCount
        (Adjacency.build (LayoutGraph.ofChart c) (layeringOf c).layerOf).up ∧
      NodeLists (LayoutGraph.ofChart c).nodeCount
        (Adjacency.build (LayoutGraph.ofChart c) (layeringOf c).layerOf).down
  /-- positions and layers during crossing reduction: the arrangement the passes start from
  fits, and so does every arrangement they reach -/
  arrangements :
    ({ layers := ((layeringOf c).layers.map List.toArray).toArray,
       pos := positionsOf ((layeringOf c).layers.map List.toArray).toArray
        (LayoutGraph.ofChart c).nodeCount } : Arrangement).Fits
        (LayoutGraph.ofChart c).nodeCount (layeringOf c).layers.length ∧
      ∀ (remaining pass : Nat) (st : Passing),
        st.current.Fits (LayoutGraph.ofChart c).nodeCount (layeringOf c).layers.length →
        (Passing.run (Adjacency.build (LayoutGraph.ofChart c) (layeringOf c).layerOf)
          s.sanitized.transposeRounds (LayoutGraph.ofChart c).nodeCount remaining pass
          st).current.Fits (LayoutGraph.ofChart c).nodeCount (layeringOf c).layers.length
  /-- transposition slots: pairs of neighbours inside the layer, which swaps keep as long -/
  swaps : ∀ (a : Arrangement) (li : Nat), ∀ i ∈ List.range ((a.layer li).size - 1),
    i + 1 < (a.layer li).size ∧ ((a.swapAt li i).layer li).size = (a.layer li).size
  /-- the reduced layers hold nodes -/
  reduced : ∀ (li : Nat), ∀ v ∈ ((orderingOf c s).layers.getD li #[]).toList,
    v < (LayoutGraph.ofChart c).nodeCount
  /-- neighbour lists -/
  neighbours : NodeLists (LayoutGraph.ofChart c).nodeCount (neighbourLists (LayoutGraph.ofChart c))
  /-- cross positions: kept one per node by every layer placed -/
  cross : ∀ (layer : Array Nat) (ideal : List α) (gap : α) (cross : Array α),
    (placeLayer layer ideal gap cross).size = cross.size
  /-- orders and centres, hence boxes: one per node -/
  tables :
    (positionsOf (orderingOf c s).layers (LayoutGraph.ofChart c).nodeCount).size =
        (LayoutGraph.ofChart c).nodeCount ∧
      ∀ spacing : Spacing α, (assignCoordinates (LayoutGraph.ofChart c) (orderingOf c s).layers
        (layeringOf c).layerOf c.direction spacing s.sanitized).centers.size =
          (LayoutGraph.ofChart c).nodeCount
  /-- medians: of the sorted cross positions and of the sorted neighbour positions, the middle
  entry and, for an even count, the one before it -/
  medians : ∀ (xs : List α) (ys : List Nat),
    (xs ≠ [] → (Scalar.sortTotal xs).length / 2 < (Scalar.sortTotal xs).length ∧
      ((Scalar.sortTotal xs).length % 2 = 0 → 0 < (Scalar.sortTotal xs).length / 2)) ∧
    (ys ≠ [] → (ys.mergeSort (· ≤ ·)).length / 2 < (ys.mergeSort (· ≤ ·)).length ∧
      ((ys.mergeSort (· ≤ ·)).length % 2 = 0 → 0 < (ys.mergeSort (· ≤ ·)).length / 2))

/-- Every read a layout run makes is in range, for every chart (repeated, empty or blank ids,
dangling, parallel and self-loop edges included) and every setting. -/
theorem layout_reads_in_range : LayoutReadsInRange c s where
  graph := LayoutGraph.ofChart_indexed c
  standings := Search.size_explore _
  peeling := Peeling.size_run _ _
  layers _ hL _ hv := layeringOf_lt c hL hv
  layerOf := ⟨by rw [layeringOf_layerOf]; exact size_layerIndex _ _,
    fun _ hv => layeringOf_layerOf_lt c s hv⟩
  adjacency := Adjacency.build_nodeLists (LayoutGraph.ofChart_indexed c) _
  arrangements := ⟨Arrangement.Fits.start fun _ hL _ hv => layeringOf_lt c hL hv,
    fun remaining pass st h => Passing.run_fits _ _ _ remaining pass st h⟩
  swaps a li i hi := ⟨by have := List.mem_range.1 hi; omega, Arrangement.size_layer_swapAt a li i⟩
  reduced li _ hv := orderingOf_lt c s li hv
  neighbours := neighbourLists_nodeLists (LayoutGraph.ofChart_indexed c)
  cross := size_placeLayer_eq
  tables := ⟨size_positionsOf _ _, fun _ => size_assignCoordinates _ _ _ _ _ _⟩
  medians _ _ := ⟨fun hx => middle_lt _ hx, fun hy => middle_lt _ hy⟩

end Chart

end FlowLayout
