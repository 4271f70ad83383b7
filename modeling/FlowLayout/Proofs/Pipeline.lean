import FlowLayout.Layout.Routing
import FlowLayout.Proofs.Graph
import FlowLayout.Layout.Pipeline
import FlowLayout.Proofs.Ordering
import FlowLayout.Proofs.SortedMap
/-!
# What a layout run returns

`layoutChart` chains the stages on the graph of a chart: back edges, the longest-path layering
of the rest, crossing reduction, centres and routes. This module names the two stages whose
results the others read (`layeringOf`, `orderingOf`), reads the fields of the layout back in
their terms, and puts the stage theorems together:

* the layering is the longest-path layering of the resolved edges that are not back edges,
  with every node in exactly one layer and no seeded node or residue layer
  (`layeringOf_spec`);
* the layers of the layout, each node's layer and each node's order describe one partition
  (`layout_nodes_layers`): the entry at `(layer, order)` of the layout's layers is the id of
  the one node placed there.

The first section reads the routes back: one per resolved edge, in edge order.
-/

/-!
## Routes of a chart's edges

`routeEdges` routes the resolved edges one by one in edge order (`routeStep`); each route is
`routeEdge` of its edge, given the node pairs routed before it. So the routes are exactly one
per resolved edge, numbered by the edge and flagged as back edges by the set they were given
(`routeEdges_indexes`), and each route is the route of some resolved edge
(`mem_routeEdges`).
-/

namespace FlowLayout

variable {α : Type} [Scalar α]

section Edges

variable (c : Flowchart) (g : LayoutGraph) (boxes : Array (Rect α)) (back : BackEdges)
  (config : LayoutConfig α)

@[simp] theorem routeEdge_edgeIndex (seen : List (Nat × Nat)) (e s t : Nat) :
    (routeEdge c g boxes back config seen e s t).edgeIndex = e := by
  unfold routeEdge selfLoopRoute
  split <;> rfl

@[simp] theorem routeEdge_backEdge (seen : List (Nat × Nat)) (e s t : Nat) :
    (routeEdge c g boxes back config seen e s t).backEdge = back.contains e := by
  unfold routeEdge selfLoopRoute
  split <;> rfl

theorem foldl_routeStep_indexes :
    ∀ (L : List (Nat × Nat × Nat)) (st : List (RoutedEdge α) × List (Nat × Nat)),
      (L.foldl (routeStep c g boxes back config) st).1.map (fun r => (r.edgeIndex, r.backEdge)) =
        st.1.map (fun r => (r.edgeIndex, r.backEdge)) ++
          L.map fun x => (x.1, back.contains x.1)
  | [], _ => by simp
  | (e, s, t) :: L, st => by
    rw [List.foldl_cons, foldl_routeStep_indexes L]
    simp [routeStep]

/-- One route per resolved edge, in edge order, with the edge's number and back-edge flag. -/
theorem routeEdges_indexes :
    (routeEdges c g boxes back config).map (fun r => (r.edgeIndex, r.backEdge)) =
      g.edges.map fun x => (x.1, back.contains x.1) := by
  rw [routeEdges, foldl_routeStep_indexes]
  rfl

theorem mem_foldl_routeStep :
    ∀ (L : List (Nat × Nat × Nat)) (st : List (RoutedEdge α) × List (Nat × Nat))
      (r : RoutedEdge α), r ∈ (L.foldl (routeStep c g boxes back config) st).1 →
        r ∈ st.1 ∨ ∃ seen e s t, (e, s, t) ∈ L ∧ r = routeEdge c g boxes back config seen e s t
  | [], _, _, hr => .inl hr
  | (e, s, t) :: L, st, r, hr => by
    rw [List.foldl_cons] at hr
    rcases mem_foldl_routeStep L _ r hr with hr | ⟨seen, e', s', t', hmem, rfl⟩
    · simp only [routeStep, List.mem_append, List.mem_singleton] at hr
      rcases hr with hr | rfl
      · exact .inl hr
      · exact .inr ⟨st.2, e, s, t, List.mem_cons_self .., rfl⟩
    · exact .inr ⟨seen, e', s', t', List.mem_cons_of_mem _ hmem, rfl⟩

/-- Every route is the route of a resolved edge. -/
theorem mem_routeEdges {r : RoutedEdge α} (hr : r ∈ routeEdges c g boxes back config) :
    ∃ seen e s t, g.ends e = some (s, t) ∧ r = routeEdge c g boxes back config seen e s t := by
  rcases mem_foldl_routeStep c g boxes back config _ _ r hr with hr | ⟨seen, e, s, t, hmem, rfl⟩
  · exact absurd hr List.not_mem_nil
  · exact ⟨seen, e, s, t, LayoutGraph.mem_edges.1 hmem, rfl⟩

end Edges

end FlowLayout

namespace FlowLayout

variable {α : Type} [Scalar α]

/-- The layering a layout run computes: the graph of the chart without its back edges. -/
def layeringOf (c : Flowchart) : Layering :=
  (LayoutGraph.ofChart c).assignLayers (LayoutGraph.ofChart c).backEdges

/-- The crossing reduction a layout run applies to the layering. -/
def orderingOf (c : Flowchart) (settings : LayoutConfig α) : Ordering :=
  minimizeCrossings (LayoutGraph.ofChart c) (layeringOf c).layers (layeringOf c).layerOf
    settings.sanitized.crossingPasses settings.sanitized.transposeRounds

/-! ### Fields of a layout -/

section Fields

variable (c : Flowchart) (s : LayoutConfig α)

theorem layout_layers :
    (layoutChart c s).layout.layers =
      (orderingOf c s).layers.toList.map fun l => l.toList.map (LayoutGraph.ofChart c).id :=
  rfl

theorem layout_backEdges :
    (layoutChart c s).layout.backEdges = (LayoutGraph.ofChart c).backEdges.edges := rfl

/-- Each placement names its node, its layer from the layering and its order from the
positions in the reduced layers. -/
theorem layout_nodes_map :
    (layoutChart c s).layout.nodes.map (fun p => (p.nodeIndex, p.nodeId, p.layer, p.order)) =
      c.nodes.zipIdx.map fun x => (x.2, x.1.id, (layeringOf c).layerOf.getD x.2 0,
        (positionsOf (orderingOf c s).layers (LayoutGraph.ofChart c).nodeCount).getD x.2 0) := by
  unfold layoutChart
  rw [List.map_map]
  -- each placement is built by matching on its pair: naming the parts lets the fields reduce;
  -- index and id agree at once, the layer and the order after unfolding the run's stages
  exact List.map_congr_left fun ⟨_, _⟩ _ => by
    simp only [Function.comp_apply, Prod.mk.injEq, true_and]
    exact ⟨rfl, rfl⟩

theorem layout_node {i : Nat} {p : NodePlacement α} (h : (layoutChart c s).layout.nodes[i]? = some p) :
    ∃ n, c.nodes[i]? = some n ∧ p.nodeIndex = i ∧ p.nodeId = n.id ∧
      p.layer = (layeringOf c).layerOf.getD i 0 ∧
      p.order = (positionsOf (orderingOf c s).layers (LayoutGraph.ofChart c).nodeCount).getD i 0 := by
  have hmap := congrArg (·[i]?) (layout_nodes_map c s)
  simp only [List.getElem?_map, h, Option.map_some, List.getElem?_zipIdx] at hmap
  cases hn : c.nodes[i]? with
  | none => simp [hn] at hmap
  | some n =>
    simp only [hn, Option.map_some, Option.some.injEq, Prod.mk.injEq, Nat.zero_add] at hmap
    obtain ⟨h₁, h₂, h₃, h₄⟩ := hmap
    exact ⟨n, rfl, h₁, h₂, h₃, h₄⟩

theorem layout_nodes_length : (layoutChart c s).layout.nodes.length = c.nodes.length := by
  simpa using congrArg List.length (layout_nodes_map c s)

theorem layout_nodeIds : (layoutChart c s).layout.nodes.map (·.nodeId) = c.nodes.map (·.id) := by
  have h := congrArg (List.map fun x => x.2.1) (layout_nodes_map c s)
  simp only [List.map_map] at h
  rw [show (fun p : NodePlacement α => p.nodeId) =
    (fun x => x.2.1) ∘ fun p => (p.nodeIndex, p.nodeId, p.layer, p.order) from rfl, h]
  conv => rhs; rw [← List.zipIdx_map_fst 0 c.nodes]
  rw [List.map_map]
  rfl

theorem layout_positions :
    (layoutChart c s).layout.positions =
      (layoutChart c s).layout.nodes.foldl (fun (m : SortedMap String (Point α)) p =>
        if m.contains p.nodeId then m else m.insert p.nodeId p.center) {} := rfl

/-- One route per resolved edge, in edge order, flagged by the back edges of the graph. -/
theorem layout_routedEdges_indexes :
    (layoutChart c s).layout.routedEdges.map (fun r => (r.edgeIndex, r.backEdge)) =
      (LayoutGraph.ofChart c).edges.map
        fun x => (x.1, (LayoutGraph.ofChart c).backEdges.contains x.1) :=
  routeEdges_indexes _ _ _ _ _

end Fields

/-! ### The layering of a chart -/

section Layering

variable (c : Flowchart)

/-- The layering of a chart is the run of the peeling to its end from the sources, never
seeded, with every node placed once and the longest-path arrangement. -/
theorem layeringOf_spec :
    (layeringOf c).seeded = false ∧
      (layeringOf c).layers =
        (Peeling.run (LayoutGraph.ofChart c) (LayoutGraph.ofChart c).backEdges
          ((LayoutGraph.ofChart c).nodeCount + 1)
          ((LayoutGraph.ofChart c).sources (LayoutGraph.ofChart c).backEdges)
          (Peeling.start (LayoutGraph.ofChart c) (LayoutGraph.ofChart c).backEdges)).layers ∧
      (LayoutGraph.ofChart c).LongestPath (LayoutGraph.ofChart c).backEdges (layeringOf c).layers ∧
      (layeringOf c).layers.flatten.Perm (List.range (LayoutGraph.ofChart c).nodeCount) := by
  have hg := LayoutGraph.ofChart_wellFormed c
  obtain ⟨rank, hrank⟩ := LayoutGraph.backEdges_topological hg
  obtain ⟨hseed, hlayers, hpeeled, hperm⟩ :=
    LayoutGraph.assignLayers_spec hg fun e u v hk => hrank e u v hk.1 hk.2
  refine ⟨hseed, hlayers, ?_, hperm⟩
  rw [layeringOf, hlayers]
  exact hpeeled.spec

theorem layeringOf_perm :
    (layeringOf c).layers.flatten.Perm (List.range (LayoutGraph.ofChart c).nodeCount) :=
  (layeringOf_spec c).2.2.2

theorem layeringOf_layerOf :
    (layeringOf c).layerOf = layerIndex (layeringOf c).layers (LayoutGraph.ofChart c).nodeCount :=
  rfl

theorem layeringOf_layer_eq {l v : Nat} {L : List Nat} (hl : (layeringOf c).layers[l]? = some L)
    (hv : v ∈ L) : (layeringOf c).layerOf.getD v 0 = l :=
  LayoutGraph.layerIndex_eq_of_mem (layeringOf_perm c) hl hv

end Layering

/-! ### The reduced layers -/

section Ordering

variable (c : Flowchart) (s : LayoutConfig α)

theorem orderingOf_sameLayers :
    SameLayers (orderingOf c s).layers ((layeringOf c).layers.map List.toArray).toArray :=
  minimizeCrossings_sameLayers _ _ _ _ _

theorem orderingOf_mem_iff (l : Nat) {v : Nat} :
    v ∈ ((orderingOf c s).layers.getD l #[]).toList ↔ v ∈ (layeringOf c).layers.getD l [] := by
  rw [(orderingOf_sameLayers c s).mem_iff l]
  simp [Array.getD_eq_getD_getElem?, List.getD_eq_getElem?_getD]

theorem orderingOf_flatten_perm :
    ((orderingOf c s).layers.toList.map Array.toList).flatten.Perm
      (List.range (LayoutGraph.ofChart c).nodeCount) := by
  refine (orderingOf_sameLayers c s).flatten_perm.trans ?_
  simpa [Function.comp_def] using layeringOf_perm c

/-- An entry of the reduced layers is the node whose layer and position it is. -/
theorem orderingOf_getElem?_iff (l k w : Nat) :
    ((orderingOf c s).layers.getD l #[]).toList[k]? = some w ↔
      w < (LayoutGraph.ofChart c).nodeCount ∧ (layeringOf c).layerOf.getD w 0 = l ∧
        (positionsOf (orderingOf c s).layers (LayoutGraph.ofChart c).nodeCount).getD w 0 = k := by
  have hnd := (orderingOf_flatten_perm c s).nodup_iff.2 List.nodup_range
  have hsize : (orderingOf c s).layers.size = (layeringOf c).layers.length := by
    simpa using (orderingOf_sameLayers c s).size
  -- a layer of the layering is a layer of the reduced layers
  have hOl : ∀ {L}, (layeringOf c).layers[l]? = some L →
      (orderingOf c s).layers[l]? = some ((orderingOf c s).layers.getD l #[]) := by
    intro L hL
    have hl : l < (orderingOf c s).layers.size := hsize ▸ (List.getElem?_eq_some_iff.1 hL).1
    simp [Array.getD_eq_getD_getElem?, Array.getElem?_eq_getElem hl]
  constructor
  · intro hk
    have hmem := (orderingOf_mem_iff c s l).1 (List.mem_of_getElem? hk)
    obtain ⟨L, hL⟩ : ∃ L, (layeringOf c).layers[l]? = some L := by
      cases h : (layeringOf c).layers[l]? with
      | none => simp [List.getD_eq_getElem?_getD, h] at hmem
      | some L => exact ⟨L, rfl⟩
    have hwL : w ∈ L := by simpa [List.getD_eq_getElem?_getD, hL] using hmem
    have hwN : w < (LayoutGraph.ofChart c).nodeCount := List.mem_range.1
      ((layeringOf_perm c).subset (List.mem_flatten.2 ⟨L, List.mem_of_getElem? hL, hwL⟩))
    exact ⟨hwN, layeringOf_layer_eq c hL hwL, positionsOf_getD hnd (hOl hL) hk hwN⟩
  · rintro ⟨hwN, hlayer, hpos⟩
    obtain ⟨L, hL, hwL⟩ := LayoutGraph.exists_mem_layerIndex (layeringOf_perm c) hwN
    rw [← layeringOf_layerOf, hlayer] at hL
    have hmem : w ∈ ((orderingOf c s).layers.getD l #[]).toList :=
      (orderingOf_mem_iff c s l).2 (by simpa [List.getD_eq_getElem?_getD, hL] using hwL)
    obtain ⟨k', hk'⟩ := List.mem_iff_getElem?.1 hmem
    have hk'pos := positionsOf_getD hnd (hOl hL) hk' hwN
    rw [hpos] at hk'pos
    rw [hk'pos]
    exact hk'

end Ordering

/-! ### Layers, layer and order agree -/

section Agree

variable (c : Flowchart) (s : LayoutConfig α)

/-- The entry at `(l, k)` of the layout's layers is the id of the node at `(l, k)` of the
reduced layers. -/
theorem layout_entry (l k : Nat) :
    ((layoutChart c s).layout.layers[l]?.bind (·[k]?)) =
      (((orderingOf c s).layers.getD l #[]).toList[k]?).map (LayoutGraph.ofChart c).id := by
  rw [layout_layers]
  simp only [List.getElem?_map, Array.getElem?_toList, Array.getD_eq_getD_getElem?]
  cases (orderingOf c s).layers[l]? <;> simp

theorem layout_nodeId {i : Nat} {n : Node} (hn : c.nodes[i]? = some n) :
    (LayoutGraph.ofChart c).id i = n.id := by
  rw [LayoutGraph.ofChart_id, hn]
  rfl

/-- Each placed node sits at its own slot of the reduced layers: at its order in its layer. -/
theorem layout_node_slot {i : Nat} {p : NodePlacement α}
    (hp : (layoutChart c s).layout.nodes[i]? = some p) :
    ((orderingOf c s).layers.getD p.layer #[]).toList[p.order]? = some i ∧
      (LayoutGraph.ofChart c).id i = p.nodeId := by
  obtain ⟨n, hn, -, hid, hlayer, horder⟩ := layout_node c s hp
  have hi : i < (LayoutGraph.ofChart c).nodeCount := by
    rw [LayoutGraph.ofChart_nodeCount]
    exact (List.getElem?_eq_some_iff.1 hn).1
  refine ⟨(orderingOf_getElem?_iff c s _ _ i).2 ⟨hi, hlayer.symm, horder.symm⟩, ?_⟩
  rw [hid, layout_nodeId c hn]

/-- The layout's layers, each node's layer and each node's order describe one partition: a
node is listed at its layer and order, every entry is the node placed there, and no two
nodes share a place. -/
theorem layout_nodes_layers :
    (∀ (i : Nat) (p : NodePlacement α), (layoutChart c s).layout.nodes[i]? = some p →
      p.layer = (layeringOf c).layerOf.getD i 0 ∧
        ((layoutChart c s).layout.layers[p.layer]?.bind (·[p.order]?)) = some p.nodeId) ∧
    (∀ (l k : Nat) (name : String),
      ((layoutChart c s).layout.layers[l]?.bind (·[k]?)) = some name →
      ∃ (i : Nat) (p : NodePlacement α), (layoutChart c s).layout.nodes[i]? = some p ∧
        p.layer = l ∧ p.order = k ∧ p.nodeId = name) ∧
    (∀ (i j : Nat) (p q : NodePlacement α), (layoutChart c s).layout.nodes[i]? = some p →
      (layoutChart c s).layout.nodes[j]? = some q → p.layer = q.layer → p.order = q.order →
        i = j) := by
  refine ⟨fun i p hp => ?_, fun l k name hname => ?_, fun i j p q hp hq hl ho => ?_⟩
  · obtain ⟨n, -, -, -, hlayer, -⟩ := layout_node c s hp
    obtain ⟨hat, hid⟩ := layout_node_slot c s hp
    rw [layout_entry, hat, Option.map_some, hid]
    exact ⟨hlayer, rfl⟩
  · rw [layout_entry] at hname
    obtain ⟨w, hw, hid⟩ := Option.map_eq_some_iff.1 hname
    obtain ⟨hwN, hlayer, hpos⟩ := (orderingOf_getElem?_iff c s l k w).1 hw
    have hwlen : w < (layoutChart c s).layout.nodes.length := by
      rw [layout_nodes_length, ← LayoutGraph.ofChart_nodeCount]
      exact hwN
    obtain ⟨p, hp⟩ : ∃ p, (layoutChart c s).layout.nodes[w]? = some p :=
      ⟨_, List.getElem?_eq_getElem hwlen⟩
    obtain ⟨n, hn, -, hpid, hplayer, hporder⟩ := layout_node c s hp
    refine ⟨w, p, hp, hplayer.trans hlayer, hporder.trans hpos, ?_⟩
    rw [hpid, ← layout_nodeId c hn, hid]
  · have hi := (layout_node_slot c s hp).1
    have hj := (layout_node_slot c s hq).1
    rw [hl, ho, hj] at hi
    exact (Option.some.inj hi).symm

end Agree

/-! ### Keys, routes and back edges -/

section Shape

variable (c : Flowchart) (s : LayoutConfig α)

omit [Scalar α] in
theorem mem_keys_foldl_positions {k : String} :
    ∀ (ps : List (NodePlacement α)) (m : SortedMap String (Point α)),
      k ∈ (ps.foldl (fun (m : SortedMap String (Point α)) p =>
        if m.contains p.nodeId then m else m.insert p.nodeId p.center) m).keys ↔
        k ∈ m.keys ∨ k ∈ ps.map (·.nodeId)
  | [], m => by simp
  | p :: ps, m => by
    rw [List.foldl_cons, mem_keys_foldl_positions ps, List.map_cons, List.mem_cons]
    split
    · next hcont =>
      -- the id is a key already
      have hp := SortedMap.contains_iff_mem_keys.1 hcont
      constructor
      · rintro (h | h)
        · exact .inl h
        · exact .inr (.inr h)
      · rintro (h | rfl | h)
        · exact .inl h
        · exact .inl hp
        · exact .inr h
    · rw [SortedMap.mem_keys_insert]
      constructor
      · rintro ((rfl | h) | h)
        · exact .inr (.inl rfl)
        · exact .inl h
        · exact .inr (.inr h)
      · rintro (h | rfl | h)
        · exact .inl (.inr h)
        · exact .inl (.inl rfl)
        · exact .inr h

/-- The positions are keyed by the node ids, each once. -/
theorem layout_positions_keys :
    (∀ k, k ∈ (layoutChart c s).layout.positions.keys ↔ k ∈ c.nodes.map (·.id)) ∧
      (layoutChart c s).layout.positions.keys.Nodup := by
  refine ⟨fun k => ?_, SortedMap.keys_nodup _⟩
  rw [layout_positions, mem_keys_foldl_positions, layout_nodeIds]
  simp

/-- The layout's layers list every node's id once. -/
theorem layout_layers_flatten_perm :
    (layoutChart c s).layout.layers.flatten.Perm (c.nodes.map (·.id)) := by
  have hids : (List.range (LayoutGraph.ofChart c).nodeCount).map (LayoutGraph.ofChart c).id =
      c.nodes.map (·.id) := by
    refine List.ext_getElem (by simp) fun i h₁ h₂ => ?_
    simp only [List.getElem_map, List.getElem_range]
    rw [layout_nodeId c (List.getElem?_eq_getElem (by simpa using h₂))]
  have hmap : ((orderingOf c s).layers.toList.map fun l => l.toList.map (LayoutGraph.ofChart c).id) =
      ((orderingOf c s).layers.toList.map Array.toList).map (List.map (LayoutGraph.ofChart c).id) := by
    rw [List.map_map]; rfl
  rw [layout_layers, ← hids, hmap, ← List.map_flatten]
  exact (orderingOf_flatten_perm c s).map _

/-- The back edges are listed in increasing order. -/
theorem layout_backEdges_increasing : (layoutChart c s).layout.backEdges.Pairwise (· < ·) := by
  rw [layout_backEdges, LayoutGraph.backEdges_eq]
  exact (LayoutGraph.edges_indexes_increasing _).sublist ((List.filter_sublist).map _)

end Shape

/-- The layering of any chart, dangling, parallel and self-loop edges and repeated ids
allowed, against the back edges of its graph: every node lies in exactly one layer and no
layer is empty; no node is seeded and the layers are those the peeling placed, with no
residue; each layer is sorted by id, ties by index; a node's layer is 0 without kept
in-edges and otherwise one more than the largest layer of their sources. The layout's layers,
each node's layer and each node's order then describe this one partition. -/
theorem layering_longest_path (c : Flowchart) (s : LayoutConfig α) :
    (layeringOf c).layers.flatten.Perm (List.range (LayoutGraph.ofChart c).nodeCount) ∧
    (∀ l ∈ (layeringOf c).layers, l ≠ []) ∧
    (layeringOf c).seeded = false ∧
    (layeringOf c).layers =
      (Peeling.run (LayoutGraph.ofChart c) (LayoutGraph.ofChart c).backEdges
        ((LayoutGraph.ofChart c).nodeCount + 1)
        ((LayoutGraph.ofChart c).sources (LayoutGraph.ofChart c).backEdges)
        (Peeling.start (LayoutGraph.ofChart c) (LayoutGraph.ofChart c).backEdges)).layers ∧
    (∀ l ∈ (layeringOf c).layers, l.Pairwise fun a b =>
      (LayoutGraph.ofChart c).id a < (LayoutGraph.ofChart c).id b ∨
        (LayoutGraph.ofChart c).id a = (LayoutGraph.ofChart c).id b ∧ a ≤ b) ∧
    (∀ v < (LayoutGraph.ofChart c).nodeCount,
      ((∀ e u, ¬(LayoutGraph.ofChart c).Kept (LayoutGraph.ofChart c).backEdges e u v) →
        (layeringOf c).layerOf.getD v 0 = 0) ∧
      (∀ e u, (LayoutGraph.ofChart c).Kept (LayoutGraph.ofChart c).backEdges e u v →
        (layeringOf c).layerOf.getD u 0 + 1 ≤ (layeringOf c).layerOf.getD v 0) ∧
      (∀ e u, (LayoutGraph.ofChart c).Kept (LayoutGraph.ofChart c).backEdges e u v →
        ∃ e' u', (LayoutGraph.ofChart c).Kept (LayoutGraph.ofChart c).backEdges e' u' v ∧
          (layeringOf c).layerOf.getD u' 0 + 1 = (layeringOf c).layerOf.getD v 0)) ∧
    (∀ (i : Nat) (p : NodePlacement α), (layoutChart c s).layout.nodes[i]? = some p →
      p.layer = (layeringOf c).layerOf.getD i 0 ∧
        ((layoutChart c s).layout.layers[p.layer]?.bind (·[p.order]?)) = some p.nodeId) ∧
    (∀ (l k : Nat) (name : String),
      ((layoutChart c s).layout.layers[l]?.bind (·[k]?)) = some name →
      ∃ (i : Nat) (p : NodePlacement α), (layoutChart c s).layout.nodes[i]? = some p ∧
        p.layer = l ∧ p.order = k ∧ p.nodeId = name) ∧
    (∀ (i j : Nat) (p q : NodePlacement α), (layoutChart c s).layout.nodes[i]? = some p →
      (layoutChart c s).layout.nodes[j]? = some q → p.layer = q.layer → p.order = q.order →
        i = j) := by
  obtain ⟨hseed, hrun, hlongest, hperm⟩ := layeringOf_spec c
  obtain ⟨hplaced, hentry, hinj⟩ := layout_nodes_layers c s
  have hg := LayoutGraph.ofChart_wellFormed c
  refine ⟨hperm, hlongest.nonempty, hseed, hrun,
    fun l hl => (hlongest.sorted l hl).imp LayoutGraph.idOrder_iff.1,
    fun v hv => ?_, hplaced, hentry, hinj⟩
  rw [layeringOf_layerOf]
  exact hlongest.layerIndex_eq hperm hg hv

end FlowLayout
