import FlowLayout.Drawing
import FlowLayout.Geometry.Scalar
import FlowLayout.Proofs.Builder
import FlowLayout.Proofs.Pipeline
/-!
# The drawing of a flowchart text

A text whose kind is flowchart is read into a consistent chart (`consistent_parseFlowchart`),
and the layout of a consistent chart covers it exactly (`Drawing.LaysOut`): the positions are
keyed by the node ids, once each; every edge has one route, in edge order, since every edge of
a consistent chart resolves to two nodes; the layers list every id once; the back edges
increase, and a route is flagged as a back edge exactly when its edge is one.
-/

namespace FlowLayout

variable {α : Type} [Scalar α]

/-- A drawing lays out a chart: positions keyed by the node ids, one route per edge in edge
order, layers that list every id once, increasing back edges and routes flagged by them. -/
structure Drawing.LaysOut (d : Drawing α) (c : Flowchart) : Prop where
  positions_keys : ∀ k, k ∈ d.positions.keys ↔ k ∈ c.nodes.map (·.id)
  positions_nodup : d.positions.keys.Nodup
  route_indexes : d.routedEdges.map (·.edgeIndex) = List.range c.edges.length
  layers_perm : d.layers.flatten.Perm (c.nodes.map (·.id))
  backEdges_increasing : d.backEdges.Pairwise (· < ·)
  backEdge_iff : ∀ r ∈ d.routedEdges, r.backEdge = true ↔ r.edgeIndex ∈ d.backEdges

/-- Every edge of a consistent chart joins two of its nodes in the layout graph. -/
theorem Flowchart.Consistent.resolved {c : Flowchart} (hc : c.Consistent) :
    ∀ e < (LayoutGraph.ofChart c).edgeCount, ((LayoutGraph.ofChart c).ends e).isSome := by
  intro e he
  rw [LayoutGraph.ofChart_edgeCount] at he
  have hed : c.edges[e]? = some c.edges[e] := List.getElem?_eq_getElem he
  have hmem := List.getElem_mem he
  exact LayoutGraph.ofChart_ends_isSome c hed (List.mem_map.1 (hc.source _ hmem))
    (List.mem_map.1 (hc.target _ hmem))

section Layout

variable (c : Flowchart) (s : LayoutConfig α)

/-- A route is flagged as a back edge exactly when its edge is one of the layout's back
edges. -/
theorem layout_backEdge_iff {r : RoutedEdge α} (hr : r ∈ (layoutChart c s).layout.routedEdges) :
    r.backEdge = true ↔ r.edgeIndex ∈ (layoutChart c s).layout.backEdges := by
  have hpair : (r.edgeIndex, r.backEdge) ∈ (LayoutGraph.ofChart c).edges.map
      fun x => (x.1, (LayoutGraph.ofChart c).backEdges.contains x.1) := by
    rw [← layout_routedEdges_indexes c s]
    exact List.mem_map_of_mem hr
  obtain ⟨x, -, hx⟩ := List.mem_map.1 hpair
  simp only [Prod.mk.injEq] at hx
  rw [← hx.1, ← hx.2, layout_backEdges, BackEdges.contains, List.contains_iff_mem]

/-- With every edge resolved, the routes are numbered by the edges, in order. -/
theorem layout_route_indexes (hc : c.Consistent) :
    (layoutChart c s).layout.routedEdges.map (·.edgeIndex) = List.range c.edges.length := by
  have h := congrArg (List.map Prod.fst) (layout_routedEdges_indexes c s)
  rw [List.map_map, List.map_map] at h
  rw [← LayoutGraph.ofChart_edgeCount, ← LayoutGraph.edges_indexes_of_resolved hc.resolved]
  exact h

end Layout

/-- The drawing of a parsed flowchart is the layout of its chart. -/
theorem Drawing.laysOut_ofParse {parsed : ParseResult} {c : Flowchart}
    (hp : parsed.diagram = .flowchart c) (hc : c.Consistent) (config : LayoutConfig α) :
    (Drawing.ofParse parsed config).LaysOut c := by
  unfold Drawing.ofParse
  rw [hp]
  obtain ⟨hkeys, hnodup⟩ := layout_positions_keys c config
  exact
    { positions_keys := hkeys
      positions_nodup := hnodup
      route_indexes := layout_route_indexes c config hc
      layers_perm := layout_layers_flatten_perm c config
      backEdges_increasing := layout_backEdges_increasing c config
      backEdge_iff := fun _ hr => layout_backEdge_iff c config hr }

theorem parseDiagram_of_flowchart {input : String} (h : DiagramKind.detect input = .flowchart) :
    (parseDiagram input).diagram = .flowchart (Syntax.parseFlowchart input).1 := by
  unfold parseDiagram
  rw [h]

/-- A flowchart text is read into a chart whose ids are distinct, non-empty and without
blanks and whose edges join known ids; under any settings its drawing lays that chart out. -/
theorem flowchart_drawing_laysOut (input : String) (config : LayoutConfig α)
    (h : DiagramKind.detect input = .flowchart) :
    ∃ c, (parseDiagram input).diagram = .flowchart c ∧ c.Consistent ∧
      (Drawing.ofText input config).LaysOut c :=
  have hp := parseDiagram_of_flowchart h
  have hc := Syntax.consistent_parseFlowchart input
  ⟨_, hp, hc, Drawing.laysOut_ofParse hp hc config⟩

theorem flowchart_drawing_laysOut_two_nodes :
    DiagramKind.detect "graph TD\nA-->B" = .flowchart ∧
      ∃ c, (parseDiagram "graph TD\nA-->B").diagram = .flowchart c ∧ c.Consistent ∧
        (Drawing.ofText "graph TD\nA-->B" (LayoutConfig.default : LayoutConfig Float32)).LaysOut c :=
  have h : DiagramKind.detect "graph TD\nA-->B" = .flowchart := by decide +kernel
  ⟨h, flowchart_drawing_laysOut _ _ h⟩

end FlowLayout
