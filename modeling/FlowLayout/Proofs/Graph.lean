import FlowLayout.Layout.Graph
/-!
# The graph of a chart, read back

`LayoutGraph.ofChart` numbers nodes and edges and keeps, for every edge, the first nodes its
ends name. This module states what that construction yields, so that the layout stages can
be reasoned about without unfolding it:

* `mem_edges`: the resolved edges are exactly the edges whose ends resolve, and
  `edges_indexes_increasing` says they are listed in edge order;
* `WellFormed`: ends lie below the node count and `out n` lists the resolved edges leaving
  `n`, in edge order; `ofChart_wellFormed` proves it of every chart;
* `ofChart_nodeCount`, `ofChart_edgeCount`, `ofChart_id`, `ofChart_ends`: counts, ids and ends
  in terms of the chart.
-/

namespace FlowLayout

/-- A fold of updates that each keep an array's size keeps it: the tables of the layout stages
are filled by such folds. -/
theorem size_foldl_of_size {β γ : Type} {f : Array β → γ → Array β}
    (hf : ∀ a x, (f a x).size = a.size) : ∀ (l : List γ) (a : Array β), (l.foldl f a).size = a.size
  | [], _ => rfl
  | x :: l, a => (size_foldl_of_size hf l (f a x)).trans (hf a x)

namespace LayoutGraph

/-! ### Resolved edges -/

theorem mem_edges {g : LayoutGraph} {e s t : Nat} :
    (e, s, t) ∈ g.edges ↔ g.ends e = some (s, t) := by
  simp only [edges, List.mem_filterMap, List.mem_zipIdx_iff_getElem?, ends,
    Array.getD_eq_getD_getElem?, Array.getElem?_toList]
  constructor
  · rintro ⟨⟨ep, i⟩, hi, h⟩
    cases ep with
    | none => simp at h
    | some p =>
      simp only [Option.map_some, Option.some.injEq, Prod.mk.injEq] at h hi
      obtain ⟨rfl, rfl, rfl⟩ := h
      simp [hi]
  · intro h
    cases hep : g.endpoints[e]? with
    | none => simp [hep] at h
    | some ep =>
      simp only [hep, Option.getD_some] at h
      exact ⟨(ep, e), by simpa using hep, by simp [h]⟩

/-- Filtering a numbered list keeps the numbers increasing. -/
private theorem pairwise_lt_filterMap_zipIdx {β γ : Type} (f : β × Nat → Option γ)
    (idx : γ → Nat) (hf : ∀ x c, f x = some c → idx c = x.2) :
    ∀ (l : List β) (k : Nat), (((l.zipIdx k).filterMap f).map idx).Pairwise (· < ·)
  | [], _ => by simp
  | b :: l, k => by
    have ih := pairwise_lt_filterMap_zipIdx f idx hf l (k + 1)
    have hbig : ∀ c ∈ (l.zipIdx (k + 1)).filterMap f, k < idx c := by
      intro c hc
      obtain ⟨x, hx, hfx⟩ := List.mem_filterMap.1 hc
      rw [hf x c hfx]
      exact (List.mem_zipIdx hx).1
    rw [List.zipIdx_cons, List.filterMap_cons]
    cases hb : f (b, k) with
    | none => exact ih
    | some c =>
      rw [List.map_cons, List.pairwise_cons]
      refine ⟨fun j hj => ?_, ih⟩
      obtain ⟨c', hc', rfl⟩ := List.mem_map.1 hj
      rw [hf _ c hb]
      exact hbig c' hc'

/-- The resolved edges are listed in edge order, each once. -/
theorem edges_indexes_increasing (g : LayoutGraph) : (g.edges.map (·.1)).Pairwise (· < ·) := by
  apply pairwise_lt_filterMap_zipIdx
  rintro ⟨ep, i⟩ c h
  cases ep with
  | none => simp at h
  | some p => simp only [Option.map_some, Option.some.injEq] at h; rw [← h]

theorem edges_nodup (g : LayoutGraph) : g.edges.Nodup :=
  (List.pairwise_map.1 g.edges_indexes_increasing).imp fun h he =>
    Nat.ne_of_lt h (congrArg Prod.fst he)

private theorem map_fst_filterMap_zipIdx :
    ∀ (l : List (Option (Nat × Nat))) (k : Nat), (∀ x ∈ l, x.isSome) →
      ((l.zipIdx k).filterMap fun (ep, i) => ep.map fun (s, t) => (i, s, t)).map (·.1) =
        List.range' k l.length
  | [], _, _ => rfl
  | x :: l, k, h => by
    obtain ⟨p, rfl⟩ := Option.isSome_iff_exists.1 (h x (List.mem_cons_self ..))
    have ih := map_fst_filterMap_zipIdx l (k + 1) fun y hy => h y (List.mem_cons_of_mem _ hy)
    rw [List.zipIdx_cons, List.filterMap_cons]
    simp only [Option.map_some, List.map_cons, ih, List.length_cons, List.range'_succ]

/-- When every edge resolves, the resolved edges are all the edges, in order. -/
theorem edges_indexes_of_resolved {g : LayoutGraph} (h : ∀ e < g.edgeCount, (g.ends e).isSome) :
    g.edges.map (·.1) = List.range g.edgeCount := by
  rw [edges, map_fst_filterMap_zipIdx, List.range_eq_range', Array.length_toList]
  · rfl
  intro x hx
  obtain ⟨e, he, rfl⟩ := List.getElem_of_mem hx
  have hends : g.ends e = g.endpoints[e] := by
    simp [ends, Array.getD_eq_getD_getElem?, Array.getElem?_eq_getElem (by simpa using he)]
  rw [Array.getElem_toList, ← hends]
  exact h e (by simpa [edgeCount] using he)

/-! ### Well-formed graphs -/

/-- What the layout stages rely on: ends are nodes, and `out n` lists the resolved edges
leaving `n` in edge order. -/
structure WellFormed (g : LayoutGraph) : Prop where
  ends_lt : ∀ {e s t}, g.ends e = some (s, t) → s < g.nodeCount ∧ t < g.nodeCount
  out_eq : ∀ n, g.out n = (g.edges.filter (·.2.1 == n)).map (·.1)

variable {g : LayoutGraph}

theorem WellFormed.mem_out (hg : g.WellFormed) {n e : Nat} :
    e ∈ g.out n ↔ ∃ t, g.ends e = some (n, t) := by
  rw [hg.out_eq]
  constructor
  · intro h
    obtain ⟨⟨e', s, t⟩, hfilter, rfl⟩ := List.mem_map.1 h
    obtain ⟨hmem, hs⟩ := List.mem_filter.1 hfilter
    obtain rfl : s = n := beq_iff_eq.1 hs
    exact ⟨t, mem_edges.1 hmem⟩
  · rintro ⟨t, h⟩
    exact List.mem_map.2 ⟨(e, n, t), List.mem_filter.2 ⟨mem_edges.2 h, by simp⟩, rfl⟩

theorem WellFormed.out_nodup (hg : g.WellFormed) (n : Nat) : (g.out n).Nodup := by
  rw [hg.out_eq]
  exact ((g.edges_indexes_increasing.sublist
    (List.Sublist.map _ List.filter_sublist)).imp Nat.ne_of_lt)

/-! ### The order by id, then index -/

theorem idOrder_iff {a b : Nat} : g.idOrder a b = true ↔ g.id a < g.id b ∨ g.id a = g.id b ∧ a ≤ b := by
  simp [idOrder]

theorem idOrder_trans (a b c : Nat) (hab : g.idOrder a b = true) (hbc : g.idOrder b c = true) :
    g.idOrder a c = true := by
  rw [idOrder_iff] at *
  rcases hab with hab | ⟨hab, hab'⟩ <;> rcases hbc with hbc | ⟨hbc, hbc'⟩
  · exact .inl (String.lt_trans hab hbc)
  · exact .inl (hbc ▸ hab)
  · exact .inl (hab ▸ hbc)
  · exact .inr ⟨hab.trans hbc, Nat.le_trans hab' hbc'⟩

theorem idOrder_total (a b : Nat) : (g.idOrder a b || g.idOrder b a) = true := by
  rw [Bool.or_eq_true, idOrder_iff, idOrder_iff]
  by_cases hab : g.id a < g.id b
  · exact .inl (.inl hab)
  · by_cases hba : g.id b < g.id a
    · exact .inr (.inl hba)
    · have heq : g.id a = g.id b :=
        String.le_antisymm (String.not_lt.1 hba) (String.not_lt.1 hab)
      rcases Nat.le_total a b with h | h
      · exact .inl (.inr ⟨heq, h⟩)
      · exact .inr (.inr ⟨heq.symm, h⟩)

theorem idOrder_antisymm {a b : Nat} (hab : g.idOrder a b = true) (hba : g.idOrder b a = true) :
    a = b := by
  rw [idOrder_iff] at hab hba
  rcases hab with hab | ⟨hab, hab'⟩
  · rcases hba with hba | ⟨hba, -⟩
    · exact absurd hba (String.lt_asymm hab)
    · exact absurd hab (hba ▸ String.lt_irrefl _)
  · rcases hba with hba | ⟨-, hba'⟩
    · exact absurd hba (hab ▸ String.lt_irrefl _)
    · omega

theorem sortById_perm (nodes : List Nat) : (g.sortById nodes).Perm nodes := List.mergeSort_perm _ _

theorem sortById_sorted (nodes : List Nat) :
    (g.sortById nodes).Pairwise fun a b => g.idOrder a b = true :=
  List.pairwise_mergeSort idOrder_trans idOrder_total nodes

/-! ### The graph of a chart -/

variable (c : Flowchart)

@[simp] theorem ofChart_nodeCount : (ofChart c).nodeCount = c.nodes.length := by
  simp [ofChart, nodeCount]

@[simp] theorem ofChart_edgeCount : (ofChart c).edgeCount = c.edges.length := by
  simp [ofChart, edgeCount]

theorem ofChart_id (i : Nat) : (ofChart c).id i = ((c.nodes[i]?).map (·.id)).getD "" := by
  simp [ofChart, id, Array.getD_eq_getD_getElem?]

/-- An edge's ends are the first nodes with its end ids. -/
theorem ofChart_ends (e : Nat) :
    (ofChart c).ends e = (c.edges[e]?).bind fun ed =>
      (c.findNodeIndex ed.source).bind fun s => (c.findNodeIndex ed.target).map fun t => (s, t) := by
  simp only [ofChart, ends, Array.getD_eq_getD_getElem?, Array.getElem?_map,
    List.getElem?_toArray, Flowchart.findNodeIndex, Array.findIdx?_map, List.findIdx?_toArray,
    Function.comp_def]
  cases c.edges[e]? with
  | none => rfl
  | some ed =>
    simp only [Option.map_some, Option.getD_some, Option.bind_some]
    cases List.findIdx? (fun x => x.id == ed.source) c.nodes <;>
      cases List.findIdx? (fun x => x.id == ed.target) c.nodes <;> rfl


/-- The outgoing lists built by folding numbered edge ends. -/
private theorem getD_foldl_outgoing (n : Nat) :
    ∀ (L : List (Option (Nat × Nat) × Nat)) (out : Array (List Nat)), n < out.size →
    (L.foldl (fun (out : Array (List Nat)) (ep, i) =>
      match ep with
      | some (s, _) => out.modify s (· ++ [i])
      | none => out) out).getD n [] =
      out.getD n [] ++ ((L.filterMap fun (ep, i) => ep.map fun (s, t) => (i, s, t)).filter
        (·.2.1 == n)).map (·.1)
  | [], out, _ => by simp
  | (ep, i) :: L, out, hn => by
    rw [List.foldl_cons, List.filterMap_cons]
    cases ep with
    | none => exact getD_foldl_outgoing n L out hn
    | some p =>
      obtain ⟨s, t⟩ := p
      rw [getD_foldl_outgoing n L _ (by simpa using hn)]
      simp only [Array.getD_eq_getD_getElem?, Array.getElem?_modify, Option.map_some,
        List.filter_cons]
      by_cases h : s = n
      · subst h; simp [hn]
      · simp [h]

/-- One outgoing list per node. -/
theorem ofChart_outgoing_size :
    (ofChart c).outgoing.size = (ofChart c).nodeCount :=
  (size_foldl_of_size (fun _ x => by rcases x with ⟨_ | _, _⟩ <;> simp) _ _).trans
    Array.size_replicate

theorem ofChart_wellFormed (c : Flowchart) : (ofChart c).WellFormed := by
  have ends_lt : ∀ {e s t}, (ofChart c).ends e = some (s, t) →
      s < (ofChart c).nodeCount ∧ t < (ofChart c).nodeCount := by
    intro e s t h
    rw [ofChart_ends] at h
    simp only [Option.bind_eq_some_iff, Option.map_eq_some_iff, Prod.mk.injEq] at h
    obtain ⟨ed, -, s', hs, t', ht, rfl, rfl⟩ := h
    simp only [ofChart_nodeCount]
    exact ⟨(List.findIdx?_eq_some_iff_getElem.1 hs).1, (List.findIdx?_eq_some_iff_getElem.1 ht).1⟩
  -- the outgoing lists are the fold of `getD_foldl_outgoing`, started from empty lists
  have houtgoing : (ofChart c).outgoing =
      (ofChart c).endpoints.toList.zipIdx.foldl (fun (out : Array (List Nat)) (ep, i) =>
      match ep with
      | some (s, _) => out.modify s (· ++ [i])
      | none => out) (Array.replicate (ofChart c).nodeCount []) := rfl
  refine ⟨ends_lt, fun n => ?_⟩
  by_cases hn : n < (ofChart c).nodeCount
  · rw [out, houtgoing, getD_foldl_outgoing n _ _ (by simpa using hn)]
    simp only [ofChart_nodeCount] at hn
    simp [edges, Array.getD_eq_getD_getElem?, hn]
  · have hnone : (ofChart c).edges.filter (·.2.1 == n) = [] := by
      refine List.filter_eq_nil_iff.2 fun ⟨e, s, t⟩ hmem hs => ?_
      have := (ends_lt (mem_edges.1 hmem)).1
      simp only [beq_iff_eq] at hs
      omega
    have hsize := ofChart_outgoing_size c
    rw [hnone, out, Array.getD_eq_getD_getElem?, Array.getElem?_eq_none (by omega)]
    rfl

/-- An edge whose two end ids name nodes resolves. -/
theorem ofChart_ends_isSome {e : Nat} {ed : Edge} (he : c.edges[e]? = some ed)
    (hs : ∃ n ∈ c.nodes, n.id = ed.source) (ht : ∃ n ∈ c.nodes, n.id = ed.target) :
    ((ofChart c).ends e).isSome := by
  have hfind : ∀ {id : String}, (∃ n ∈ c.nodes, n.id = id) → (c.findNodeIndex id).isSome := by
    intro id ⟨n, hn, hid⟩
    rw [Flowchart.findNodeIndex, List.findIdx?_isSome, List.any_eq_true]
    exact ⟨n, hn, by simp [hid]⟩
  obtain ⟨s, hs'⟩ := Option.isSome_iff_exists.1 (hfind hs)
  obtain ⟨t, ht'⟩ := Option.isSome_iff_exists.1 (hfind ht)
  rw [ofChart_ends, he]
  simp [hs', ht']

end LayoutGraph

end FlowLayout
