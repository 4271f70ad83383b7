import FlowLayout.Layout.Graph
import FlowLayout.Proofs.Graph
/-!
# Back edges leave an acyclic graph

The search marks a node finished only after every resolved edge leaving it was followed: its
target was explored to the end, was already finished, or was on the search path, in which
case the pair of the edge became a back key. So listing the nodes in the order they finish,
every edge that is not a back edge points to a node listed earlier. Reversed, the finishing
order numbers the nodes so that every edge outside the back edges climbs:
`backEdges_topological`.

The search is fuelled, and the proof also shows that the fuel is never used up: each nested
call starts at an unvisited node, so a call may be given one more unit of fuel than there are
unvisited nodes (`FinishOrder`, `explore_spec`).
-/

namespace FlowLayout

/-- A pair added to an increasing list of pairs is the pair or one of the list. -/
@[simp] theorem mem_insertPair {p q : Nat × Nat} {l : List (Nat × Nat)} :
    q ∈ insertPair p l ↔ q = p ∨ q ∈ l := by
  induction l with
  | nil => simp [insertPair]
  | cons r rest ih =>
    simp only [insertPair]
    split
    · simp
    · split
      · rename_i h
        have : p = r := beq_iff_eq.1 h
        subst this
        simp
      · simp only [List.mem_cons, ih]
        exact or_left_comm

namespace Search

/-- One edge of the node `n` under exploration: an unvisited target is explored, a target on
the path gives a back key. -/
def visitEdge (g : LayoutGraph) (fuel n : Nat) (s : Search) (e : Nat) : Search :=
  match g.ends e with
  | some (_, t) =>
    match s.at? t with
    | .unvisited => explore g fuel t s
    | .onPath => { s with keys := insertPair (n, t) s.keys }
    | .finished => s
  | none => s

/-- Exploring a node: mark it on the path, visit its edges, mark it finished. -/
theorem explore_succ (g : LayoutGraph) (fuel n : Nat) (s : Search) :
    explore g (fuel + 1) n s =
      let s' := (g.out n).foldl (visitEdge g fuel n)
        { s with visit := s.visit.setIfInBounds n .onPath }
      { s' with visit := s'.visit.setIfInBounds n .finished } := by
  rw [explore]; rfl

@[simp] theorem at?_setVisit (s : Search) (n v : Nat) (x : Visit) :
    ({ s with visit := s.visit.setIfInBounds n x } : Search).at? v =
      if n = v ∧ n < s.visit.size then x else s.at? v := by
  simp only [at?, Array.getD_eq_getD_getElem?, Array.getElem?_setIfInBounds]
  by_cases h : n = v
  · subst h
    by_cases h' : n < s.visit.size
    · simp [h']
    · simp [h']
  · simp [h]

/-- The number of nodes not visited yet. -/
def unvisitedCount (s : Search) : Nat := s.visit.count .unvisited

theorem at?_eq_getElem (s : Search) {v : Nat} (hv : v < s.visit.size) : s.at? v = s.visit[v] := by
  simp [at?, Array.getD_eq_getD_getElem?, hv]

/-- Marking an unvisited node leaves one fewer unvisited node. -/
theorem unvisitedCount_mark (s : Search) {n : Nat} {x : Visit} (hn : n < s.visit.size)
    (hv : s.at? n = .unvisited) (hx : x ≠ .unvisited) :
    unvisitedCount { s with visit := s.visit.setIfInBounds n x } + 1 = unvisitedCount s := by
  rw [at?_eq_getElem s hn] at hv
  have hpos : 0 < unvisitedCount s := by
    have := Array.boole_getElem_le_count (a := Visit.unvisited) hn
    simp only [hv, BEq.rfl, if_true] at this
    exact this
  simp only [unvisitedCount, Array.setIfInBounds_def, hn, dif_pos, Array.count_set, hv, BEq.rfl,
    if_true, beq_iff_eq, hx, if_false]
  unfold unvisitedCount at hpos
  omega

/-- Re-marking a visited node keeps the number of unvisited nodes. -/
theorem unvisitedCount_remark (s : Search) {n : Nat} {x : Visit} (hv : s.at? n ≠ .unvisited)
    (hx : x ≠ .unvisited) :
    unvisitedCount { s with visit := s.visit.setIfInBounds n x } = unvisitedCount s := by
  by_cases hn : n < s.visit.size
  · rw [at?_eq_getElem s hn] at hv
    simp [unvisitedCount, Array.setIfInBounds_def, hn, Array.count_set, hv, hx]
  · simp [unvisitedCount, Array.setIfInBounds_def, hn]

theorem unvisitedCount_pos (s : Search) {v : Nat} (hv : v < s.visit.size)
    (hu : s.at? v = .unvisited) : 0 < unvisitedCount s := by
  rw [at?_eq_getElem s hv] at hu
  have := Array.boole_getElem_le_count (a := Visit.unvisited) hv
  simp only [hu, BEq.rfl, if_true] at this
  exact this

/-! ### The invariant -/

/-- `order` lists the finished nodes in the order they finished, and every resolved edge
leaving a finished node is a back key or reaches a node that finished before it. -/
structure FinishOrder (g : LayoutGraph) (s : Search) (order : List Nat) : Prop where
  size : s.visit.size = g.nodeCount
  mem : ∀ v, v ∈ order ↔ v < g.nodeCount ∧ s.at? v = .finished
  nodup : order.Nodup
  closed : ∀ pre u post, order = pre ++ u :: post →
    ∀ e v, g.ends e = some (u, v) → (u, v) ∈ s.keys ∨ v ∈ pre

/-- What a finished call leaves as it was: keys only grow, the path is the same, finished
nodes stay finished, and unvisited nodes only get fewer. -/
structure Keeps (s s' : Search) : Prop where
  keys : ∀ k ∈ s.keys, k ∈ s'.keys
  onPath : ∀ v, s'.at? v = .onPath ↔ s.at? v = .onPath
  finished : ∀ v, s.at? v = .finished → s'.at? v = .finished
  count : unvisitedCount s' ≤ unvisitedCount s

theorem Keeps.refl (s : Search) : Keeps s s :=
  ⟨fun _ h => h, fun _ => Iff.rfl, fun _ h => h, Nat.le_refl _⟩

theorem Keeps.trans {s₁ s₂ s₃ : Search} (h₁ : Keeps s₁ s₂) (h₂ : Keeps s₂ s₃) : Keeps s₁ s₃ :=
  ⟨fun k hk => h₂.keys k (h₁.keys k hk), fun v => (h₂.onPath v).trans (h₁.onPath v),
    fun v hv => h₂.finished v (h₁.finished v hv), Nat.le_trans h₂.count h₁.count⟩

/-- A node appended to a finishing order splits it as the old order and itself, or splits the
old order. -/
theorem eq_append_cons_of_concat {order pre post : List Nat} {n u : Nat}
    (h : order ++ [n] = pre ++ u :: post) :
    (pre = order ∧ u = n) ∨ ∃ post', order = pre ++ u :: post' := by
  rcases List.eq_nil_or_concat post with rfl | ⟨post', z, rfl⟩
  · obtain ⟨h₁, h₂⟩ := List.append_inj' h rfl
    exact .inl ⟨h₁.symm, by simpa using h₂.symm⟩
  · have h' : order ++ [n] = (pre ++ u :: post') ++ [z] := by simpa using h
    exact .inr ⟨post', (List.append_inj' h' rfl).1⟩

variable {g : LayoutGraph}

/-- Recording a back key keeps the invariant. -/
theorem FinishOrder.addKey {s : Search} {order : List Nat} (h : FinishOrder g s order)
    (p : Nat × Nat) : FinishOrder g { s with keys := insertPair p s.keys } order where
  size := h.size
  mem := h.mem
  nodup := h.nodup
  closed pre u post ho e v he := (h.closed pre u post ho e v he).imp_left fun hk => by simp [hk]

/-- Marking an unvisited node on the path keeps the invariant. -/
theorem FinishOrder.markOnPath {s : Search} {order : List Nat} (h : FinishOrder g s order)
    {n : Nat} (hv : s.at? n = .unvisited) :
    FinishOrder g { s with visit := s.visit.setIfInBounds n .onPath } order where
  size := by simpa using h.size
  mem v := by
    rw [h.mem v, at?_setVisit]
    by_cases hnv : n = v ∧ n < s.visit.size
    · obtain ⟨rfl, hlt⟩ := hnv
      simp [hv, hlt]
    · simp [hnv]
  nodup := h.nodup
  closed := h.closed

/-- What exploring from a node does, for a given fuel. -/
def ExploreSpec (g : LayoutGraph) (fuel : Nat) : Prop :=
  ∀ (n : Nat) (s : Search) (order : List Nat), FinishOrder g s order → n < g.nodeCount →
    s.at? n = .unvisited → unvisitedCount s ≤ fuel →
    ∃ order', FinishOrder g (explore g (fuel + 1) n s) order' ∧ order <+: order' ∧
      (explore g (fuel + 1) n s).at? n = .finished ∧ Keeps s (explore g (fuel + 1) n s)

/-- One edge of a node on the path: afterwards its target is finished or its pair is a back
key. -/
theorem visitEdge_spec (hg : g.WellFormed) {fuel : Nat} (ih : ExploreSpec g fuel)
    {n e : Nat} {s : Search} {order : List Nat} (hinv : FinishOrder g s order)
    (hcount : unvisitedCount s ≤ fuel) :
    ∃ order', FinishOrder g (visitEdge g (fuel + 1) n s e) order' ∧ order <+: order' ∧
      Keeps s (visitEdge g (fuel + 1) n s e) ∧
      ∀ u t, g.ends e = some (u, t) →
        (n, t) ∈ (visitEdge g (fuel + 1) n s e).keys ∨
          (visitEdge g (fuel + 1) n s e).at? t = .finished := by
  unfold visitEdge
  cases hends : g.ends e with
  | none => exact ⟨order, hinv, List.prefix_refl _, Keeps.refl s, by simp⟩
  | some ends =>
    obtain ⟨u, t⟩ := ends
    simp only [Option.some.injEq, Prod.mk.injEq]
    have ht : t < g.nodeCount := (hg.ends_lt hends).2
    cases hvisit : s.at? t with
    | unvisited =>
      obtain ⟨order', hinv', hpre, hfin, hkeeps⟩ := ih t s order hinv ht hvisit hcount
      exact ⟨order', hinv', hpre, hkeeps, by rintro _ _ ⟨-, rfl⟩; exact .inr hfin⟩
    | onPath =>
      refine ⟨order, hinv.addKey (n, t), List.prefix_refl _, ⟨?_, fun v => ?_, fun v hv => ?_, ?_⟩,
        by rintro _ _ ⟨-, rfl⟩; exact .inl (by simp)⟩
      · intro k hk; simp [hk]
      · rfl
      · exact hv
      · exact Nat.le_refl _
    | finished => exact ⟨order, hinv, List.prefix_refl _, Keeps.refl s,
        by rintro _ _ ⟨-, rfl⟩; exact .inr hvisit⟩

/-- The edges of a node on the path, one after another. -/
theorem foldl_visitEdge_spec (hg : g.WellFormed) {fuel : Nat} (ih : ExploreSpec g fuel)
    (n : Nat) : ∀ (es : List Nat) (s : Search) (order : List Nat), FinishOrder g s order →
    unvisitedCount s ≤ fuel →
    ∃ order', FinishOrder g (es.foldl (visitEdge g (fuel + 1) n) s) order' ∧ order <+: order' ∧
      Keeps s (es.foldl (visitEdge g (fuel + 1) n) s) ∧
      ∀ e ∈ es, ∀ u t, g.ends e = some (u, t) →
        (n, t) ∈ (es.foldl (visitEdge g (fuel + 1) n) s).keys ∨
          (es.foldl (visitEdge g (fuel + 1) n) s).at? t = .finished
  | [], s, order, hinv, _ => ⟨order, hinv, List.prefix_refl _, Keeps.refl s, by simp⟩
  | e :: es, s, order, hinv, hcount => by
    obtain ⟨order₁, hinv₁, hpre₁, hkeeps₁, hdone₁⟩ := visitEdge_spec hg ih (n := n) (e := e) hinv hcount
    obtain ⟨order₂, hinv₂, hpre₂, hkeeps₂, hdone₂⟩ :=
      foldl_visitEdge_spec hg ih n es _ order₁ hinv₁ (Nat.le_trans hkeeps₁.count hcount)
    refine ⟨order₂, hinv₂, hpre₁.trans hpre₂, hkeeps₁.trans hkeeps₂, ?_⟩
    intro e' he' u t hends
    rw [List.foldl_cons]
    rcases List.mem_cons.1 he' with rfl | he'
    · rcases hdone₁ u t hends with hk | hf
      · exact .inl (hkeeps₂.keys _ hk)
      · exact .inr (hkeeps₂.finished _ hf)
    · exact hdone₂ e' he' u t hends

/-- Marking the explored node finished, once all its edges were visited, keeps the
invariant with the node appended to the finishing order. -/
theorem FinishOrder.markFinished (hg : g.WellFormed) {s : Search} {order : List Nat}
    (h : FinishOrder g s order) {n : Nat} (hn : n < g.nodeCount) (hpath : s.at? n = .onPath)
    (hdone : ∀ e ∈ g.out n, ∀ u t, g.ends e = some (u, t) → (n, t) ∈ s.keys ∨ s.at? t = .finished) :
    FinishOrder g { s with visit := s.visit.setIfInBounds n .finished } (order ++ [n]) where
  size := by simpa using h.size
  mem v := by
    have hsize : n < s.visit.size := by rw [h.size]; exact hn
    rw [at?_setVisit, List.mem_append, List.mem_singleton]
    by_cases hnv : n = v
    · subst hnv; simp [hn, hsize]
    · simp only [hnv, false_and, if_false, h.mem v]
      exact ⟨fun hv => hv.resolve_right (Ne.symm hnv), .inl⟩
  nodup := by
    refine List.nodup_append.2 ⟨h.nodup, by simp, ?_⟩
    intro a ha b hb hab
    rw [List.mem_singleton] at hb
    subst hab hb
    have := ((h.mem a).1 ha).2
    rw [hpath] at this
    cases this
  closed pre u post ho e v hends := by
    rcases eq_append_cons_of_concat ho with ⟨rfl, rfl⟩ | ⟨post', ho'⟩
    · have he : e ∈ g.out u := hg.mem_out.2 ⟨v, hends⟩
      rcases hdone e he u v hends with hk | hf
      · exact .inl hk
      · exact .inr ((h.mem v).2 ⟨(hg.ends_lt hends).2, hf⟩)
    · exact h.closed pre u post' ho' e v hends

/-- Exploring from an unvisited node with more fuel than unvisited nodes finishes it and
keeps the invariant, with the newly finished nodes appended to the order. -/
theorem exploreSpec (hg : g.WellFormed) : ∀ fuel, ExploreSpec g fuel
  | 0 => by
    intro n s order hinv hn hv hcount
    have := unvisitedCount_pos s (by rw [hinv.size]; exact hn) hv
    omega
  | fuel + 1 => by
    intro n s order hinv hn hv hcount
    have hsize : n < s.visit.size := by rw [hinv.size]; exact hn
    have hcount₁ : unvisitedCount { s with visit := s.visit.setIfInBounds n .onPath } ≤ fuel := by
      have := unvisitedCount_mark s hsize hv (x := .onPath) (by decide)
      omega
    obtain ⟨order₂, hinv₂, hpre₂, hkeeps₂, hdone₂⟩ := foldl_visitEdge_spec hg (exploreSpec hg fuel)
      n (g.out n) _ order (hinv.markOnPath hv) hcount₁
    rw [explore_succ]
    dsimp only
    have hpath₁ : ({ s with visit := s.visit.setIfInBounds n .onPath } : Search).at? n = .onPath := by
      simp [hsize]
    generalize (g.out n).foldl (visitEdge g (fuel + 1) n)
      { s with visit := s.visit.setIfInBounds n .onPath } = s₂ at hinv₂ hkeeps₂ hdone₂
    have hpath₂ : s₂.at? n = .onPath := (hkeeps₂.onPath n).2 hpath₁
    refine ⟨order₂ ++ [n], hinv₂.markFinished hg hn hpath₂ hdone₂,
      hpre₂.trans (List.prefix_append _ _), by simp [hinv₂.size, hn], ?_⟩
    have hsize₂ : n < s₂.visit.size := by rw [hinv₂.size]; exact hn
    refine ⟨fun k hk => hkeeps₂.keys k hk, fun v => ?_, fun v hfin => ?_, ?_⟩
    · by_cases hnv : n = v
      · subst hnv; simp [hsize₂, hv]
      · have := hkeeps₂.onPath v
        simp only [at?_setVisit, hnv, false_and, if_false] at this ⊢
        exact this
    · have hnv : n ≠ v := by rintro rfl; rw [hv] at hfin; cases hfin
      have := hkeeps₂.finished v (by simp [hnv, hfin])
      simp [hnv, this]
    · have h₁ := unvisitedCount_mark s hsize hv (x := .onPath) (by decide)
      have h₃ := unvisitedCount_remark s₂ (n := n) (x := .finished) (by rw [hpath₂]; decide)
        (by decide)
      have h₂ := hkeeps₂.count
      omega

end Search

namespace LayoutGraph

open Search

variable {g : LayoutGraph}

/-- The search over all roots that `backEdges` runs. -/
def search (g : LayoutGraph) : Search :=
  (List.range g.nodeCount).foldl (fun s root =>
    if s.at? root == .unvisited then Search.explore g (g.nodeCount + 1) root s else s)
    { visit := Array.replicate g.nodeCount .unvisited, keys := [] }

theorem backEdges_eq (g : LayoutGraph) : g.backEdges =
    { keys := g.search.keys
      edges := (g.edges.filter fun (_, src, tgt) => g.search.keys.contains (src, tgt)).map (·.1) } :=
  rfl

/-- One root: explored if still unvisited, and finished afterwards. -/
theorem root_spec (hg : g.WellFormed) {r : Nat} {s : Search} {order : List Nat}
    (hinv : FinishOrder g s order) (hpath : ∀ v, s.at? v ≠ .onPath)
    (hcount : unvisitedCount s ≤ g.nodeCount) (hr : r < g.nodeCount) :
    ∃ order₁, FinishOrder g (if s.at? r == .unvisited then
        explore g (g.nodeCount + 1) r s else s) order₁ ∧
      Keeps s (if s.at? r == .unvisited then explore g (g.nodeCount + 1) r s else s) ∧
      (if s.at? r == .unvisited then explore g (g.nodeCount + 1) r s else s).at? r =
        .finished := by
  by_cases hv : s.at? r = .unvisited
  · obtain ⟨order₁, hinv₁, -, hfin, hkeeps⟩ :=
      exploreSpec hg g.nodeCount r s order hinv hr hv hcount
    simp only [hv, BEq.rfl, if_true]
    exact ⟨order₁, hinv₁, hkeeps, hfin⟩
  · have hfin : s.at? r = .finished := by
      cases h : s.at? r
      · exact absurd h hv
      · exact absurd h (hpath r)
      · rfl
    rw [if_neg (by rw [hfin]; decide)]
    exact ⟨order, hinv, Keeps.refl s, hfin⟩

/-- The roots, one after another: every root is finished and the path is empty between
roots. -/
theorem foldl_roots_spec (hg : g.WellFormed) : ∀ (roots : List Nat) (s : Search)
    (order : List Nat), FinishOrder g s order → (∀ v, s.at? v ≠ .onPath) →
    unvisitedCount s ≤ g.nodeCount → (∀ r ∈ roots, r < g.nodeCount) →
    ∃ order', FinishOrder g (roots.foldl (fun s root =>
        if s.at? root == .unvisited then explore g (g.nodeCount + 1) root s else s) s) order' ∧
      Keeps s (roots.foldl (fun s root =>
        if s.at? root == .unvisited then explore g (g.nodeCount + 1) root s else s) s) ∧
      ∀ r ∈ roots, (roots.foldl (fun s root =>
        if s.at? root == .unvisited then explore g (g.nodeCount + 1) root s else s) s).at? r =
          .finished
  | [], s, order, hinv, _, _, _ => ⟨order, hinv, Keeps.refl s, by simp⟩
  | r :: roots, s, order, hinv, hpath, hcount, hroots => by
    obtain ⟨order₁, hinv₁, hkeeps₁, hfin₁⟩ :=
      root_spec hg hinv hpath hcount (hroots r (List.mem_cons_self ..))
    obtain ⟨order₂, hinv₂, hkeeps₂, hdone₂⟩ := foldl_roots_spec hg roots _ order₁ hinv₁
      (fun v hv => hpath v ((hkeeps₁.onPath v).1 hv)) (Nat.le_trans hkeeps₁.count hcount)
      (fun r' hr' => hroots r' (List.mem_cons_of_mem r hr'))
    refine ⟨order₂, hinv₂, hkeeps₁.trans hkeeps₂, fun r' hr' => ?_⟩
    rw [List.foldl_cons]
    rcases List.mem_cons.1 hr' with rfl | hr'
    · exact hkeeps₂.finished r' hfin₁
    · exact hdone₂ r' hr'

/-- Before the search every node is unvisited. -/
theorem at?_start (n v : Nat) :
    ({ visit := Array.replicate n .unvisited, keys := [] } : Search).at? v =
      if v < n then .unvisited else .finished := by
  simp only [at?, Array.getD_eq_getD_getElem?, Array.getElem?_replicate]
  split <;> rfl

/-- After the search every node is finished, and the finishing order lists them all. -/
theorem search_spec (hg : g.WellFormed) :
    ∃ order, FinishOrder g g.search order ∧ ∀ v, v < g.nodeCount → v ∈ order := by
  have hstart : FinishOrder g { visit := Array.replicate g.nodeCount .unvisited, keys := [] } [] :=
    ⟨by simp, fun v => by rw [at?_start]; split <;> simp_all, List.nodup_nil,
      fun pre u post h => by simp at h⟩
  obtain ⟨order, hinv, -, hfin⟩ := foldl_roots_spec hg (List.range g.nodeCount) _ [] hstart
    (fun v => by rw [at?_start]; split <;> decide) (by simp [unvisitedCount])
    (fun r hr => List.mem_range.1 hr)
  exact ⟨order, hinv, fun v hv => (hinv.mem v).2 ⟨hv, hfin v (List.mem_range.2 hv)⟩⟩

theorem mem_backEdges_iff {e : Nat} :
    e ∈ g.backEdges.edges ↔ ∃ u v, g.ends e = some (u, v) ∧ (u, v) ∈ g.search.keys := by
  rw [backEdges_eq]
  simp only [List.mem_map, List.mem_filter, List.contains_iff_mem]
  constructor
  · rintro ⟨⟨e', u, v⟩, ⟨hmem, hkey⟩, rfl⟩
    exact ⟨u, v, mem_edges.1 hmem, hkey⟩
  · rintro ⟨u, v, hends, hkey⟩
    exact ⟨(e, u, v), ⟨mem_edges.2 hends, hkey⟩, rfl⟩

/-- A resolved edge is a back edge exactly when its pair is a back key. -/
theorem backEdges_contains_iff {e u v : Nat} (h : g.ends e = some (u, v)) :
    g.backEdges.contains e = true ↔ (u, v) ∈ g.search.keys := by
  rw [BackEdges.contains, List.contains_iff_mem, mem_backEdges_iff]
  constructor
  · rintro ⟨u', v', h', hkey⟩
    rw [h] at h'
    cases h'
    exact hkey
  · exact fun hkey => ⟨u, v, h, hkey⟩

/-- The resolved edges that are not back edges can be numbered so that every one of them
climbs: they form an acyclic graph. -/
theorem backEdges_topological (hg : g.WellFormed) :
    ∃ rank : Nat → Nat, ∀ e u v, g.ends e = some (u, v) → g.backEdges.contains e = false →
      rank u < rank v := by
  obtain ⟨order, hinv, hall⟩ := search_spec hg
  refine ⟨fun x => order.length - order.idxOf x, fun e u v hends hback => ?_⟩
  obtain ⟨pre, post, horder⟩ := List.append_of_mem (hall u (hg.ends_lt hends).1)
  have hv : v ∈ pre := by
    rcases hinv.closed pre u post horder e v hends with hkey | hv
    · rw [← backEdges_contains_iff hends, hback] at hkey
      cases hkey
    · exact hv
  have hu : u ∉ pre := by
    have := hinv.nodup
    rw [horder] at this
    intro hmem
    exact (List.nodup_append.1 this).2.2 u hmem u (List.mem_cons_self ..) rfl
  have hidx_u : order.idxOf u = pre.length := by
    rw [horder, List.idxOf_append, if_neg (by simpa using hu)]
    simp
  have hidx_v : order.idxOf v < pre.length := by
    rw [horder, List.idxOf_append, if_pos (by simpa using hv)]
    exact List.idxOf_lt_length_of_mem hv
  have hlen : pre.length ≤ order.length := by rw [horder]; simp
  show order.length - order.idxOf u < order.length - order.idxOf v
  omega

end LayoutGraph

end FlowLayout
