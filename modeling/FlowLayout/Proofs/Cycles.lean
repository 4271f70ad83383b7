import Mathlib.Data.List.Chain
import FlowLayout.Proofs.BackEdges
/-!
# Back edges break the cycles and only them

The back edges of a chart's graph break its cycles and nothing more
(`chart_backEdges_breakCycles`): the resolved edges outside them form an acyclic graph, every
self-loop is one of them, each of them closes a cycle through edges outside them, and parallel
copies of an edge are all back edges or none. So a chart has no back edge exactly when its
graph is acyclic (`BreaksCycles.eq_nil_iff`).

Acyclicity comes from the finishing order of the search (`backEdges_topological`). That a back
edge closes a cycle needs one more invariant of the search, `PathInv`: the nodes on the search
path are the frames of a stack, each frame joined to the one below by its tree pair (the pair of
the edge that discovered it), a tree pair never becomes a back key, and every back key `(u, v)`
has a chain of tree pairs from `v` to `u`. A key `(n, t)` is recorded while `n` is the top frame
and `t` lies below it, so the stack is that chain; a tree pair `(n, t)` cannot be recorded,
since `t` is on the path only while it is the frame right above `n`.
-/

namespace FlowLayout

namespace LayoutGraph

/-- `u` reaches `v` in one step along a resolved edge that `keep` admits. -/
def Step (g : LayoutGraph) (keep : Nat → Prop) (u v : Nat) : Prop :=
  ∃ e, g.ends e = some (u, v) ∧ keep e

/-- No node reaches itself along the resolved edges that `keep` admits. -/
def Acyclic (g : LayoutGraph) (keep : Nat → Prop) : Prop :=
  ∀ u, ¬ Relation.TransGen (g.Step keep) u u

/-- A set of edges that breaks every cycle of the resolved graph, and holds only edges that
close a cycle. -/
structure BreaksCycles (g : LayoutGraph) (B : List Nat) : Prop where
  /-- The resolved edges outside `B` form an acyclic graph. -/
  acyclic : g.Acyclic (· ∉ B)
  /-- Every self-loop is in `B`. -/
  selfLoop : ∀ e u, g.ends e = some (u, u) → e ∈ B
  /-- Every edge of `B` is resolved, and edges outside `B` lead back from its target to its
  source. -/
  closes : ∀ e ∈ B, ∃ u v, g.ends e = some (u, v) ∧ Relation.ReflTransGen (g.Step (· ∉ B)) v u
  /-- Edges with the same ends are in `B` together. -/
  parallel : ∀ e e' u v, g.ends e = some (u, v) → g.ends e' = some (u, v) → (e ∈ B ↔ e' ∈ B)

variable {g : LayoutGraph}

theorem Step.mono {keep keep' : Nat → Prop} (h : ∀ e, keep e → keep' e) {u v : Nat}
    (hs : g.Step keep u v) : g.Step keep' u v :=
  let ⟨e, hends, hkeep⟩ := hs
  ⟨e, hends, h e hkeep⟩

theorem Acyclic.mono {keep keep' : Nat → Prop} (h : ∀ e, keep' e → keep e)
    (hacyc : g.Acyclic keep) : g.Acyclic keep' :=
  fun u hcyc =>
    hacyc u (Relation.TransGen.mono (r := g.Step keep') (fun _ _ => Step.mono h) _ _ hcyc)

/-- A set that breaks the cycles is empty exactly when there is no cycle to break. -/
theorem BreaksCycles.eq_nil_iff {B : List Nat} (h : g.BreaksCycles B) :
    B = [] ↔ g.Acyclic fun _ => True := by
  constructor
  · rintro rfl
    exact h.acyclic.mono fun e _ => List.not_mem_nil
  · intro hacyc
    refine List.eq_nil_iff_forall_not_mem.2 fun e he => ?_
    -- the back edge and the way back from its target close a cycle
    obtain ⟨u, v, hends, hback⟩ := h.closes e he
    exact hacyc u (Relation.TransGen.head' ⟨e, hends, trivial⟩
      (Relation.ReflTransGen.mono (r := g.Step (· ∉ B)) (fun _ _ => Step.mono fun _ _ => trivial)
        _ _ hback))

end LayoutGraph

/-- The last element of a chain is reached from each of its elements. -/
theorem reflTransGen_of_mem_isChain {β : Type} {R : β → β → Prop} {l : List β} {x z : β}
    (h : (l ++ [z]).IsChain R) (hx : x ∈ l ++ [z]) : Relation.ReflTransGen R x z := by
  rcases List.mem_append.1 hx with hx | hx
  · exact h.backwards_concat_induction (Relation.ReflTransGen R · z) l
      (fun _ _ hr hz => Relation.ReflTransGen.head hr hz) Relation.ReflTransGen.refl x hx
  · rw [List.mem_singleton.1 hx]

namespace Search

variable {g : LayoutGraph}

/-! ### The search path as a stack -/

/-- The search path is the stack of frames `stack`, root first, and `tree` holds the pairs of
the edges that discovered the explored nodes. -/
structure PathInv (g : LayoutGraph) (s : Search) (stack : List Nat) (tree : List (Nat × Nat)) :
    Prop where
  onPath : ∀ v, s.at? v = .onPath ↔ v ∈ stack
  nodup : stack.Nodup
  chain : stack.IsChain fun a b => (a, b) ∈ tree
  resolved : ∀ p ∈ tree, ∃ e, g.ends e = some p
  reached : ∀ p ∈ tree, s.at? p.2 ≠ .unvisited
  /-- A tree pair whose target is on the path joins two neighbouring frames. -/
  child : ∀ p ∈ tree, s.at? p.2 = .onPath → ∃ pre post, stack = pre ++ p.1 :: p.2 :: post
  not_key : ∀ p ∈ tree, p ∉ s.keys
  key_reached : ∀ k ∈ s.keys, s.at? k.2 ≠ .unvisited
  key_closes : ∀ k ∈ s.keys, Relation.ReflTransGen (fun a b => (a, b) ∈ tree) k.2 k.1

@[simp] theorem at?_setKeys (s : Search) (keys : List (Nat × Nat)) (v : Nat) :
    ({ s with keys } : Search).at? v = s.at? v :=
  rfl

/-- A frame never repeats, so the top frame is not followed by another. -/
theorem not_top_child {stack pre post : List Nat} {n t : Nat} (hnd : (stack ++ [n]).Nodup)
    (h : stack ++ [n] = pre ++ n :: t :: post) : False := by
  have hlast : (pre ++ n :: t :: post).getLast? = some n := by rw [← h]; simp
  rw [List.getLast?_append_of_ne_nil _ (List.cons_ne_nil _ _), List.getLast?_cons_cons] at hlast
  rw [h] at hnd
  exact (List.nodup_cons.1 (List.nodup_append.1 hnd).2.1).1 (List.mem_of_getLast? hlast)

/-- Pushing an unvisited node discovered from the top frame. -/
theorem PathInv.push {s : Search} {stack : List Nat} {tree : List (Nat × Nat)}
    (h : PathInv g s stack tree) {n : Nat} (hsize : n < s.visit.size) (hn : s.at? n = .unvisited)
    (hedge : ∀ a ∈ stack.getLast?, ∃ e, g.ends e = some (a, n)) :
    PathInv g { s with visit := s.visit.setIfInBounds n .onPath } (stack ++ [n])
      (tree ++ stack.getLast?.toList.map (·, n)) := by
  -- nodes other than `n` keep their standing; the only new pair is the one into `n`
  have hother : ∀ v, s.at? v ≠ .unvisited → v ≠ n := by
    rintro v hv rfl
    exact hv hn
  have hkeep : ∀ v, v ≠ n →
      ({ s with visit := s.visit.setIfInBounds n .onPath } : Search).at? v = s.at? v := by
    intro v hv
    simp [Ne.symm hv]
  have hnew : ({ s with visit := s.visit.setIfInBounds n .onPath } : Search).at? n = .onPath := by
    simp [hsize]
  have hmem : ∀ p, p ∈ tree ++ stack.getLast?.toList.map (·, n) ↔
      p ∈ tree ∨ ∃ a, stack.getLast? = some a ∧ p = (a, n) := by
    intro p
    simp only [List.mem_append, List.mem_map, Option.mem_toList]
    constructor
    · rintro (hp | ⟨a, ha, rfl⟩)
      · exact .inl hp
      · exact .inr ⟨a, ha, rfl⟩
    · rintro (hp | ⟨a, ha, rfl⟩)
      · exact .inl hp
      · exact .inr ⟨a, ha, rfl⟩
  constructor
  · intro v
    by_cases hv : v = n
    · subst hv
      simp [hnew]
    · rw [hkeep v hv, h.onPath v]
      simp [hv]
  · refine List.nodup_append.2 ⟨h.nodup, List.nodup_cons.2 ⟨List.not_mem_nil, List.nodup_nil⟩,
      fun a ha b hb => ?_⟩
    rw [List.mem_singleton.1 hb]
    exact hother a (by rw [(h.onPath a).2 ha]; decide)
  · refine List.isChain_append.2 ⟨h.chain.imp fun a b hab => (hmem _).2 (.inl hab),
      List.isChain_singleton n, fun a ha b hb => ?_⟩
    have hbn : n = b := by simpa using hb
    rw [← hbn]
    exact (hmem _).2 (.inr ⟨a, ha, rfl⟩)
  · intro p hp
    rcases (hmem p).1 hp with hp | ⟨a, ha, rfl⟩
    · exact h.resolved p hp
    · exact hedge a ha
  · intro p hp
    rcases (hmem p).1 hp with hp | ⟨a, -, rfl⟩
    · rw [hkeep _ (hother _ (h.reached p hp))]
      exact h.reached p hp
    · rw [hnew]
      decide
  · intro p hp hon
    rcases (hmem p).1 hp with hp | ⟨a, ha, rfl⟩
    · rw [hkeep _ (hother _ (h.reached p hp))] at hon
      obtain ⟨pre, post, hst⟩ := h.child p hp hon
      exact ⟨pre, post ++ [n], by simp [hst]⟩
    · obtain ⟨init, rfl⟩ := List.getLast?_eq_some_iff.1 ha
      exact ⟨init, [], by simp⟩
  · intro p hp hkey
    rcases (hmem p).1 hp with hp | ⟨a, -, rfl⟩
    · exact h.not_key p hp hkey
    · exact h.key_reached _ hkey hn
  · intro k hk
    rw [hkeep _ (hother _ (h.key_reached k hk))]
    exact h.key_reached k hk
  · intro k hk
    exact Relation.ReflTransGen.mono (r := fun a b => (a, b) ∈ tree)
      (fun a b hab => (hmem _).2 (.inl hab)) _ _ (h.key_closes k hk)

/-- Recording the key of an edge from the top frame to a node on the path. -/
theorem PathInv.addKey {s : Search} {stack : List Nat} {tree : List (Nat × Nat)} {n t : Nat}
    (h : PathInv g s (stack ++ [n]) tree) (ht : s.at? t = .onPath) :
    PathInv g { s with keys := insertPair (n, t) s.keys } (stack ++ [n]) tree where
  onPath v := by simpa using h.onPath v
  nodup := h.nodup
  chain := h.chain
  resolved := h.resolved
  reached p hp := by simpa using h.reached p hp
  child p hp hon := h.child p hp (by simpa using hon)
  not_key p hp hkey := by
    rcases mem_insertPair.1 hkey with rfl | hkey
    · -- a tree pair into `t` would put `t` right above the top frame `n`
      obtain ⟨pre, post, hst⟩ := h.child _ hp ht
      exact not_top_child h.nodup hst
    · exact h.not_key p hp hkey
  key_reached k hk := by
    rcases mem_insertPair.1 hk with rfl | hk
    · simp [ht]
    · simpa using h.key_reached k hk
  key_closes k hk := by
    rcases mem_insertPair.1 hk with rfl | hk
    · -- `t` lies on the stack, which is a chain of tree pairs up to `n`
      exact reflTransGen_of_mem_isChain h.chain ((h.onPath t).1 ht)
    · exact h.key_closes k hk

/-- Popping the top frame once its node is finished. -/
theorem PathInv.pop {s : Search} {stack : List Nat} {tree : List (Nat × Nat)} {n : Nat}
    (h : PathInv g s (stack ++ [n]) tree) (hsize : n < s.visit.size) :
    PathInv g { s with visit := s.visit.setIfInBounds n .finished } stack tree := by
  have hn : n ∉ stack := fun hmem =>
    (List.nodup_append.1 h.nodup).2.2 n hmem n (List.mem_singleton_self n) rfl
  have hkeep : ∀ v, v ≠ n →
      ({ s with visit := s.visit.setIfInBounds n .finished } : Search).at? v = s.at? v := by
    intro v hv
    simp [Ne.symm hv]
  have hfin : ({ s with visit := s.visit.setIfInBounds n .finished } : Search).at? n =
      .finished := by
    simp [hsize]
  -- a node other than `n` keeps its standing; `n` is finished, so it is neither on the path
  -- nor unvisited
  have hvisited : ∀ v, s.at? v ≠ .unvisited →
      ({ s with visit := s.visit.setIfInBounds n .finished } : Search).at? v ≠ .unvisited := by
    intro v hv
    by_cases hvn : v = n
    · rw [hvn, hfin]
      decide
    · rwa [hkeep v hvn]
  have hon : ∀ v, ({ s with visit := s.visit.setIfInBounds n .finished } : Search).at? v =
      .onPath → v ≠ n ∧ s.at? v = .onPath := by
    intro v hv
    have hvn : v ≠ n := by
      rintro rfl
      rw [hfin] at hv
      cases hv
    exact ⟨hvn, by rwa [hkeep v hvn] at hv⟩
  constructor
  · intro v
    constructor
    · intro hv
      obtain ⟨hvn, hv⟩ := hon v hv
      simpa [hvn] using (h.onPath v).1 hv
    · intro hv
      have hvn : v ≠ n := fun heq => hn (heq ▸ hv)
      rw [hkeep v hvn]
      exact (h.onPath v).2 (List.mem_append_left _ hv)
  · exact (List.nodup_append.1 h.nodup).1
  · exact h.chain.left_of_append
  · exact h.resolved
  · exact fun p hp => hvisited _ (h.reached p hp)
  · intro p hp hp₂
    obtain ⟨hvn, hp₂⟩ := hon _ hp₂
    obtain ⟨pre, post, hst⟩ := h.child p hp hp₂
    -- `p.2` is not the top frame, so the pair sits below it
    have hst' : stack ++ [n] = (pre ++ [p.1]) ++ p.2 :: post := by simpa using hst
    rcases eq_append_cons_of_concat hst' with ⟨-, heq⟩ | ⟨post', hpost⟩
    · exact absurd heq hvn
    · exact ⟨pre, post', by simpa using hpost⟩
  · exact h.not_key
  · exact fun k hk => hvisited _ (h.key_reached k hk)
  · exact h.key_closes

/-! ### Exploring keeps the stack -/

/-- What exploring from a node does to the stack invariant, for a given fuel: the node is
pushed, its edges are visited, and it is popped again. -/
def PathSpec (g : LayoutGraph) (fuel : Nat) : Prop :=
  ∀ (n : Nat) (s : Search) (order stack : List Nat) (tree : List (Nat × Nat)),
    FinishOrder g s order → PathInv g s stack tree → n < g.nodeCount →
    s.at? n = .unvisited → unvisitedCount s ≤ fuel →
    (∀ a ∈ stack.getLast?, ∃ e, g.ends e = some (a, n)) →
    ∃ tree', PathInv g (explore g (fuel + 1) n s) stack tree'

/-- One edge of the top frame `n`. -/
theorem visitEdge_path (hg : g.WellFormed) {fuel : Nat} (ih : PathSpec g fuel) {n e : Nat}
    (he : e ∈ g.out n) {s : Search} {order stack : List Nat} {tree : List (Nat × Nat)}
    (hinv : FinishOrder g s order) (hpath : PathInv g s (stack ++ [n]) tree)
    (hcount : unvisitedCount s ≤ fuel) :
    ∃ tree', PathInv g (visitEdge g (fuel + 1) n s e) (stack ++ [n]) tree' := by
  obtain ⟨t, hends⟩ := hg.mem_out.1 he
  unfold visitEdge
  rw [hends]
  dsimp only
  cases hvisit : s.at? t with
  | unvisited =>
    -- the target is explored above the top frame, discovered by this edge
    refine ih t s order (stack ++ [n]) tree hinv hpath (hg.ends_lt hends).2 hvisit hcount ?_
    intro a ha
    rw [List.getLast?_concat, Option.mem_some_iff] at ha
    exact ⟨e, ha ▸ hends⟩
  | onPath => exact ⟨tree, hpath.addKey hvisit⟩
  | finished => exact ⟨tree, hpath⟩

/-- The edges of the top frame `n`, one after another. -/
theorem foldl_visitEdge_path (hg : g.WellFormed) {fuel : Nat} (ih : PathSpec g fuel)
    (hexp : ExploreSpec g fuel) (n : Nat) (stack : List Nat) :
    ∀ (es : List Nat) (s : Search) (order : List Nat) (tree : List (Nat × Nat)),
      FinishOrder g s order → PathInv g s (stack ++ [n]) tree → unvisitedCount s ≤ fuel →
      (∀ e ∈ es, e ∈ g.out n) →
      ∃ tree', PathInv g (es.foldl (visitEdge g (fuel + 1) n) s) (stack ++ [n]) tree'
  | [], _, _, tree, _, hpath, _, _ => ⟨tree, hpath⟩
  | e :: es, s, order, tree, hinv, hpath, hcount, hes => by
    obtain ⟨order₁, hinv₁, -, hkeeps₁, -⟩ := visitEdge_spec hg hexp (n := n) (e := e) hinv hcount
    obtain ⟨tree₁, hpath₁⟩ :=
      visitEdge_path hg ih (hes e (List.mem_cons_self ..)) hinv hpath hcount
    exact foldl_visitEdge_path hg ih hexp n stack es _ order₁ tree₁ hinv₁ hpath₁
      (Nat.le_trans hkeeps₁.count hcount) fun e' he' => hes e' (List.mem_cons_of_mem _ he')

/-- Exploring from an unvisited node, with more fuel than unvisited nodes, leaves the stack as
it found it. -/
theorem pathSpec (hg : g.WellFormed) : ∀ fuel, PathSpec g fuel
  | 0 => by
    intro n s order stack tree hinv _ hn hv hcount _
    have := unvisitedCount_pos s (by rw [hinv.size]; exact hn) hv
    omega
  | fuel + 1 => by
    intro n s order stack tree hinv hpath hn hv hcount hedge
    have hsize : n < s.visit.size := by rw [hinv.size]; exact hn
    have hcount₁ : unvisitedCount { s with visit := s.visit.setIfInBounds n .onPath } ≤ fuel := by
      have := unvisitedCount_mark s hsize hv (x := .onPath) (by decide)
      omega
    obtain ⟨tree₂, hpath₂⟩ := foldl_visitEdge_path hg (pathSpec hg fuel) (exploreSpec hg fuel) n
      stack (g.out n) _ order _ (hinv.markOnPath hv) (hpath.push hsize hv hedge) hcount₁
      fun _ he => he
    obtain ⟨order₂, hinv₂, -⟩ := foldl_visitEdge_spec hg (exploreSpec hg fuel) n (g.out n) _ order
      (hinv.markOnPath hv) hcount₁
    rw [explore_succ]
    exact ⟨tree₂, hpath₂.pop (by rw [hinv₂.size]; exact hn)⟩

end Search

namespace LayoutGraph

open Search

variable {g : LayoutGraph}

/-- After the search from every root the stack is empty again, and every back key is closed
by a chain of tree pairs. -/
theorem search_path (hg : g.WellFormed) : ∃ tree, PathInv g g.search [] tree := by
  have hstart : PathInv g { visit := Array.replicate g.nodeCount .unvisited, keys := [] } [] [] :=
    { onPath := fun v => by rw [at?_start]; split <;> simp
      nodup := List.nodup_nil
      chain := List.isChain_nil
      resolved := by simp
      reached := by simp
      child := by simp
      not_key := by simp
      key_reached := by simp
      key_closes := by simp }
  have hfin : FinishOrder g { visit := Array.replicate g.nodeCount .unvisited, keys := [] } [] :=
    ⟨by simp, fun v => by rw [at?_start]; split <;> simp_all, List.nodup_nil,
      fun pre u post h => by simp at h⟩
  -- each root is explored with an empty stack, or skipped
  suffices ∀ (roots : List Nat) (s : Search) (order : List Nat) (tree : List (Nat × Nat)),
      FinishOrder g s order → PathInv g s [] tree → unvisitedCount s ≤ g.nodeCount →
      (∀ r ∈ roots, r < g.nodeCount) → ∃ tree', PathInv g (roots.foldl (fun s root =>
        if s.at? root == .unvisited then explore g (g.nodeCount + 1) root s else s) s) [] tree' from
    this _ _ [] [] hfin hstart (by simp [unvisitedCount]) fun r hr => List.mem_range.1 hr
  intro roots
  induction roots with
  | nil => exact fun _ _ tree _ hpath _ _ => ⟨tree, hpath⟩
  | cons r roots ih =>
    intro s order tree hinv hpath hcount hroots
    have hr := hroots r (List.mem_cons_self ..)
    have hoff : ∀ v, s.at? v ≠ .onPath := fun v hv => List.not_mem_nil ((hpath.onPath v).1 hv)
    obtain ⟨order₁, hinv₁, hkeeps₁, -⟩ := root_spec hg hinv hoff hcount hr
    obtain ⟨tree₁, hpath₁⟩ : ∃ tree₁, PathInv g (if s.at? r == .unvisited then
        explore g (g.nodeCount + 1) r s else s) [] tree₁ := by
      by_cases hv : s.at? r = .unvisited
      · rw [if_pos (by simp [hv])]
        exact pathSpec hg g.nodeCount r s order [] tree hinv hpath hr hv hcount (by simp)
      · rw [if_neg (by simp [hv])]
        exact ⟨tree, hpath⟩
    exact ih _ order₁ tree₁ hinv₁ hpath₁ (Nat.le_trans hkeeps₁.count hcount)
      fun r' hr' => hroots r' (List.mem_cons_of_mem _ hr')

/-- A resolved edge with a back key as its pair is a back edge. -/
theorem not_mem_backEdges_of_tree {tree : List (Nat × Nat)} (h : PathInv g g.search [] tree)
    {p : Nat × Nat} (hp : p ∈ tree) : g.Step (· ∉ g.backEdges.edges) p.1 p.2 := by
  obtain ⟨e, hends⟩ := h.resolved p hp
  refine ⟨e, hends, fun hback => ?_⟩
  obtain ⟨u, v, hends', hkey⟩ := mem_backEdges_iff.1 hback
  rw [hends] at hends'
  exact h.not_key p hp (by rw [Option.some.inj hends']; exact hkey)

/-- Every back edge closes a cycle: from its target, edges that are not back edges lead back to
its source. -/
theorem backEdges_close (hg : g.WellFormed) :
    ∀ e ∈ g.backEdges.edges, ∃ u v, g.ends e = some (u, v) ∧
      Relation.ReflTransGen (g.Step (· ∉ g.backEdges.edges)) v u := by
  intro e he
  obtain ⟨u, v, hends, hkey⟩ := mem_backEdges_iff.1 he
  obtain ⟨tree, hpath⟩ := search_path hg
  exact ⟨u, v, hends, Relation.ReflTransGen.mono (r := fun a b => (a, b) ∈ tree)
    (fun a b hab => not_mem_backEdges_of_tree hpath hab) _ _ (hpath.key_closes _ hkey)⟩

/-- Along edges that are not back edges the finishing rank climbs, so they close no cycle. -/
theorem backEdges_acyclic (hg : g.WellFormed) : g.Acyclic (· ∉ g.backEdges.edges) := by
  obtain ⟨rank, hrank⟩ := backEdges_topological hg
  have hstep : ∀ u v, g.Step (· ∉ g.backEdges.edges) u v → rank u < rank v := by
    rintro u v ⟨e, hends, hout⟩
    exact hrank e u v hends (by simpa [BackEdges.contains] using hout)
  intro u hcyc
  have hlt : ∀ a b, Relation.TransGen (g.Step (· ∉ g.backEdges.edges)) a b → rank a < rank b := by
    intro a b hab
    induction hab with
    | single hs => exact hstep _ _ hs
    | tail _ hs ih => exact Nat.lt_trans ih (hstep _ _ hs)
  exact Nat.lt_irrefl _ (hlt u u hcyc)

/-- The back edges of a well-formed graph break its cycles and only them. -/
theorem backEdges_breaksCycles (hg : g.WellFormed) : g.BreaksCycles g.backEdges.edges where
  acyclic := backEdges_acyclic hg
  selfLoop e u hends := by
    -- a self-loop outside the back edges would be a cycle of length one
    by_contra hout
    exact backEdges_acyclic hg u (.single ⟨e, hends, hout⟩)
  closes := backEdges_close hg
  parallel e e' u v he he' := by
    rw [mem_backEdges_iff, mem_backEdges_iff]
    constructor
    · rintro ⟨u', v', h, hkey⟩
      rw [he] at h
      cases h
      exact ⟨u, v, he', hkey⟩
    · rintro ⟨u', v', h, hkey⟩
      rw [he'] at h
      cases h
      exact ⟨u, v, he, hkey⟩

end LayoutGraph

/-- For every chart, the back edges of its graph break every cycle of the resolved graph and
hold only edges that close a cycle: the other resolved edges are acyclic, every self-loop is a
back edge, every back edge is resolved with a way back from its target to its source through
other edges, and parallel edges are back edges together. There are none exactly when the
resolved graph is acyclic. -/
theorem chart_backEdges_breakCycles (c : Flowchart) :
    (LayoutGraph.ofChart c).BreaksCycles (LayoutGraph.ofChart c).backEdges.edges ∧
      ((LayoutGraph.ofChart c).backEdges.edges = [] ↔
        (LayoutGraph.ofChart c).Acyclic fun _ => True) :=
  have h := LayoutGraph.backEdges_breaksCycles (LayoutGraph.ofChart_wellFormed c)
  ⟨h, h.eq_nil_iff⟩

end FlowLayout
