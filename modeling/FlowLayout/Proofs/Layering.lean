import Mathlib.Data.List.Perm.Basic
import FlowLayout.Layout.Graph
import FlowLayout.Proofs.BackEdges
/-!
# Layers by peeling

`assignLayers` is Kahn's algorithm with in-degrees. It computes the in-degree of every node
over the kept edges (resolved edges that are not back edges), takes the nodes of in-degree
zero as the first frontier, and repeatedly places the frontier as a layer and lowers the
in-degrees of the targets of its edges; a target whose in-degree reaches zero joins the next
frontier.

The invariant of a round (`Peeled`) says that the in-degree of an unplaced node counts exactly
its kept edges from unplaced nodes (`pending`), and that the frontier is exactly the set of
unplaced nodes with none. The in-degree decrements never saturate, because every kept edge is
released once, from its source, after that source was placed (`Released`). When the kept
edges climb along some numbering, every node is placed, so no node is ever seeded and no
residue layer is added; a node is placed in the round after its last predecessor, which is
the longest-path layering.
-/

namespace FlowLayout

namespace LayoutGraph

/-- A resolved edge `e` from `u` to `v` that is not a back edge: an edge layering respects. -/
def Kept (g : LayoutGraph) (back : BackEdges) (e u v : Nat) : Prop :=
  g.ends e = some (u, v) ∧ back.contains e = false

/-- The number of kept edges into `t` whose source is not `done`. -/
def pending (g : LayoutGraph) (back : BackEdges) (done : Nat → Bool) (t : Nat) : Nat :=
  g.edges.countP fun x => x.2.2 == t && !back.contains x.1 && !done x.2.1

variable {g : LayoutGraph} {back : BackEdges}

theorem pending_eq_zero_iff {done : Nat → Bool} {t : Nat} :
    g.pending back done t = 0 ↔ ∀ e u, g.Kept back e u t → done u = true := by
  rw [pending, List.countP_eq_zero]
  constructor
  · intro h e u ⟨hends, hback⟩
    have := h (e, u, t) (mem_edges.2 hends)
    simpa [hback] using this
  · rintro h ⟨e, u, v⟩ hmem
    have hends := mem_edges.1 hmem
    by_cases hv : v = t
    · subst hv
      by_cases hback : back.contains e = true
      · simp [hback]
      · simp [h e u ⟨hends, by simpa using hback⟩]
    · simp [hv]

/-- A node with pending edges has a kept edge from a node that is not done. -/
theorem exists_of_pending_ne_zero {done : Nat → Bool} {t : Nat} (h : g.pending back done t ≠ 0) :
    ∃ e u, g.Kept back e u t ∧ done u = false := by
  refine Classical.byContradiction fun hne => h (pending_eq_zero_iff.2 fun e u hk => ?_)
  cases hd : done u
  · exact absurd ⟨e, u, hk, hd⟩ hne
  · rfl

/-- Counting a disjoint union of two kinds of items. -/
theorem countP_or_of_disjoint {β : Type} {p q : β → Bool} :
    ∀ {l : List β}, (∀ x ∈ l, ¬(p x = true ∧ q x = true)) →
      l.countP (fun x => p x || q x) = l.countP p + l.countP q
  | [], _ => rfl
  | x :: l, h => by
    have ih := countP_or_of_disjoint (l := l) fun y hy => h y (List.mem_cons_of_mem x hy)
    have hx := h x (List.mem_cons_self ..)
    simp only [List.countP_cons, ih]
    cases hp : p x <;> cases hq : q x <;> simp_all <;> omega

/-- Placing the nodes `F`, none of them done before, moves their kept edges into `t` out of
the pending ones. -/
theorem pending_split {done : Nat → Bool} {F : List Nat} (hF : ∀ u ∈ F, done u = false)
    (t : Nat) : g.pending back done t =
      g.pending back (fun u => done u || F.contains u) t +
        g.edges.countP fun x => x.2.2 == t && !back.contains x.1 && F.contains x.2.1 := by
  unfold pending
  rw [← countP_or_of_disjoint]
  · refine List.countP_congr fun x _ => ?_
    by_cases hx : F.contains x.2.1 = true
    · have hmem : x.2.1 ∈ F := by simpa using hx
      simp [hF x.2.1 hmem, hmem]
    · simp at hx; simp [hx]
  · intro x _ ⟨h₁, h₂⟩
    simp only [Bool.and_eq_true, Bool.not_eq_true', Bool.or_eq_false_iff] at h₁ h₂
    rw [h₁.2.2] at h₂
    simp at h₂

end LayoutGraph

namespace Peeling

/-- One edge of a released node: a kept edge into an unplaced node lowers its in-degree, and
a node reaching zero joins the next frontier. -/
def releaseEdge (g : LayoutGraph) (back : BackEdges) (st : Peeling × List Nat) (e : Nat) :
    Peeling × List Nat :=
  let (p, next) := st
  if back.contains e then st
  else match g.ends e with
    | none => st
    | some (_, t) =>
      if p.placed.getD t true then st
      else
        let d := p.inDegree.getD t 0 - 1
        let p := { p with inDegree := p.inDegree.setIfInBounds t d }
        if d == 0 then (p, next ++ [t]) else (p, next)

theorem release_eq (g : LayoutGraph) (back : BackEdges) (st : Peeling × List Nat) (n : Nat) :
    release g back st n = (g.out n).foldl (releaseEdge g back) st := rfl

theorem run_succ (g : LayoutGraph) (back : BackEdges) (fuel f : Nat) (fs : List Nat)
    (p : Peeling) :
    run g back (fuel + 1) (f :: fs) p =
      let frontier := g.sortById (f :: fs)
      let p := { p with placed := frontier.foldl (fun a n => a.setIfInBounds n true) p.placed }
      let (p, next) := frontier.foldl (release g back) (p, [])
      run g back fuel next { p with layers := p.layers ++ [frontier] } := rfl

/-- Releasing a frontier is releasing the edges of its nodes in turn. -/
theorem foldl_release (g : LayoutGraph) (back : BackEdges) :
    ∀ (F : List Nat) (st : Peeling × List Nat),
      F.foldl (release g back) st = (F.flatMap g.out).foldl (releaseEdge g back) st
  | [], _ => rfl
  | n :: F, st => by
    rw [List.foldl_cons, List.flatMap_cons, List.foldl_append, release_eq, foldl_release g back F]

theorem getD_setIfInBounds (a : Array Nat) (i j d x : Nat) (hi : i < a.size) :
    (a.setIfInBounds i x).getD j d = if i = j then x else a.getD j d := by
  simp only [Array.getD_eq_getD_getElem?, Array.getElem?_setIfInBounds]
  by_cases h : i = j
  · subst h; simp [hi]
  · simp [h]

variable {g : LayoutGraph} {back : BackEdges}

/-- Whether edge `e` is a kept edge into `t`. -/
def keptInto (g : LayoutGraph) (back : BackEdges) (t e : Nat) : Bool :=
  !back.contains e && (g.ends e).any (·.2 == t)

/-- What releasing the edges `R` did, from a state whose placed nodes are those of `p₀` and
whose unplaced in-degrees were `base`. -/
structure Released (g : LayoutGraph) (back : BackEdges) (p₀ : Peeling) (base : Nat → Nat)
    (R : List Nat) (st : Peeling × List Nat) : Prop where
  placed : st.1.placed = p₀.placed
  layers : st.1.layers = p₀.layers
  size : st.1.inDegree.size = g.nodeCount
  degree : ∀ t < g.nodeCount, p₀.placed.getD t true = false →
    st.1.inDegree.getD t 0 + R.countP (keptInto g back t) = base t
  next : ∀ t, t ∈ st.2 ↔ t < g.nodeCount ∧ p₀.placed.getD t true = false ∧
    0 < R.countP (keptInto g back t) ∧ st.1.inDegree.getD t 0 = 0
  nodup : st.2.Nodup


theorem releaseEdge_spec (hg : g.WellFormed) {p₀ : Peeling} {base : Nat → Nat} {R : List Nat}
    {p : Peeling} {next : List Nat} (h : Released g back p₀ base R (p, next)) (e : Nat)
    (hroom : ∀ t < g.nodeCount, p₀.placed.getD t true = false →
      (R ++ [e]).countP (keptInto g back t) ≤ base t) :
    Released g back p₀ base (R ++ [e]) (releaseEdge g back (p, next) e) := by
  unfold releaseEdge
  dsimp only
  by_cases hback : back.contains e = true
  · rw [if_pos hback]
    have hcount : ∀ t, (R ++ [e]).countP (keptInto g back t) = R.countP (keptInto g back t) := by
      intro t; simp [keptInto, hback]
    exact ⟨h.placed, h.layers, h.size, fun t ht hu => by rw [hcount]; exact h.degree t ht hu,
      fun t => by rw [hcount]; exact h.next t, h.nodup⟩
  rw [if_neg hback]
  cases hends : g.ends e with
  | none =>
    have hcount : ∀ t, (R ++ [e]).countP (keptInto g back t) = R.countP (keptInto g back t) := by
      intro t; simp [keptInto, hends]
    exact ⟨h.placed, h.layers, h.size, fun t ht hu => by rw [hcount]; exact h.degree t ht hu,
      fun t => by rw [hcount]; exact h.next t, h.nodup⟩
  | some ends =>
    obtain ⟨u, t'⟩ := ends
    have ht' : t' < g.nodeCount := (hg.ends_lt hends).2
    have hkept : ∀ t, keptInto g back t e = (t' == t) := by
      intro t; simp [keptInto, hends, hback]
    have hcount : ∀ t, (R ++ [e]).countP (keptInto g back t) =
        R.countP (keptInto g back t) + if t' = t then 1 else 0 := by
      intro t; rw [List.countP_append]; simp [hkept t]
    dsimp only
    by_cases hplaced : p.placed.getD t' true = true
    · rw [if_pos hplaced]
      rw [h.placed] at hplaced
      have hne : ∀ t, p₀.placed.getD t true = false → t' ≠ t := by
        rintro t hu rfl; rw [hplaced] at hu; cases hu
      refine ⟨h.placed, h.layers, h.size, fun t ht hu => ?_, fun t => ?_, h.nodup⟩
      · rw [hcount, if_neg (hne t hu), Nat.add_zero]; exact h.degree t ht hu
      · rw [hcount]
        by_cases htt : t' = t
        · subst htt
          constructor
          · intro hmem; exact absurd hplaced (by rw [((h.next t').1 hmem).2.1]; decide)
          · rintro ⟨-, hu, -⟩; rw [hplaced] at hu; cases hu
        · rw [if_neg htt, Nat.add_zero]; exact h.next t
    · rw [if_neg hplaced]
      simp only [Bool.not_eq_true] at hplaced
      have hu' : p₀.placed.getD t' true = false := by rw [← h.placed]; exact hplaced
      have hdeg : p.inDegree.getD t' 0 + R.countP (keptInto g back t') = base t' :=
        h.degree t' ht' hu'
      have hroom' := hroom t' ht' hu'
      rw [hcount, if_pos rfl] at hroom'
      have hsize : t' < p.inDegree.size := by
        have hs : p.inDegree.size = g.nodeCount := h.size
        omega
      have hnot : t' ∉ next := fun hmem => by
        have : p.inDegree.getD t' 0 = 0 := ((h.next t').1 hmem).2.2.2
        omega
      -- the in-degree of `t'` drops by one; all others stay
      have hget : ∀ t, (p.inDegree.setIfInBounds t' (p.inDegree.getD t' 0 - 1)).getD t 0 =
          if t' = t then p.inDegree.getD t' 0 - 1 else p.inDegree.getD t 0 :=
        fun t => getD_setIfInBounds _ _ _ _ _ hsize
      have hdegree : ∀ t < g.nodeCount, p₀.placed.getD t true = false →
          (p.inDegree.setIfInBounds t' (p.inDegree.getD t' 0 - 1)).getD t 0 +
            (R ++ [e]).countP (keptInto g back t) = base t := by
        intro t ht hu
        rw [hget, hcount]
        by_cases htt : t' = t
        · subst htt; rw [if_pos rfl, if_pos rfl]; omega
        · rw [if_neg htt, if_neg htt, Nat.add_zero]; exact h.degree t ht hu
      by_cases hzero : p.inDegree.getD t' 0 - 1 = 0
      · rw [if_pos (by rw [hzero]; rfl)]
        refine ⟨h.placed, h.layers, by simp [h.size], hdegree, fun t => ?_, ?_⟩
        · rw [List.mem_append, List.mem_singleton, hget, hcount]
          by_cases htt : t' = t
          · subst htt
            rw [if_pos rfl, if_pos rfl]
            exact ⟨fun _ => ⟨ht', hu', by omega, hzero⟩, fun _ => .inr rfl⟩
          · rw [if_neg htt, if_neg htt, Nat.add_zero, h.next t]
            exact ⟨fun hor => hor.resolve_right (Ne.symm htt), .inl⟩
        · exact List.nodup_append.2 ⟨h.nodup, by simp, fun a ha b hb hab => by
            rw [List.mem_singleton] at hb; subst hab hb; exact hnot ha⟩
      · rw [if_neg (by rw [beq_iff_eq]; exact hzero)]
        refine ⟨h.placed, h.layers, by simp [h.size], hdegree, fun t => ?_, h.nodup⟩
        rw [hget, hcount]
        by_cases htt : t' = t
        · subst htt
          rw [if_pos rfl, if_pos rfl]
          exact ⟨fun hmem => absurd hmem hnot, fun ⟨_, _, _, h0⟩ => absurd h0 hzero⟩
        · rw [if_neg htt, if_neg htt, Nat.add_zero]; exact h.next t


/-- Releasing a list of edges, each respecting the room left in the in-degrees. -/
theorem foldl_releaseEdge_spec (hg : g.WellFormed) {p₀ : Peeling} {base : Nat → Nat} :
    ∀ (L R : List Nat) (st : Peeling × List Nat), Released g back p₀ base R st →
      (∀ t < g.nodeCount, p₀.placed.getD t true = false →
        (R ++ L).countP (keptInto g back t) ≤ base t) →
      Released g back p₀ base (R ++ L) (L.foldl (releaseEdge g back) st)
  | [], R, st, h, _ => by simpa using h
  | e :: L, R, ⟨p, next⟩, h, hroom => by
    have h₁ := releaseEdge_spec hg h e fun t ht hu => by
      have := hroom t ht hu
      rw [List.countP_append] at this ⊢
      have : [e].countP (keptInto g back t) ≤ (e :: L).countP (keptInto g back t) := by
        simp only [List.countP_cons, List.countP_nil]; omega
      omega
    have := foldl_releaseEdge_spec hg L (R ++ [e]) _ h₁ (by simpa using hroom)
    simpa using this

/-- The kept edges into `t` among the edges of the nodes `F` are its kept edges from `F`. -/
theorem countP_keptInto_flatMap (hg : g.WellFormed) (t : Nat) :
    ∀ {F : List Nat}, F.Nodup → (F.flatMap g.out).countP (keptInto g back t) =
      g.edges.countP fun x => x.2.2 == t && !back.contains x.1 && F.contains x.2.1
  | [], _ => by simp
  | n :: F, hF => by
    rw [List.flatMap_cons, List.countP_append, countP_keptInto_flatMap hg t (List.nodup_cons.1 hF).2,
      hg.out_eq, List.countP_map, List.countP_filter, ← LayoutGraph.countP_or_of_disjoint]
    · refine List.countP_congr fun ⟨e, u, v⟩ hx => ?_
      have hends := LayoutGraph.mem_edges.1 hx
      simp only [Function.comp_def, keptInto, hends, Option.any_some, List.contains_cons]
      cases u == n <;> cases back.contains e <;> simp
      exact fun h _ => h
    · intro x _ ⟨h₁, h₂⟩
      simp only [Function.comp_def, Bool.and_eq_true, beq_iff_eq, List.contains_iff_mem] at h₁ h₂
      exact (List.nodup_cons.1 hF).1 (h₁.2 ▸ h₂.2)

/-- Marking nodes placed. -/
theorem getD_foldl_mark : ∀ (F : List Nat) (a : Array Bool) (v : Nat),
    (F.foldl (fun a n => a.setIfInBounds n true) a).getD v true = (a.getD v true || F.contains v)
  | [], a, v => by simp
  | n :: F, a, v => by
    rw [List.foldl_cons, getD_foldl_mark F _ v]
    simp only [Array.getD_eq_getD_getElem?, Array.getElem?_setIfInBounds, List.contains_cons]
    by_cases h : n = v
    · subst h
      by_cases hn : n < a.size <;> simp [hn]
    · simp [h, beq_false_of_ne (Ne.symm h)]

end Peeling

namespace LayoutGraph

/-- Layers in the longest-path arrangement of the kept edges: each non-empty and sorted by id
then index; every node after all sources of its kept edges, and, past the first layer, right
after one of them. -/
structure LongestPath (g : LayoutGraph) (back : BackEdges) (layers : List (List Nat)) : Prop where
  nonempty : ∀ L ∈ layers, L ≠ []
  sorted : ∀ L ∈ layers, L.Pairwise fun a b => g.idOrder a b = true
  after : ∀ (i : Nat) L v, layers[i]? = some L → v ∈ L → ∀ e u, g.Kept back e u v →
    ∃ (j : Nat) (L' : List Nat), j < i ∧ layers[j]? = some L' ∧ u ∈ L'
  tight : ∀ (i : Nat) L v, layers[i + 1]? = some L → v ∈ L →
    ∃ e u L', g.Kept back e u v ∧ layers[i]? = some L' ∧ u ∈ L'

variable {g : LayoutGraph} {back : BackEdges}

theorem exists_getElem?_of_mem_flatten {layers : List (List Nat)} {u : Nat}
    (h : u ∈ layers.flatten) : ∃ (j : Nat) (L : List Nat), layers[j]? = some L ∧ u ∈ L := by
  obtain ⟨L, hL, hu⟩ := List.mem_flatten.1 h
  obtain ⟨j, hj⟩ := List.mem_iff_getElem?.1 hL
  exact ⟨j, L, hj, hu⟩

/-- A layer appended after the others keeps the arrangement, when all its nodes' sources are
placed already and each of its nodes is reached from the last layer. -/
theorem LongestPath.append {layers : List (List Nat)} (h : g.LongestPath back layers)
    {F : List Nat} (hne : F ≠ []) (hsorted : F.Pairwise fun a b => g.idOrder a b = true)
    (hafter : ∀ v ∈ F, ∀ e u, g.Kept back e u v → u ∈ layers.flatten)
    (hreach : ∀ v ∈ F, ∀ L, layers.getLast? = some L → ∃ e u, g.Kept back e u v ∧ u ∈ L) :
    g.LongestPath back (layers ++ [F]) where
  nonempty L hL := by
    rcases List.mem_append.1 hL with hL | hL
    · exact h.nonempty L hL
    · rw [List.mem_singleton.1 hL]; exact hne
  sorted L hL := by
    rcases List.mem_append.1 hL with hL | hL
    · exact h.sorted L hL
    · rw [List.mem_singleton.1 hL]; exact hsorted
  after i L v hi hv e u hk := by
    by_cases hlt : i < layers.length
    · rw [List.getElem?_append_left hlt] at hi
      obtain ⟨j, L', hj, hL', hu⟩ := h.after i L v hi hv e u hk
      exact ⟨j, L', hj, by rw [List.getElem?_append_left (by omega)]; exact hL', hu⟩
    · rw [List.getElem?_append_right (by omega)] at hi
      have hi' : i = layers.length := by
        have := (List.getElem?_eq_some_iff.1 hi).1
        simp at this; omega
      subst hi'
      simp only [Nat.sub_self, List.getElem?_cons_zero, Option.some.injEq] at hi
      subst hi
      obtain ⟨j, L', hL', hu⟩ := exists_getElem?_of_mem_flatten (hafter v hv e u hk)
      exact ⟨j, L', (List.getElem?_eq_some_iff.1 hL').1, by
        rw [List.getElem?_append_left (List.getElem?_eq_some_iff.1 hL').1]; exact hL', hu⟩
  tight i L v hi hv := by
    by_cases hlt : i + 1 < layers.length
    · rw [List.getElem?_append_left hlt] at hi
      obtain ⟨e, u, L', hk, hL', hu⟩ := h.tight i L v hi hv
      exact ⟨e, u, L', hk, by rw [List.getElem?_append_left (by omega)]; exact hL', hu⟩
    · rw [List.getElem?_append_right (by omega)] at hi
      have hi' : i + 1 = layers.length := by
        have := (List.getElem?_eq_some_iff.1 hi).1
        simp at this; omega
      rw [hi'] at hi
      simp only [Nat.sub_self, List.getElem?_cons_zero, Option.some.injEq] at hi
      subst hi
      have hlast : layers.getLast? = layers[i]? := by
        rw [List.getLast?_eq_getElem?, ← hi']; rfl
      obtain ⟨L', hL'⟩ : ∃ L', layers[i]? = some L' :=
        ⟨layers[i], List.getElem?_eq_getElem (by omega)⟩
      obtain ⟨e, u, hk, hu⟩ := hreach v hv L' (by rw [hlast, hL'])
      exact ⟨e, u, L', hk, by rw [List.getElem?_append_left (by omega)]; exact hL', hu⟩

end LayoutGraph

namespace Peeling

open LayoutGraph

variable {g : LayoutGraph} {back : BackEdges}

/-- Whether a node is placed. -/
def isPlaced (p : Peeling) (v : Nat) : Bool := p.placed.getD v true

/-- The state between two rounds: placed nodes are those of the layers, each unplaced node's
in-degree counts its kept edges from unplaced nodes, and the frontier is exactly the
unplaced nodes with none, each reached from the last layer. -/
structure Peeled (g : LayoutGraph) (back : BackEdges) (p : Peeling) (F : List Nat) : Prop where
  sizeDegree : p.inDegree.size = g.nodeCount
  sizePlaced : p.placed.size = g.nodeCount
  placed : ∀ v < g.nodeCount, p.isPlaced v = true ↔ v ∈ p.layers.flatten
  layers_lt : ∀ v ∈ p.layers.flatten, v < g.nodeCount
  nodup : (p.layers.flatten ++ F).Nodup
  frontier_lt : ∀ v ∈ F, v < g.nodeCount
  degree : ∀ t < g.nodeCount, t ∉ p.layers.flatten →
    p.inDegree.getD t 0 = g.pending back p.isPlaced t
  frontier : ∀ t < g.nodeCount, t ∉ p.layers.flatten →
    (t ∈ F ↔ g.pending back p.isPlaced t = 0)
  spec : g.LongestPath back p.layers
  reached : ∀ t ∈ F, ∀ L, p.layers.getLast? = some L → ∃ e u, g.Kept back e u t ∧ u ∈ L

/-- One round: the frontier, sorted, is placed as a layer and its edges are released. -/
def round (g : LayoutGraph) (back : BackEdges) (F : List Nat) (p : Peeling) :
    Peeling × List Nat :=
  let frontier := g.sortById F
  let p := { p with placed := frontier.foldl (fun a n => a.setIfInBounds n true) p.placed }
  let st := frontier.foldl (release g back) (p, [])
  ({ st.1 with layers := st.1.layers ++ [frontier] }, st.2)

theorem run_succ_round (g : LayoutGraph) (back : BackEdges) (fuel f : Nat) (fs : List Nat)
    (p : Peeling) :
    run g back (fuel + 1) (f :: fs) p =
      run g back fuel (round g back (f :: fs) p).2 (round g back (f :: fs) p).1 := rfl

theorem isPlaced_of_lt {p : Peeling} {F : List Nat} (h : Peeled g back p F) {v : Nat} (hv : v < g.nodeCount) :
    p.isPlaced v = false ↔ v ∉ p.layers.flatten := by
  rw [← h.placed v hv]; simp

theorem Peeled.frontier_fresh {p : Peeling} {F : List Nat} (h : Peeled g back p F) :
    ∀ u ∈ F, u ∉ p.layers.flatten :=
  fun u hu hmem => (List.nodup_append.1 h.nodup).2.2 u hmem u hu rfl

theorem Peeled.frontier_unplaced {p : Peeling} {F : List Nat} (h : Peeled g back p F) :
    ∀ u ∈ F, p.isPlaced u = false :=
  fun u hu => (isPlaced_of_lt h (h.frontier_lt u hu)).2 (h.frontier_fresh u hu)

/-- The state with the nodes `F` marked placed. -/
def mark (F : List Nat) (p : Peeling) : Peeling :=
  { p with placed := F.foldl (fun a n => a.setIfInBounds n true) p.placed }

@[simp] theorem mark_inDegree (F : List Nat) (p : Peeling) : (mark F p).inDegree = p.inDegree := rfl

@[simp] theorem mark_layers (F : List Nat) (p : Peeling) : (mark F p).layers = p.layers := rfl

theorem isPlaced_mark (F : List Nat) (p : Peeling) (v : Nat) :
    (mark F p).isPlaced v = (p.isPlaced v || F.contains v) := getD_foldl_mark F p.placed v

theorem round_eq (g : LayoutGraph) (back : BackEdges) (F : List Nat) (p : Peeling) :
    round g back F p =
      ({ ((g.sortById F).foldl (release g back) (mark (g.sortById F) p, [])).1 with
          layers := ((g.sortById F).foldl (release g back) (mark (g.sortById F) p, [])).1.layers ++
            [g.sortById F] },
        ((g.sortById F).foldl (release g back) (mark (g.sortById F) p, [])).2) := rfl

/-- Releasing the sorted frontier, after marking it placed, releases every kept edge from it
once. -/
theorem release_frontier_spec (hg : g.WellFormed) {p : Peeling} {F : List Nat}
    (h : Peeled g back p F) :
    Released g back (mark (g.sortById F) p) (g.pending back p.isPlaced)
      ((g.sortById F).flatMap g.out)
      ((g.sortById F).foldl (release g back) (mark (g.sortById F) p, [])) := by
  have hperm := sortById_perm (g := g) F
  have hnodup : (g.sortById F).Nodup := hperm.nodup_iff.2 (List.nodup_append.1 h.nodup).2.1
  have hfresh : ∀ u ∈ g.sortById F, p.isPlaced u = false :=
    fun u hu => h.frontier_unplaced u (hperm.subset hu)
  rw [foldl_release]
  refine foldl_releaseEdge_spec hg _ [] _ ⟨rfl, rfl, by simp [h.sizeDegree], fun t ht hu => ?_,
    fun t => by simp, List.nodup_nil⟩ fun t ht hu => ?_
  · change (mark _ p).isPlaced t = false at hu
    rw [isPlaced_mark, Bool.or_eq_false_iff] at hu
    show p.inDegree.getD t 0 + 0 = _
    exact h.degree t ht ((isPlaced_of_lt h ht).1 hu.1)
  · have hcount : ((g.sortById F).flatMap g.out).countP (keptInto g back t) = _ :=
      countP_keptInto_flatMap hg t hnodup
    have hsplit : g.pending back p.isPlaced t = _ := pending_split hfresh t
    simp only [List.nil_append, List.flatMap] at hcount ⊢
    omega

/-- One round keeps the invariant: the sorted frontier becomes the last layer, and the nodes
whose last pending edge it released form the next frontier. -/
theorem round_spec (hg : g.WellFormed) {p : Peeling} {F : List Nat} (h : Peeled g back p F)
    (hF : F ≠ []) :
    Peeled g back (round g back F p).1 (round g back F p).2 ∧
      (round g back F p).1.layers = p.layers ++ [g.sortById F] := by
  have hperm := sortById_perm (g := g) F
  have hmemF : ∀ v, v ∈ g.sortById F ↔ v ∈ F := fun v => hperm.mem_iff
  have hcont : ∀ v, (g.sortById F).contains v = F.contains v := by
    intro v; rw [Bool.eq_iff_iff]; simp [hmemF]
  have hnodupF : (g.sortById F).Nodup := hperm.nodup_iff.2 (List.nodup_append.1 h.nodup).2.1
  have hrel := release_frontier_spec hg h
  rw [round_eq]
  generalize (g.sortById F).foldl (release g back) (mark (g.sortById F) p, []) = st at hrel
  obtain ⟨q, next⟩ := st
  dsimp only
  have hlayers : q.layers = p.layers := hrel.layers
  have hplaced : ∀ v, ({ q with layers := q.layers ++ [g.sortById F] } : Peeling).isPlaced v =
      (p.isPlaced v || F.contains v) := by
    intro v
    show q.placed.getD v true = _
    rw [hrel.placed, ← hcont]
    exact isPlaced_mark _ p v
  have hpend : g.pending back ({ q with layers := q.layers ++ [g.sortById F] } : Peeling).isPlaced =
      g.pending back fun u => p.isPlaced u || F.contains u := by
    rw [show Peeling.isPlaced _ = _ from funext hplaced]
  have hout : ∀ t, t ∉ (q.layers ++ [g.sortById F]).flatten ↔
      t ∉ p.layers.flatten ∧ t ∉ F := by
    intro t; rw [hlayers]; simp [hmemF]
  have hunmarked : ∀ t < g.nodeCount, t ∉ p.layers.flatten → t ∉ F →
      (mark (g.sortById F) p).placed.getD t true = false := by
    intro t ht hl hf
    change (mark _ p).isPlaced t = false
    rw [isPlaced_mark, (isPlaced_of_lt h ht).2 hl, hcont]
    simpa using hf
  -- the released edges of the frontier are exactly the kept edges it sends
  have hcount : ∀ t < g.nodeCount, t ∉ p.layers.flatten → t ∉ F →
      q.inDegree.getD t 0 = g.pending back (fun u => p.isPlaced u || F.contains u) t ∧
        g.pending back p.isPlaced t = g.pending back (fun u => p.isPlaced u || F.contains u) t +
          ((g.sortById F).flatMap g.out).countP (keptInto g back t) := by
    intro t ht hl hf
    have h₁ : q.inDegree.getD t 0 + ((g.sortById F).flatMap g.out).countP (keptInto g back t) =
        g.pending back p.isPlaced t := hrel.degree t ht (hunmarked t ht hl hf)
    have h₂ : ((g.sortById F).flatMap g.out).countP (keptInto g back t) = _ :=
      countP_keptInto_flatMap hg t hnodupF
    have h₃ : g.pending back p.isPlaced t = _ := pending_split h.frontier_unplaced t
    simp only [hcont] at h₂
    omega
  have hnext : ∀ t ∈ next, t < g.nodeCount ∧ t ∉ p.layers.flatten ∧ t ∉ F := by
    intro t ht
    obtain ⟨htN, hu, -⟩ := (hrel.next t).1 ht
    change (mark _ p).isPlaced t = false at hu
    rw [isPlaced_mark, Bool.or_eq_false_iff, hcont] at hu
    exact ⟨htN, (isPlaced_of_lt h htN).1 hu.1, by simpa using hu.2⟩
  refine ⟨⟨hrel.size, ?sizePlaced, fun v hv => ?placed, fun v hv => ?layers_lt, ?nodup,
    fun t ht => (hnext t ht).1, fun t ht hl => ?degree, fun t ht hl => ?frontier, ?spec,
    fun t ht L hL => ?reached⟩, by rw [hlayers]⟩
  case sizePlaced =>
    show q.placed.size = _
    rw [hrel.placed]
    exact (size_foldl_of_size (fun _ _ => Array.size_setIfInBounds) _ _).trans h.sizePlaced
  case placed =>
    rw [hplaced, hlayers, List.flatten_append, List.mem_append, Bool.or_eq_true, h.placed v hv]
    simp [hmemF]
  case layers_lt =>
    rw [hlayers, List.flatten_append, List.mem_append] at hv
    rcases hv with hv | hv
    · exact h.layers_lt v hv
    · exact h.frontier_lt v ((hmemF v).1 (by simpa using hv))
  case nodup =>
    have hA : (p.layers.flatten ++ g.sortById F).Nodup :=
      (List.Perm.append_left _ hperm).nodup_iff.2 h.nodup
    rw [hlayers, List.flatten_append, List.flatten_singleton]
    refine List.nodup_append.2 ⟨hA, hrel.nodup, fun a ha b hb hab => ?_⟩
    subst hab
    obtain ⟨-, hl, hf⟩ := hnext a hb
    rcases List.mem_append.1 ha with ha | ha
    · exact hl ha
    · exact hf ((hmemF a).1 ha)
  case degree =>
    obtain ⟨hl₁, hl₂⟩ := (hout t).1 hl
    rw [hpend]
    exact (hcount t ht hl₁ hl₂).1
  case frontier =>
    obtain ⟨hl₁, hl₂⟩ := (hout t).1 hl
    obtain ⟨hdeg, hsplit⟩ := hcount t ht hl₁ hl₂
    have hn : t ∈ next ↔ _ := hrel.next t
    rw [hpend, hn]
    constructor
    · rintro ⟨-, -, -, h0⟩
      rw [← hdeg]; exact h0
    · intro h0
      -- a node outside the frontier had a pending edge, so this round released one
      have hwas : g.pending back p.isPlaced t ≠ 0 := fun hz => hl₂ ((h.frontier t ht hl₁).2 hz)
      exact ⟨ht, hunmarked t ht hl₁ hl₂, by omega, by rw [hdeg]; exact h0⟩
  case spec =>
    have hne : g.sortById F ≠ [] := by
      obtain ⟨x, hx⟩ := List.exists_mem_of_ne_nil F hF
      exact List.ne_nil_of_mem ((hmemF x).2 hx)
    rw [hlayers]
    refine h.spec.append hne (sortById_sorted F) (fun v hv e u hk => ?_)
      fun v hv L hL => h.reached v ((hmemF v).1 hv) L hL
    have hvF := (hmemF v).1 hv
    have hv0 := (h.frontier v (h.frontier_lt v hvF) (h.frontier_fresh v hvF)).1 hvF
    exact (h.placed u (hg.ends_lt hk.1).1).1 (pending_eq_zero_iff.1 hv0 e u hk)
  case reached =>
    rw [List.getLast?_concat, Option.some.injEq] at hL
    subst hL
    obtain ⟨-, -, hpos, -⟩ := (hrel.next t).1 ht
    rw [countP_keptInto_flatMap hg t hnodupF, List.countP_pos_iff] at hpos
    obtain ⟨⟨e, u, v⟩, hmem, hp⟩ := hpos
    simp only [Bool.and_eq_true, beq_iff_eq, Bool.not_eq_true', List.contains_iff_mem] at hp
    obtain ⟨⟨rfl, hback⟩, hu⟩ := hp
    exact ⟨e, u, ⟨mem_edges.1 hmem, hback⟩, hu⟩

/-- Placed nodes and the frontier are distinct nodes, so together they are at most all of them. -/
theorem Peeled.length_le {p : Peeling} {F : List Nat} (h : Peeled g back p F) :
    p.layers.flatten.length + F.length ≤ g.nodeCount := by
  have hsub : (p.layers.flatten ++ F).Subperm (List.range g.nodeCount) := by
    refine List.subperm_of_subset h.nodup fun v hv => List.mem_range.2 ?_
    rcases List.mem_append.1 hv with hv | hv
    · exact h.layers_lt v hv
    · exact h.frontier_lt v hv
  simpa using hsub.length_le

/-- Rounds go on until the frontier is empty: each round places at least one node, so fuel
above the number of unplaced nodes is never used up. -/
theorem run_spec (hg : g.WellFormed) :
    ∀ (fuel : Nat) (p : Peeling) (F : List Nat), Peeled g back p F →
      g.nodeCount < p.layers.flatten.length + fuel → Peeled g back (run g back fuel F p) []
  | 0, p, F, h, hfuel => absurd h.length_le (by omega)
  | _ + 1, p, [], h, _ => h
  | fuel + 1, p, f :: fs, h, hfuel => by
    rw [run_succ_round]
    obtain ⟨h', hlayers⟩ := round_spec hg h (List.cons_ne_nil f fs)
    refine run_spec hg fuel _ _ h' ?_
    have hlen : (g.sortById (f :: fs)).length = fs.length + 1 := (sortById_perm _).length_eq
    have hle := h.length_le
    rw [hlayers, List.flatten_append, List.length_append, List.flatten_singleton, hlen]
    simp only [List.length_cons] at hle
    omega

end Peeling

namespace LayoutGraph

variable {g : LayoutGraph} {back : BackEdges}

/-- A property that every node has in a kept edge from another node having it holds of no
node, when kept edges climb along a numbering. -/
theorem not_of_kept_descent {rank : Nat → Nat}
    (hrank : ∀ e u v, g.Kept back e u v → rank u < rank v) {P : Nat → Prop}
    (hP : ∀ v, P v → ∃ e u, g.Kept back e u v ∧ P u) : ∀ v, ¬P v := by
  -- descend from `v` along kept in-edges: the rank falls at each step
  have hbelow : ∀ n v, rank v < n → ¬P v := by
    intro n
    induction n with
    | zero => intro v hv; omega
    | succ n ih =>
      intro v hv hPv
      obtain ⟨e, u, hk, hPu⟩ := hP v hPv
      exact ih u (by have := hrank e u v hk; omega) hPu
  exact fun v => hbelow (rank v + 1) v (Nat.lt_succ_self _)

/-! ### The start of the peeling -/

theorem getD_foldl_keptInDegree (t : Nat) :
    ∀ (L : List (Nat × Nat × Nat)) (d : Array Nat), t < d.size →
      (L.foldl (fun (d : Array Nat) (e, _, t) =>
        if back.contains e then d else d.modify t (· + 1)) d).getD t 0 =
        d.getD t 0 + L.countP fun x => x.2.2 == t && !back.contains x.1
  | [], d, _ => by simp
  | (e, s, t') :: L, d, ht => by
    rw [List.foldl_cons, List.countP_cons]
    dsimp only
    by_cases hb : back.contains e = true
    · rw [if_pos hb, getD_foldl_keptInDegree t L d ht]
      simp [hb]
    · rw [if_neg hb, getD_foldl_keptInDegree t L _ (by simpa using ht)]
      simp only [Array.getD_eq_getD_getElem?, Array.getElem?_modify]
      by_cases h : t' = t
      · subst h; simp [hb, ht]; omega
      · simp [h]

@[simp] theorem keptInDegree_size : (g.keptInDegree back).size = g.nodeCount := by
  rw [keptInDegree, size_foldl_of_size (fun _ x => by dsimp only; split <;> simp),
    Array.size_replicate]

theorem keptInDegree_getD {t : Nat} (ht : t < g.nodeCount) :
    (g.keptInDegree back).getD t 0 = g.edges.countP fun x => x.2.2 == t && !back.contains x.1 := by
  rw [keptInDegree, getD_foldl_keptInDegree t _ _ (by simpa using ht)]
  simp [Array.getD_eq_getD_getElem?, ht]

/-- The nodes without kept in-edges: the first frontier. -/
def sources (g : LayoutGraph) (back : BackEdges) : List Nat :=
  (List.range g.nodeCount).filter fun v => (g.keptInDegree back).getD v 0 == 0

end LayoutGraph

namespace Peeling

open LayoutGraph

variable {g : LayoutGraph} {back : BackEdges}

/-- The state the peeling starts from: every node unplaced, with its kept in-degree. -/
def start (g : LayoutGraph) (back : BackEdges) : Peeling :=
  { inDegree := g.keptInDegree back, placed := Array.replicate g.nodeCount false, layers := [] }

theorem isPlaced_start {v : Nat} (hv : v < g.nodeCount) : (start g back).isPlaced v = false := by
  simp [isPlaced, start, Array.getD_eq_getD_getElem?, hv]

theorem pending_start (hg : g.WellFormed) (t : Nat) :
    g.pending back (start g back).isPlaced t =
      g.edges.countP fun x => x.2.2 == t && !back.contains x.1 := by
  refine List.countP_congr fun x hx => ?_
  obtain ⟨e, u, v⟩ := x
  rw [isPlaced_start (hg.ends_lt (mem_edges.1 hx)).1]
  simp

theorem Peeled.start (hg : g.WellFormed) : Peeled g back (start g back) (g.sources back) where
  sizeDegree := keptInDegree_size
  sizePlaced := by simp [Peeling.start]
  placed v hv := by
    rw [isPlaced_start hv]
    simp [Peeling.start]
  layers_lt v hv := by simp [Peeling.start] at hv
  nodup := by
    simp only [Peeling.start, List.flatten_nil, List.nil_append]
    exact List.nodup_range.filter _
  frontier_lt v hv := List.mem_range.1 (List.mem_filter.1 hv).1
  degree t ht _ := by
    rw [pending_start hg]
    exact keptInDegree_getD ht
  frontier t ht _ := by
    rw [pending_start hg, sources, List.mem_filter, ← keptInDegree_getD ht]
    simp [ht]
  spec := ⟨by simp [Peeling.start], by simp [Peeling.start], by simp [Peeling.start],
    by simp [Peeling.start]⟩
  reached t _ L hL := by simp [Peeling.start] at hL

/-- An unplaced node outside the frontier still waits on a kept edge from an unplaced node. -/
theorem Peeled.exists_unplaced_pred (hg : g.WellFormed) {p : Peeling} {F : List Nat}
    (h : Peeled g back p F) {t : Nat} (ht : t < g.nodeCount) (hl : t ∉ p.layers.flatten)
    (hF : t ∉ F) : ∃ e u, g.Kept back e u t ∧ u < g.nodeCount ∧ u ∉ p.layers.flatten := by
  have hwait : g.pending back p.isPlaced t ≠ 0 := fun hz => hF ((h.frontier t ht hl).2 hz)
  obtain ⟨e, u, hk, hu⟩ := exists_of_pending_ne_zero hwait
  have huN := (hg.ends_lt hk.1).1
  exact ⟨e, u, hk, huN, (isPlaced_of_lt h huN).1 hu⟩

/-- With the frontier empty, every node is placed, when kept edges climb along a numbering. -/
theorem Peeled.mem_flatten (hg : g.WellFormed) {rank : Nat → Nat}
    (hrank : ∀ e u v, g.Kept back e u v → rank u < rank v) {p : Peeling}
    (h : Peeled g back p []) {v : Nat} (hv : v < g.nodeCount) : v ∈ p.layers.flatten := by
  have hnone := not_of_kept_descent hrank (P := fun v => v < g.nodeCount ∧ v ∉ p.layers.flatten)
    fun v ⟨hv, hl⟩ => by
      obtain ⟨e, u, hk, huN, hu⟩ := h.exists_unplaced_pred hg hv hl List.not_mem_nil
      exact ⟨e, u, hk, huN, hu⟩
  exact Classical.byContradiction fun hl => hnone v ⟨hv, hl⟩

/-- Some node has no kept in-edge, so the peeling never has to seed its first layer. -/
theorem sources_ne_nil (hg : g.WellFormed) {rank : Nat → Nat}
    (hrank : ∀ e u v, g.Kept back e u v → rank u < rank v) (hN : 0 < g.nodeCount) :
    g.sources back ≠ [] := by
  intro hnil
  have hstart : Peeled g back (start g back) (g.sources back) := Peeled.start hg
  rw [hnil] at hstart
  have := hstart.mem_flatten hg hrank hN
  simp [Peeling.start] at this

end Peeling

/-! ### Reading each node's layer back -/

section Write

/-! A fold that writes, for each item `b`, an entry for each node of `S b` and leaves the other
entries alone, reads back at a node the value its one item wrote: `layerIndex` and the
positions of an ordering are both of this kind. -/

variable {β : Type} (w : β → Array Nat → Array Nat) (S : β → List Nat) (val : β → Nat → Nat)
  (hsize : ∀ b a, (w b a).size = a.size)
  (hframe : ∀ b a v, v ∉ S b → (w b a).getD v 0 = a.getD v 0)

include hframe in
theorem getD_foldl_write_of_not_mem :
    ∀ (bs : List β) (a : Array Nat) (v : Nat), (∀ b ∈ bs, v ∉ S b) →
      (bs.foldl (fun a b => w b a) a).getD v 0 = a.getD v 0
  | [], _, _, _ => rfl
  | b :: bs, a, v, hv => by
    rw [List.foldl_cons, getD_foldl_write_of_not_mem bs _ v fun b' hb' => hv b' (.tail b hb'),
      hframe b a v (hv b (.head bs))]

include hsize hframe in
theorem getD_foldl_write :
    ∀ (bs : List β), (∀ b ∈ bs, ∀ a v, v ∈ S b → v < a.size → (w b a).getD v 0 = val b v) →
      ∀ (a : Array Nat) (v : Nat) (b : β), (bs.map S).flatten.Nodup → b ∈ bs → v ∈ S b →
        v < a.size → (bs.foldl (fun a b => w b a) a).getD v 0 = val b v
  | [], _, _, _, _, _, hb, _, _ => absurd hb List.not_mem_nil
  | b₀ :: bs, hwrite, a, v, b, hnd, hb, hv, hva => by
    rw [List.map_cons, List.flatten_cons] at hnd
    rw [List.foldl_cons]
    by_cases hbs : b ∈ bs
    · exact getD_foldl_write bs (fun b' hb' => hwrite b' (.tail b₀ hb')) _ v b
        (List.nodup_append.1 hnd).2.1 hbs hv (by rw [hsize]; exact hva)
    · -- `b` is the head, and no later item mentions `v`
      have hb₀ : b = b₀ := (List.mem_cons.1 hb).resolve_right hbs
      subst hb₀
      have hlater : ∀ b' ∈ bs, v ∉ S b' := fun b' hb' hvb' =>
        (List.nodup_append.1 hnd).2.2 v hv v (List.mem_flatten.2 ⟨S b', List.mem_map_of_mem hb', hvb'⟩) rfl
      rw [getD_foldl_write_of_not_mem w S hframe bs _ v hlater, hwrite b (.head bs) a v hv hva]

end Write

theorem getD_foldl_setLayer (i v : Nat) :
    ∀ (layer : List Nat) (a : Array Nat),
      (layer.foldl (fun a v => a.setIfInBounds v i) a).getD v 0 =
        if v ∈ layer ∧ v < a.size then i else a.getD v 0
  | [], a => by simp
  | w :: layer, a => by
    rw [List.foldl_cons, getD_foldl_setLayer i v layer, Array.size_setIfInBounds]
    simp only [Array.getD_eq_getD_getElem?, Array.getElem?_setIfInBounds, List.mem_cons]
    by_cases hw : w = v
    · subst hw; by_cases hv : w < a.size <;> simp [hv]
    · by_cases hv : v ∈ layer ∧ v < a.size <;> simp [hw, hv, Ne.symm hw]

/-- Each node of a layering without repeats is read back at its layer. -/
theorem layerIndex_getD {layers : List (List Nat)} {n : Nat} (hnd : layers.flatten.Nodup)
    {j v : Nat} {L : List Nat} (hj : layers[j]? = some L) (hv : v ∈ L) (hvn : v < n) :
    (layerIndex layers n).getD v 0 = j :=
  getD_foldl_write (fun (x : List Nat × Nat) a => x.1.foldl (fun a v => a.setIfInBounds v x.2) a)
    Prod.fst (fun x _ => x.2) (fun x a => size_foldl_of_size (fun _ _ => Array.size_setIfInBounds) x.1 a)
    (fun x a v hv => by rw [getD_foldl_setLayer, if_neg fun h => hv h.1])
    layers.zipIdx (fun x _ a v hv hva => by rw [getD_foldl_setLayer, if_pos ⟨hv, hva⟩])
    _ v (L, j) (by rw [List.zipIdx_map_fst]; exact hnd)
    (List.mk_mem_zipIdx_iff_getElem?.2 hj) hv (by simpa using hvn)

/-! ### The layering -/

namespace LayoutGraph

open Peeling

variable {g : LayoutGraph} {back : BackEdges}

/-- When kept edges climb along some numbering, `assignLayers` is the peeling run from the
sources to its end: no node is seeded, no residue layer is added, and the layers satisfy the
longest-path arrangement and hold every node once. -/
theorem assignLayers_spec (hg : g.WellFormed) {rank : Nat → Nat}
    (hrank : ∀ e u v, g.Kept back e u v → rank u < rank v) :
    (g.assignLayers back).seeded = false ∧
      (g.assignLayers back).layers =
        (run g back (g.nodeCount + 1) (g.sources back) (start g back)).layers ∧
      Peeled g back (run g back (g.nodeCount + 1) (g.sources back) (start g back)) [] ∧
      (g.assignLayers back).layers.flatten.Perm (List.range g.nodeCount) := by
  have hstart : Peeled g back (start g back) (g.sources back) := Peeled.start hg
  have hrun := run_spec hg (g.nodeCount + 1) _ _ hstart (by simp [start])
  have hcond : ((g.sources back).isEmpty && decide (g.nodeCount > 0)) = false := by
    by_cases hN : 0 < g.nodeCount
    · simp [sources_ne_nil hg hrank hN]
    · simp [hN]
  have hres : ((List.range g.nodeCount).filter fun v =>
      !(run g back (g.nodeCount + 1) (g.sources back) (start g back)).placed.getD v true) = [] := by
    refine List.filter_eq_nil_iff.2 fun v hv => ?_
    have hvN := List.mem_range.1 hv
    have := (hrun.placed v hvN).2 (hrun.mem_flatten hg hrank hvN)
    simpa [isPlaced] using this
  have hperm : (run g back (g.nodeCount + 1) (g.sources back) (start g back)).layers.flatten.Perm
      (List.range g.nodeCount) := by
    refine (List.subperm_of_subset (by simpa using hrun.nodup)
      fun v hv => List.mem_range.2 (hrun.layers_lt v hv)).perm_of_length_le ?_
    refine (List.subperm_of_subset List.nodup_range fun v hv => ?_).length_le
    exact hrun.mem_flatten hg hrank (List.mem_range.1 hv)
  unfold assignLayers
  simp only [sources, start] at hcond hres hrun hperm ⊢
  have hnil : g.sortById [] = [] := by simp [sortById]
  simp only [hcond, hres, hnil, List.isEmpty_nil, Bool.false_eq_true, ite_false, ite_true,
    true_and]
  exact ⟨hrun, hperm⟩

section Partition

variable {layers : List (List Nat)} (hperm : layers.flatten.Perm (List.range g.nodeCount))
include hperm

/-- Every node lies in the layer its index reads back. -/
theorem exists_mem_layerIndex {v : Nat} (hv : v < g.nodeCount) :
    ∃ L, layers[(layerIndex layers g.nodeCount).getD v 0]? = some L ∧ v ∈ L := by
  obtain ⟨j, L, hj, hvL⟩ := exists_getElem?_of_mem_flatten (hperm.mem_iff.2 (List.mem_range.2 hv))
  rw [layerIndex_getD (hperm.nodup_iff.2 List.nodup_range) hj hvL hv]
  exact ⟨L, hj, hvL⟩

/-- The layer index of a node of layer `j` is `j`. -/
theorem layerIndex_eq_of_mem {j v : Nat} {L : List Nat} (hj : layers[j]? = some L) (hvL : v ∈ L) :
    (layerIndex layers g.nodeCount).getD v 0 = j := by
  have hv : v ∈ List.range g.nodeCount :=
    hperm.subset (List.mem_flatten.2 ⟨L, List.mem_of_getElem? hj, hvL⟩)
  exact layerIndex_getD (hperm.nodup_iff.2 List.nodup_range) hj hvL (List.mem_range.1 hv)

variable (h : g.LongestPath back layers)
include h

/-- A kept edge climbs to a later layer. -/
theorem LongestPath.layerIndex_lt (hg : g.WellFormed) {e u v : Nat} (hk : g.Kept back e u v) :
    (layerIndex layers g.nodeCount).getD u 0 < (layerIndex layers g.nodeCount).getD v 0 := by
  obtain ⟨L, hL, hvL⟩ := exists_mem_layerIndex hperm (hg.ends_lt hk.1).2
  obtain ⟨j, L', hj, hL', huL'⟩ := h.after _ L v hL hvL e u hk
  rw [layerIndex_eq_of_mem hperm hL' huL']
  exact hj

/-- A node above layer 0 has a kept edge from the layer just before its own. -/
theorem LongestPath.exists_layerIndex_succ {v : Nat} (hv : v < g.nodeCount)
    (hpos : 0 < (layerIndex layers g.nodeCount).getD v 0) :
    ∃ e u, g.Kept back e u v ∧
      (layerIndex layers g.nodeCount).getD u 0 + 1 = (layerIndex layers g.nodeCount).getD v 0 := by
  obtain ⟨L, hL, hvL⟩ := exists_mem_layerIndex hperm hv
  obtain ⟨i, hi⟩ : ∃ i, (layerIndex layers g.nodeCount).getD v 0 = i + 1 :=
    ⟨_, (Nat.succ_pred_eq_of_pos hpos).symm⟩
  rw [hi] at hL ⊢
  obtain ⟨e, u, L', hk, hL', huL'⟩ := h.tight i L v hL hvL
  exact ⟨e, u, hk, by rw [layerIndex_eq_of_mem hperm hL' huL']⟩

/-- The longest-path equations: a node's layer is 0 without kept in-edges, and otherwise one
more than the largest layer among the sources of its kept in-edges. -/
theorem LongestPath.layerIndex_eq (hg : g.WellFormed) {v : Nat} (hv : v < g.nodeCount) :
    ((∀ e u, ¬g.Kept back e u v) → (layerIndex layers g.nodeCount).getD v 0 = 0) ∧
      (∀ e u, g.Kept back e u v →
        (layerIndex layers g.nodeCount).getD u 0 + 1 ≤ (layerIndex layers g.nodeCount).getD v 0) ∧
      (∀ e u, g.Kept back e u v → ∃ e' u', g.Kept back e' u' v ∧
        (layerIndex layers g.nodeCount).getD u' 0 + 1 = (layerIndex layers g.nodeCount).getD v 0) := by
  refine ⟨fun hnone => ?_, fun e u hk => h.layerIndex_lt hperm hg hk, fun e u hk => ?_⟩
  · refine Nat.eq_zero_of_not_pos fun hpos => ?_
    obtain ⟨e, u, hk, -⟩ := h.exists_layerIndex_succ hperm hv hpos
    exact hnone e u hk
  · exact h.exists_layerIndex_succ hperm hv (Nat.lt_of_le_of_lt (Nat.zero_le _)
      (h.layerIndex_lt hperm hg hk))

end Partition

end LayoutGraph

end FlowLayout
