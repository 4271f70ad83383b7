import Mathlib
import FlowLayout.Proofs.Builder
import FlowLayout.Proofs.Crossing
import FlowLayout.Proofs.Placement
/-!
# Clear routes avoid third nodes

Over exact scalars a route flagged clear touches the padded box of no node other than its two
ends (`clear_route_avoids_third_nodes`).

Every way of routing decides `clear` by counting the obstacles a polyline meets, and a count of
zero means the polyline meets none of them (`Obstacles.hits_eq_zero`), hence touches none
(`polylineMeetsRect_of_touches`). What remains is that the drawn path is the polyline counted:

* a direct route is drawn along its chord, counted first, or along its curve, kept only when its
  own count is zero; the straightened fallback is the chord (`routeBetween_clear`);
* a detour is simplified and counted, then reassembled from its first point, its middle and its
  last point, which gives it back once it has two points (`reassemble_eq`). Every candidate runs
  from the middle of a face of the source box to the middle of a face of the target box, and
  simplification keeps both ends (`simplifyPolyline_ends`); the boxes of two distinct nodes
  share no point (`boxesOf_apart`), so the ends differ (`orthogonalDetour_clear`);
* a self-loop keeps one of its four-point candidates with that candidate's count
  (`selfLoopRoute_clear`).
-/

namespace FlowLayout

/-! ### Obstacles -/

section Count

variable {α : Type} [Scalar α]

/-- A polyline with no hits meets no obstacle other than its ends'. -/
theorem Obstacles.hits_eq_zero {o : Obstacles α} {pts : List (Point α)} (h : o.hits pts = 0)
    {i : Nat} (hi : i < o.padded.size) (hs : i ≠ o.source) (ht : i ≠ o.target) :
    polylineMeetsRect pts o.padded[i] = false := by
  unfold Obstacles.hits at h
  have hmem : (o.padded[i], i) ∈ o.padded.toList.zipIdx :=
    List.mk_mem_zipIdx_iff_getElem?.2 (by simp [hi])
  have hnot := List.filter_eq_nil_iff.1 (List.length_eq_zero_iff.1 h) _ hmem
  simpa [hs, ht] using hnot

/-- Without a third obstacle no polyline has hits. -/
theorem Obstacles.hits_eq_zero_of_ends {o : Obstacles α}
    (h : ∀ i < o.padded.size, i = o.source ∨ i = o.target) (pts : List (Point α)) :
    o.hits pts = 0 := by
  unfold Obstacles.hits
  refine List.length_eq_zero_iff.2 (List.filter_eq_nil_iff.2 fun ⟨r, i⟩ hmem => ?_)
  have hi : i < o.padded.size := by simpa using (List.mem_zipIdx hmem).2.1
  rcases h i hi with rfl | rfl <;> simp

/-- A list of at least two points is its first point, its middle and its last point. -/
theorem reassemble_eq {β : Type} {l : List β} (h : 2 ≤ l.length) (a b : β) :
    l.headD a :: (l.drop 1).dropLast ++ [l.getLastD b] = l := by
  match l, h with
  | x :: y :: rest, _ =>
    simp only [List.cons_append, List.headD_cons, List.drop_one, List.tail_cons,
      List.getLastD_eq_getLast?, List.getLast?_cons_cons]
    rw [List.getLast?_eq_some_getLast (List.cons_ne_nil y rest), Option.getD_some,
      List.dropLast_append_getLast]

/-- A list whose first and last points differ has at least two points. -/
theorem two_le_length_of_ends {β : Type} {l : List β} {a b : β} (ha : l.head? = some a)
    (hb : l.getLast? = some b) (hab : a ≠ b) : 2 ≤ l.length := by
  match l with
  | [] => simp at ha
  | [x] =>
    simp only [List.head?_cons, List.getLast?_singleton, Option.some.injEq] at ha hb
    exact absurd (ha.symm.trans hb) hab
  | _ :: _ :: _ => simp

end Count

/-! ### Simplified polylines keep their ends -/

section Simplify

variable {α : Type} [Scalar α]

/-- One step of `simplifyPolyline`, on the points kept so far, last first. -/
def simplifyStep (acc : List (Point α)) (p : Point α) : List (Point α) :=
  match acc with
  | last :: _ => if last.same p then acc else dropCollinear (acc.length + 1) (p :: acc)
  | [] => [p]

theorem simplifyPolyline_eq (pts : List (Point α)) :
    simplifyPolyline pts =
      if pts.length ≤ 2 then pts else (pts.foldl simplifyStep []).reverse :=
  rfl

/-- Dropping middles of axis-aligned runs keeps the newest point. -/
theorem dropCollinear_head? (fuel : Nat) (l : List (Point α)) :
    (dropCollinear fuel l).head? = l.head? := by
  fun_induction dropCollinear fuel l with
  | case2 fuel c b a rest _ ih => rw [ih]; rfl
  | _ => rfl

/-- Dropping middles of axis-aligned runs keeps the oldest point. -/
theorem dropCollinear_getLast? (fuel : Nat) (l : List (Point α)) :
    (dropCollinear fuel l).getLast? = l.getLast? := by
  fun_induction dropCollinear fuel l with
  | case2 fuel c b a rest _ ih =>
    rw [ih]
    simp [List.getLast?_cons_cons]
  | _ => rfl

end Simplify

section SimplifyExact

theorem simplifyStep_head? (acc : List (Point ℝ)) (p : Point ℝ) :
    (simplifyStep acc p).head? = some p := by
  unfold simplifyStep
  split
  · next last rest =>
    split
    · next hsame => rw [(Point.same_iff _ _).1 hsame]; rfl
    · rw [dropCollinear_head?]; rfl
  · rfl

theorem simplifyStep_getLast? {acc : List (Point ℝ)} (h : acc ≠ []) (p : Point ℝ) :
    (simplifyStep acc p).getLast? = acc.getLast? := by
  unfold simplifyStep
  split
  · next last rest =>
    split
    · rfl
    · rw [dropCollinear_getLast?, List.getLast?_cons_cons]
  · exact absurd rfl h

theorem foldl_simplifyStep_getLast? :
    ∀ (ps acc : List (Point ℝ)), acc ≠ [] →
      (ps.foldl simplifyStep acc).getLast? = acc.getLast?
  | [], _, _ => rfl
  | p :: ps, acc, h => by
    have hne : simplifyStep acc p ≠ [] := fun hnil => by
      simpa [hnil] using simplifyStep_head? acc p
    rw [List.foldl_cons, foldl_simplifyStep_getLast? ps _ hne, simplifyStep_getLast? h]

theorem foldl_simplifyStep_head? :
    ∀ (ps acc : List (Point ℝ)), ps ≠ [] → (ps.foldl simplifyStep acc).head? = ps.getLast?
  | [], _, h => absurd rfl h
  | [p], acc, _ => simplifyStep_head? acc p
  | p :: q :: ps, acc, _ => by
    rw [List.foldl_cons, foldl_simplifyStep_head? (q :: ps) _ (List.cons_ne_nil q ps),
      List.getLast?_cons_cons]

/-- Simplifying a polyline keeps its first and its last point. -/
theorem simplifyPolyline_ends (pts : List (Point ℝ)) :
    (simplifyPolyline pts).head? = pts.head? ∧
      (simplifyPolyline pts).getLast? = pts.getLast? := by
  rw [simplifyPolyline_eq]
  split
  · exact ⟨rfl, rfl⟩
  · match pts with
    | [] => exact ⟨rfl, rfl⟩
    | p :: ps =>
      -- the first step keeps `p`, which stays the oldest point kept
      rw [List.foldl_cons, List.head?_reverse, List.getLast?_reverse]
      have hfirst : simplifyStep [] p = [p] := rfl
      rw [hfirst]
      refine ⟨foldl_simplifyStep_getLast? ps [p] (List.cons_ne_nil p []), ?_⟩
      cases ps with
      | nil => rfl
      | cons q qs =>
        rw [foldl_simplifyStep_head? (q :: qs) [p] (List.cons_ne_nil q qs),
          List.getLast?_cons_cons]

end SimplifyExact

/-! ### Detours -/

section Detour

variable {α : Type}

/-- A detour reported clear is the evaluation of one of the candidates, with no hits. -/
theorem firstClear_clear (evaluate : List (Point α) → List (Point α) × Nat) :
    ∀ (cands : List (List (Point α))) (best : Option (List (Point α) × Nat))
      (pts : List (Point α)), firstClear evaluate cands best = (pts, true) →
        ∃ c ∈ cands, evaluate c = (pts, 0)
  | [], best, pts, h => by
    cases best <;> simp [firstClear] at h
  | c :: rest, best, pts, h => by
    rw [firstClear] at h
    cases hc : evaluate c with
    | mk pts' hits =>
      simp only [hc] at h
      split at h
      · next hz =>
        simp only [Prod.mk.injEq] at h
        rw [beq_iff_eq] at hz
        exact ⟨c, List.mem_cons_self, by rw [hc, h.1, hz]⟩
      · obtain ⟨c', hc', heval⟩ := firstClear_clear evaluate rest _ pts h
        exact ⟨c', .tail _ hc', heval⟩

variable [Scalar α]

/-- Every detour candidate runs from `start` to `finish`. -/
theorem detourCandidates_ends (start finish : Point α) (sign : α) (config : LayoutConfig α) :
    ∀ cand ∈ detourCandidates start finish sign config,
      cand.head? = some start ∧ cand.getLast? = some finish := by
  intro cand hcand
  simp only [detourCandidates, List.mem_cons, List.mem_map] at hcand
  rcases hcand with rfl | ⟨attempt, -, rfl⟩
  · exact ⟨rfl, rfl⟩
  · exact ⟨rfl, rfl⟩

end Detour

/-- The midpoints of a box's faces lie in the box. -/
theorem faceMid_mem (r : Rect ℝ) (hw : 0 ≤ r.width) (hh : 0 ≤ r.height) {σ : ℝ}
    (hσ : σ = 1 ∨ σ = -1) :
    r.contains ⟨r.center.x, r.center.y + σ * (r.height / 2)⟩ = true ∧
      r.contains ⟨r.center.x + σ * (r.width / 2), r.center.y⟩ = true := by
  have hc : r.center = ⟨r.x + r.width / 2, r.y + r.height / 2⟩ := by
    rw [Point.ext_iff']
    simp [Rect.center]
  rw [hc, Rect.contains_iff, Rect.contains_iff]
  rcases hσ with rfl | rfl <;> refine ⟨⟨?_, ?_, ?_, ?_⟩, ?_, ?_, ?_, ?_⟩ <;> dsimp only <;>
    linarith

section DetourExact

variable {sb tb : Rect ℝ} {o : Obstacles ℝ} {config : LayoutConfig ℝ}

/-- An orthogonal detour tries its candidates in a frame where the route leaves vertically; the
first candidate point is the middle of a face of the source box and the last the middle of a
face of the target box. -/
theorem orthogonalDetour_frame (hsb : 0 ≤ sb.width ∧ 0 ≤ sb.height)
    (htb : 0 ≤ tb.width ∧ 0 ≤ tb.height) :
    ∃ (frame : Point ℝ → Point ℝ) (start finish : Point ℝ) (sign : ℝ),
      sb.contains (frame start) = true ∧ tb.contains (frame finish) = true ∧
      orthogonalDetour sb tb o config =
        firstClear (fun inFrame => (simplifyPolyline (inFrame.map frame),
          o.hits (simplifyPolyline (inFrame.map frame))))
          (detourCandidates start finish sign config) none := by
  let vf : Prop := Scalar.abs (tb.center.x - sb.center.x) ≤ Scalar.abs (tb.center.y - sb.center.y)
  let frame := fun p : Point ℝ => if vf then p else p.swap
  let extents : ℝ × ℝ :=
    if vf then (sb.height / 2.0, tb.height / 2.0) else (sb.width / 2.0, tb.width / 2.0)
  let sign : ℝ := if (frame sb.center).y ≤ (frame tb.center).y then 1.0 else -1.0
  have hsign : sign = 1 ∨ sign = -1 := by
    simp only [sign]
    split
    · left; norm_num
    · right; norm_num
  have hneg : -sign = 1 ∨ -sign = -1 := by
    rcases hsign with h | h <;> rw [h] <;> norm_num
  refine ⟨frame, ⟨(frame sb.center).x, (frame sb.center).y + sign * extents.1⟩,
    ⟨(frame tb.center).x, (frame tb.center).y - sign * extents.2⟩, sign, ?_, ?_, rfl⟩
  · -- the start is the middle of the source box's face toward the target
    by_cases hvf : vf
    · simp only [frame, extents, hvf, if_true]
      simpa using (faceMid_mem sb hsb.1 hsb.2 hsign).1
    · simp only [frame, extents, hvf, if_false, Point.swap]
      simpa using (faceMid_mem sb hsb.1 hsb.2 hsign).2
  · by_cases hvf : vf
    · simp only [frame, extents, hvf, if_true, sub_eq_add_neg, ← neg_mul]
      simpa using (faceMid_mem tb htb.1 htb.2 hneg).1
    · simp only [frame, extents, hvf, if_false, Point.swap, sub_eq_add_neg, ← neg_mul]
      simpa using (faceMid_mem tb htb.1 htb.2 hneg).2

/-- A detour between two boxes that share no point, reported clear, has no hits and at least
two points: its ends lie one in each box. -/
theorem orthogonalDetour_clear (hsb : 0 ≤ sb.width ∧ 0 ≤ sb.height)
    (htb : 0 ≤ tb.width ∧ 0 ≤ tb.height) (hapart : sb.Apart tb) {pts : List (Point ℝ)}
    (h : orthogonalDetour sb tb o config = (pts, true)) : o.hits pts = 0 ∧ 2 ≤ pts.length := by
  obtain ⟨frame, start, finish, sign, hstart, hfinish, heq⟩ :=
    @orthogonalDetour_frame sb tb o config hsb htb
  rw [heq] at h
  obtain ⟨cand, hcand, heval⟩ := firstClear_clear _ _ _ _ h
  simp only [Prod.mk.injEq] at heval
  obtain ⟨hpts, hhits⟩ := heval
  obtain ⟨hhead, hlast⟩ := detourCandidates_ends _ _ _ _ cand hcand
  obtain ⟨hhead', hlast'⟩ := simplifyPolyline_ends (cand.map frame)
  rw [hpts] at hhead' hlast' hhits
  refine ⟨hhits, two_le_length_of_ends (a := frame start) (b := frame finish)
    (hhead'.trans (by simp [List.head?_map, hhead]))
    (hlast'.trans (by simp [List.getLast?_map, hlast])) fun hsame => ?_⟩
  have hout := hapart _ hstart
  rw [hsame, hfinish] at hout
  exact Bool.noConfusion hout

end DetourExact

/-! ### Direct routes -/

section Direct

variable {α : Type} [Scalar α] (p q : Point α) (offset curveFactor : α)

theorem directRoute_clear : (directRoute p q offset curveFactor).clear = true := by
  unfold directRoute
  dsimp only
  split_ifs <;> rfl

/-- A direct route that is not a curve is drawn along its chord. -/
theorem directRoute_pathPoints (h : (directRoute p q offset curveFactor).kind ≠ .curved) :
    (directRoute p q offset curveFactor).pathPoints = [p, q] := by
  unfold directRoute at h ⊢
  dsimp only at h ⊢
  -- the straight route is the chord; the curved one contradicts the hypothesis
  split_ifs at h ⊢ <;> first | rfl | exact absurd rfl h

end Direct

/-- Unbent, the direct route is the chord. -/
theorem directRoute_unbent (p q : Point ℝ) : (directRoute p q 0.0 0.0).kind = .straight := by
  have h0 : (0.0 : ℝ) = 0 := by norm_num
  have htol : (0 : ℝ) < 0.001 := by norm_num
  unfold directRoute
  dsimp only
  rw [if_pos]
  simp only [h0, mul_zero, ite_self, add_zero, Scalar.abs_real, abs_zero, Bool.or_eq_true,
    decide_eq_true_eq]
  exact .inr htol

/-! ### Routes between two nodes -/

/-- A route between two boxes that share no point, reported clear, has no hits along its drawn
path. -/
theorem routeBetween_clear {ss ts : NodeShape} {sb tb : Rect ℝ} {o : Obstacles ℝ} {offset : ℝ}
    {config : LayoutConfig ℝ} (hsb : 0 ≤ sb.width ∧ 0 ≤ sb.height)
    (htb : 0 ≤ tb.width ∧ 0 ≤ tb.height) (hapart : sb.Apart tb)
    (h : (routeBetween ss sb ts tb o offset config).clear = true) :
    o.hits (routeBetween ss sb ts tb o offset config).pathPoints = 0 := by
  unfold routeBetween at h ⊢
  dsimp only at h ⊢
  by_cases hpq : o.hits [shapeAnchor ss sb tb.center, shapeAnchor ts tb sb.center] = 0
  · -- the chord is clear: the route is direct
    rw [if_pos (by simpa using hpq)]
    by_cases hbent : ((directRoute (shapeAnchor ss sb tb.center) (shapeAnchor ts tb sb.center)
        offset config.curveFactor).kind == .curved &&
        decide (o.hits (directRoute (shapeAnchor ss sb tb.center) (shapeAnchor ts tb sb.center)
          offset config.curveFactor).pathPoints > 0)) = true
    · -- a curve that hits is straightened into the chord
      rw [if_pos hbent, directRoute_pathPoints _ _ _ _ (by rw [directRoute_unbent]; decide)]
      exact hpq
    · rw [if_neg hbent]
      by_cases hk : (directRoute (shapeAnchor ss sb tb.center) (shapeAnchor ts tb sb.center) offset
          config.curveFactor).kind = .curved
      · -- a curve is kept only when it has no hits
        simpa [hk] using hbent
      · rw [directRoute_pathPoints _ _ _ _ hk]
        exact hpq
  · -- the chord hits: the route is the detour, reassembled from its polyline
    rw [if_neg (by simpa using hpq)] at h ⊢
    cases hd : orthogonalDetour sb tb o config with
    | mk pts clear =>
      simp only [hd] at h ⊢
      rw [h] at hd
      obtain ⟨hhits, hlen⟩ := orthogonalDetour_clear hsb htb hapart hd
      simp only [RoutedEdge.pathPoints, RoutedEdge.points]
      rw [reassemble_eq hlen]
      exact hhits

/-- Without a third obstacle a route between two nodes is direct, and clear. -/
theorem routeBetween_clear_of_ends {α : Type} [Scalar α] {ss ts : NodeShape} {sb tb : Rect α}
    {o : Obstacles α} {offset : α} {config : LayoutConfig α} (h : ∀ pts, o.hits pts = 0) :
    (routeBetween ss sb ts tb o offset config).clear = true := by
  unfold routeBetween
  dsimp only
  rw [if_pos (by simp [h])]
  split <;> exact directRoute_clear ..

/-! ### Self-loops -/

section Loop

variable {α : Type} [Scalar α]

theorem loopPoints_length (r : Rect α) (nx ny : α) : (loopPoints r nx ny).length = 4 := by
  unfold loopPoints
  split <;> rfl

/-- One side tried by `selfLoopRoute`: the best candidate so far with its count, and whether a
clear one was found. -/
def loopStep (r : Rect α) (o : Obstacles α) (st : Option (List (Point α) × Nat) × Bool)
    (side : α × α) : Option (List (Point α) × Nat) × Bool :=
  if st.2 then st
  else
    let pts := loopPoints r side.1 side.2
    let best := match st.1 with
      | some (b, h) => if o.hits pts < h then some (pts, o.hits pts) else some (b, h)
      | none => some (pts, o.hits pts)
    (best, o.hits pts == 0)

theorem selfLoopRoute_eq (e : Nat) (r : Rect α) (o : Obstacles α) (back : Bool) :
    selfLoopRoute e r o back =
      let picked := ((loopSides : List (α × α)).foldl (loopStep r o) (none, false)).1.getD
        (loopPoints r 1.0 0.0, 0)
      { edgeIndex := e, anchorFrom := picked.1.headD ⟨0.0, 0.0⟩,
        anchorTo := picked.1.getLastD ⟨0.0, 0.0⟩, waypoints := (picked.1.drop 1).dropLast,
        controlPoint := none, kind := .selfLoop, backEdge := back, clear := picked.2 == 0 } :=
  rfl

/-- The best side so far is a four-point loop, kept with its own count. -/
def LoopKept (o : Obstacles α) (st : Option (List (Point α) × Nat) × Bool) : Prop :=
  ∃ b, st.1 = some (b, o.hits b) ∧ b.length = 4

/-- Once a side was tried, every further side keeps a loop with its own count. -/
theorem loopStep_keeps (r : Rect α) (o : Obstacles α) {st : Option (List (Point α) × Nat) × Bool}
    (side : α × α) (h : LoopKept o st) : LoopKept o (loopStep r o st side) := by
  obtain ⟨b, hb, hlen⟩ := h
  unfold loopStep
  split
  · exact ⟨b, hb, hlen⟩
  · dsimp only
    rw [hb]
    dsimp only
    split
    · exact ⟨_, rfl, loopPoints_length r _ _⟩
    · exact ⟨b, rfl, hlen⟩

/-- A self-loop reported clear has no hits along its drawn path: the candidate it keeps comes
with its own count. -/
theorem selfLoopRoute_clear (e : Nat) (r : Rect α) (o : Obstacles α) (back : Bool)
    (h : (selfLoopRoute e r o back).clear = true) :
    o.hits (selfLoopRoute e r o back).pathPoints = 0 := by
  rw [selfLoopRoute_eq] at h ⊢
  have hkept : LoopKept o ((loopSides : List (α × α)).foldl (loopStep r o) (none, false)) := by
    rw [show (loopSides : List (α × α)) =
      (1.0, 0.0) :: [(-1.0, 0.0), (0.0, 1.0), (0.0, -1.0)] from rfl, List.foldl_cons]
    exact foldl_invariant (LoopKept o) _ (fun _ side h => loopStep_keeps r o side h) _ _
      ⟨_, rfl, loopPoints_length r _ _⟩
  obtain ⟨b, hb, hlen⟩ := hkept
  simp only [hb, Option.getD_some, beq_iff_eq] at h ⊢
  simp only [RoutedEdge.pathPoints, RoutedEdge.points]
  rw [reassemble_eq (by omega)]
  exact h

end Loop

/-! ### Routes of a layout -/

section Edge

variable {c : Flowchart} {g : LayoutGraph} {boxes : Array (Rect ℝ)} {back : BackEdges}
  {config : LayoutConfig ℝ}

/-- The route of an edge reported clear has no hits along its drawn path, given that the boxes
of its two ends have sizes and, for two distinct ends, share no point. -/
theorem routeEdge_hits {seen : List (Nat × Nat)} {e u v : Nat}
    (hsize : ∀ i, i = u ∨ i = v → 0 ≤ (boxes.getD i ⟨0.0, 0.0, 0.0, 0.0⟩).width ∧
      0 ≤ (boxes.getD i ⟨0.0, 0.0, 0.0, 0.0⟩).height)
    (hapart : u ≠ v →
      (boxes.getD u ⟨0.0, 0.0, 0.0, 0.0⟩).Apart (boxes.getD v ⟨0.0, 0.0, 0.0, 0.0⟩))
    (h : (routeEdge c g boxes back config seen e u v).clear = true) :
    ({ padded := boxes.map (·.padded config.obstaclePadding), source := u, target := v } :
      Obstacles ℝ).hits (routeEdge c g boxes back config seen e u v).pathPoints = 0 := by
  unfold routeEdge at h ⊢
  dsimp only at h ⊢
  by_cases huv : u = v
  · -- a self-loop
    subst huv
    rw [if_pos (beq_self_eq_true u)] at h ⊢
    exact selfLoopRoute_clear _ _ _ _ h
  · -- a route between two nodes, renumbered: renumbering keeps its path and its flag
    rw [if_neg (by simpa using huv)] at h ⊢
    exact routeBetween_clear (hsize u (.inl rfl)) (hsize v (.inr rfl)) (hapart huv) h

end Edge

section Layout

variable (c : Flowchart) (s : LayoutConfig ℝ)

/-- In a layout run, a route reported clear has no hits along its drawn path, the obstacles
being the padded boxes of all nodes other than its edge's two ends. -/
theorem layout_route_hits {r : RoutedEdge ℝ} (hr : r ∈ (layoutChart c s).layout.routedEdges)
    (hclear : r.clear = true) :
    ∃ u v, (LayoutGraph.ofChart c).ends r.edgeIndex = some (u, v) ∧
      ({ padded := (boxesOf c s).map (·.padded s.sanitized.obstaclePadding)
         source := u, target := v } : Obstacles ℝ).hits r.pathPoints = 0 := by
  rw [layout_routedEdges_eq] at hr
  obtain ⟨seen, e, u, v, hends, rfl⟩ := mem_routeEdges _ _ _ _ _ hr
  have hlt := (LayoutGraph.ofChart_wellFormed c).ends_lt hends
  simp only [LayoutGraph.ofChart_nodeCount] at hlt
  refine ⟨u, v, by rw [routeEdge_edgeIndex]; exact hends, routeEdge_hits (fun i hi => ?_)
    (fun huv => boxesOf_apart c s hlt.1 hlt.2 huv _) hclear⟩
  -- the boxes of the two ends have the spacing's node size, which is positive
  have hi' : i < c.nodes.length := by rcases hi with rfl | rfl <;> omega
  obtain ⟨hw, hh, -, -⟩ := spacingOf_pos c s
  rw [(boxesOf_getD_size c s hi' _).1, (boxesOf_getD_size c s hi' _).2]
  exact ⟨hw.le, hh.le⟩

/-- Read over exact numbers, every route of a layout reported clear avoids third nodes: no
segment of its drawn path (the flattened curve for a curved route, anchors and waypoints
otherwise) shares a point with the bounds of a node other than its edge's two ends, grown by
the repaired obstacle padding. -/
theorem clear_route_avoids_third_nodes :
    ∀ r ∈ (layoutChart c s).layout.routedEdges, r.clear = true →
      ∃ u v, (LayoutGraph.ofChart c).ends r.edgeIndex = some (u, v) ∧
        ∀ p ∈ (layoutChart c s).layout.nodes, p.nodeIndex ≠ u → p.nodeIndex ≠ v →
          ¬ Touches r.pathPoints (p.bounds.padded s.sanitized.obstaclePadding) := by
  intro r hr hclear
  obtain ⟨u, v, hends, hhits⟩ := layout_route_hits c s hr hclear
  refine ⟨u, v, hends, fun p hp hu hv htouch => ?_⟩
  obtain ⟨i, hi⟩ := List.getElem?_of_mem hp
  obtain ⟨hlt, rfl, hbounds⟩ := layout_bounds c s hi
  have hsize : p.nodeIndex < (boxesOf c s).size := by rw [size_boxesOf]; exact hlt
  have hsize' : p.nodeIndex <
      ((boxesOf c s).map (·.padded s.sanitized.obstaclePadding)).size := by
    rw [Array.size_map]
    exact hsize
  have hmiss := Obstacles.hits_eq_zero hhits hsize' hu hv
  have hbox : p.bounds = (boxesOf c s)[p.nodeIndex] := by
    rw [hbounds, Array.getD_eq_getD_getElem?, Array.getElem?_eq_getElem hsize, Option.getD_some]
  rw [Array.getElem_map, ← hbox] at hmiss
  rw [polylineMeetsRect_of_touches htouch] at hmiss
  exact Bool.noConfusion hmiss

end Layout

/-- Two nodes joined by one edge: the edge's route is clear, and it avoids every third node. -/
theorem pair_route_avoids_third_nodes :
    let c : Flowchart :=
      { nodes := [{ id := "A" }, { id := "B" }], edges := [{ source := "A", target := "B" }] }
    let s : LayoutConfig ℝ := LayoutConfig.default
    ∃ r ∈ (layoutChart c s).layout.routedEdges, r.clear = true ∧
      ∃ u v, (LayoutGraph.ofChart c).ends r.edgeIndex = some (u, v) ∧
        ∀ p ∈ (layoutChart c s).layout.nodes, p.nodeIndex ≠ u → p.nodeIndex ≠ v →
          ¬ Touches r.pathPoints (p.bounds.padded s.sanitized.obstaclePadding) := by
  intro c s
  have hedges : (LayoutGraph.ofChart c).edges = [(0, 0, 1)] := by decide +kernel
  have hroutes : (layoutChart c s).layout.routedEdges =
      [routeEdge c (LayoutGraph.ofChart c) (boxesOf c s) (LayoutGraph.ofChart c).backEdges
        s.sanitized [] 0 0 1] := by
    rw [layout_routedEdges_eq, routeEdges, hedges]
    rfl
  -- the two boxes are those of the edge's ends, so no polyline has hits
  have hclear : (routeEdge c (LayoutGraph.ofChart c) (boxesOf c s)
      (LayoutGraph.ofChart c).backEdges s.sanitized [] 0 0 1).clear = true := by
    unfold routeEdge
    dsimp only
    refine routeBetween_clear_of_ends (Obstacles.hits_eq_zero_of_ends fun i hi => ?_)
    have hlen : c.nodes.length = 2 := rfl
    have : i < 2 := by simpa [size_boxesOf, hlen] using hi
    show i = 0 ∨ i = 1
    omega
  have hr : _ ∈ (layoutChart c s).layout.routedEdges := hroutes ▸ List.mem_singleton_self _
  exact ⟨_, hr, hclear, clear_route_avoids_third_nodes c s _ hr hclear⟩

end FlowLayout
