import Mathlib
import FlowLayout.Proofs.Anchors
/-!
# Parallel edges are drawn apart

Several edges between the same two nodes fan out: `routeEdge` offsets the `i`-th of `k` of them
by `(i - (k - 1) / 2) · 12`, measured from the lower node index to the higher, and the direct
route bends its curve across the chord by that offset, plus `length · curve factor` when the
chord runs diagonally.

Read over exact numbers, two such edges drawn as direct routes, at least one of them curved,
never cover the same points when they run the same way, nor when they run opposite ways along
a chord that is not diagonal (`parallel_routes_drawn_apart`). The proof measures every point by
`chordSide`, its signed distance from the chord's line scaled by the chord's length: the
points of a flattened curve lie at most half as far across as its control point, and the
middle one exactly half as far, so two curves over one chord with the same points have equal
bends (`CurvesAcross.bend_eq`), and a curve never has the points of its chord
(`CurvesAcross.not_onChord`).

Opposite edges along a diagonal chord can cancel: the curve factor bends both the same way
relative to their own directions, which is opposite relative to the pair, so a curve-factor
bend equal to the fan offset straightens both onto one chord. Two curves that both clip a
neighbour are straightened onto one chord too, which is why one of the two must stay curved.
-/

namespace FlowLayout

variable {α : Type} [Scalar α]

/-! ### Node pairs -/

/-- The node pairs of the edges between distinct nodes, in order: what `routeStep` keeps. -/
def pairKeys (edges : List (Nat × Nat × Nat)) : List (Nat × Nat) :=
  (edges.filter fun x => x.2.1 != x.2.2).map fun x => pairKey x.2.1 x.2.2

@[simp] theorem pairKeys_nil : pairKeys [] = [] := rfl

@[simp] theorem pairKeys_append (L M : List (Nat × Nat × Nat)) :
    pairKeys (L ++ M) = pairKeys L ++ pairKeys M := by
  simp [pairKeys]

theorem pairKeys_cons (e s t : Nat) (L : List (Nat × Nat × Nat)) :
    pairKeys ((e, s, t) :: L) = (if s = t then [] else [pairKey s t]) ++ pairKeys L := by
  by_cases hst : s = t <;> simp [pairKeys, hst]

theorem pairKeys_sublist {L M : List (Nat × Nat × Nat)} (h : L.Sublist M) :
    (pairKeys L).Sublist (pairKeys M) :=
  (h.filter _).map _

/-! ### Counting the pairs routed before an edge -/

theorem pairKey_comm (s t : Nat) : pairKey t s = pairKey s t := by
  simp only [pairKey, min_comm, max_comm]

/-- The pair of two distinct nodes is never that of a self-loop. -/
theorem pairKey_ne_loop {s t : Nat} (hst : s ≠ t) (a : Nat) : pairKey a a ≠ pairKey s t := by
  intro h
  simp only [pairKey, Prod.ext_iff] at h
  omega

/-- The number of edges of a pair of distinct nodes, counted as `routeEdge` counts them. -/
theorem count_pairKeys {s t : Nat} (hst : s ≠ t) : ∀ L : List (Nat × Nat × Nat),
    (pairKeys L).count (pairKey s t) =
      (L.filter fun x => pairKey x.2.1 x.2.2 == pairKey s t).length
  | [] => rfl
  | (e, a, b) :: L => by
    rw [pairKeys_cons, List.count_append, count_pairKeys hst L, List.filter_cons]
    by_cases hab : a = b
    · subst hab
      simp [pairKey_ne_loop hst]
    · by_cases hk : pairKey a b = pairKey s t <;> simp [hab, hk, Nat.add_comm]

/-- An edge of the pair at position `i` is counted after position `i`. -/
theorem count_pairKeys_take_succ {L : List (Nat × Nat × Nat)} {i e a b : Nat}
    (hx : L[i]? = some (e, a, b)) {s t : Nat} (hst : s ≠ t) (hpair : pairKey a b = pairKey s t) :
    (pairKeys (L.take (i + 1))).count (pairKey s t) =
      (pairKeys (L.take i)).count (pairKey s t) + 1 := by
  have hab : a ≠ b := by
    rintro rfl
    exact pairKey_ne_loop hst _ hpair
  rw [List.take_add_one, hx, Option.toList_some, pairKeys_append, List.count_append,
    pairKeys_cons]
  simp [hab, hpair]

/-- An edge of the pair at position `i` is counted before every later position. -/
theorem count_pairKeys_take_lt {L : List (Nat × Nat × Nat)} {i j e a b : Nat} (hij : i < j)
    (hx : L[i]? = some (e, a, b)) {s t : Nat} (hst : s ≠ t) (hpair : pairKey a b = pairKey s t) :
    (pairKeys (L.take i)).count (pairKey s t) < (pairKeys (L.take j)).count (pairKey s t) := by
  have hstep := count_pairKeys_take_succ hx hst hpair
  have hmono := (pairKeys_sublist (List.take_sublist_take_left (l := L)
    (show i + 1 ≤ j from hij))).count_le (pairKey s t)
  omega

/-- Two edges of one pair at different positions come after different numbers of edges of the
pair, and the pair has more than one edge. -/
theorem count_pairKeys_take_ne {L : List (Nat × Nat × Nat)} {i j e a b e' a' b' : Nat}
    (hij : i ≠ j) (hx : L[i]? = some (e, a, b)) (hy : L[j]? = some (e', a', b')) {s t : Nat}
    (hst : s ≠ t) (hpair : pairKey a b = pairKey s t) (hpair' : pairKey a' b' = pairKey s t) :
    (pairKeys (L.take i)).count (pairKey s t) ≠ (pairKeys (L.take j)).count (pairKey s t) ∧
      1 < (pairKeys L).count (pairKey s t) := by
  -- every position is before the end of the list
  have hend : ∀ {k e a b : Nat}, L[k]? = some (e, a, b) → pairKey a b = pairKey s t →
      (pairKeys (L.take k)).count (pairKey s t) < (pairKeys L).count (pairKey s t) := by
    intro k e a b hk hp
    have hlt : k < L.length := (List.getElem?_eq_some_iff.1 hk).1
    have h := count_pairKeys_take_lt hlt hk hst hp
    rwa [List.take_length] at h
  rcases Nat.lt_or_gt_of_ne hij with hlt | hgt
  · have h := count_pairKeys_take_lt hlt hx hst hpair
    have h' := hend hy hpair'
    omega
  · have h := count_pairKeys_take_lt hgt hy hst hpair'
    have h' := hend hx hpair
    omega

/-! ### The fan offset -/

/-- The offset of an edge after `seen` others of a pair that `count` edges join: spread by 12
around zero. -/
def fanOffset (count seen : Nat) : α :=
  if count > 1 then (Scalar.ofNat seen - Scalar.ofNat (count - 1) / 2.0) * 12.0 else 0.0

/-- The offset `routeEdge` gives an edge from `s` to `t` routed after the pairs `seen`: its fan
offset among the edges of the pair, measured from the lower node to the higher. -/
def pairOffset (g : LayoutGraph) (seen : List (Nat × Nat)) (s t : Nat) : α :=
  let offset : α := fanOffset ((pairKeys g.edges).count (pairKey s t)) (seen.count (pairKey s t))
  if s > t then -offset else offset

/-! ### Routes by position -/

section Edges

variable (c : Flowchart) (g : LayoutGraph) (boxes : Array (Rect α)) (back : BackEdges)
  (config : LayoutConfig α)

theorem routeStep_pairKeys (acc : List (RoutedEdge α)) (P : List (Nat × Nat × Nat))
    (x : Nat × Nat × Nat) :
    routeStep c g boxes back config (acc, pairKeys P) x =
      (acc ++ [routeEdge c g boxes back config (pairKeys P) x.1 x.2.1 x.2.2],
        pairKeys (P ++ [x])) := by
  obtain ⟨e, s, t⟩ := x
  by_cases hst : s = t <;> simp [routeStep, pairKeys_cons, hst]

/-- Routing a list of edges after the edges `P` routes the edge at position `i` after the pairs
of `P` and of the `i` edges before it. -/
theorem foldl_routeStep_eq : ∀ (L P : List (Nat × Nat × Nat)) (acc : List (RoutedEdge α)),
    L.foldl (routeStep c g boxes back config) (acc, pairKeys P) =
      (acc ++ L.mapIdx fun i x =>
          routeEdge c g boxes back config (pairKeys (P ++ L.take i)) x.1 x.2.1 x.2.2,
        pairKeys (P ++ L))
  | [], P, acc => by simp
  | x :: L, P, acc => by
    rw [List.foldl_cons, routeStep_pairKeys, foldl_routeStep_eq L (P ++ [x])]
    simp [List.mapIdx_cons, List.append_assoc]

/-- The route of the edge at position `i` is routed after the pairs of the edges before it. -/
theorem routeEdges_eq_mapIdx :
    routeEdges c g boxes back config =
      g.edges.mapIdx fun i x =>
        routeEdge c g boxes back config (pairKeys (g.edges.take i)) x.1 x.2.1 x.2.2 := by
  have h := congrArg Prod.fst (foldl_routeStep_eq c g boxes back config g.edges [] [])
  simpa [routeEdges] using h

/-- Every route is that of the resolved edge at some position, routed after the edges before
it. -/
theorem exists_routeEdges_position {r : RoutedEdge α}
    (hr : r ∈ routeEdges c g boxes back config) :
    ∃ i e s t, g.edges[i]? = some (e, s, t) ∧
      r = routeEdge c g boxes back config (pairKeys (g.edges.take i)) e s t := by
  rw [routeEdges_eq_mapIdx, List.mem_mapIdx] at hr
  obtain ⟨i, hi, rfl⟩ := hr
  exact ⟨i, _, _, _, List.getElem?_eq_getElem hi, rfl⟩

/-- An edge between distinct nodes is routed between their boxes with its pair offset. -/
theorem routeEdge_of_ne (seen : List (Nat × Nat)) (e : Nat) {s t : Nat} (hst : s ≠ t) :
    routeEdge c g boxes back config seen e s t =
      { routeBetween ((c.nodes[s]?.map Node.shape).getD NodeShape.rectangle)
          (boxes.getD s ⟨0.0, 0.0, 0.0, 0.0⟩)
          ((c.nodes[t]?.map Node.shape).getD NodeShape.rectangle)
          (boxes.getD t ⟨0.0, 0.0, 0.0, 0.0⟩)
          ⟨boxes.map (·.padded config.obstaclePadding), s, t⟩ (pairOffset g seen s t) config
        with edgeIndex := e, backEdge := back.contains e } := by
  unfold routeEdge
  rw [if_neg (by simpa using hst)]
  simp only [pairOffset, fanOffset, count_pairKeys hst, List.count_eq_length_filter]

end Edges

/-- Among more than one edge of a pair, edges after different numbers of others get different
fan offsets. -/
theorem fanOffset_inj {count m n : Nat} (hcount : 1 < count)
    (h : (fanOffset count m : ℝ) = fanOffset count n) : m = n := by
  simp only [fanOffset, if_pos hcount, Scalar.ofNat_real] at h
  norm_num at h
  exact h

/-- Routed the other way, an edge's offset changes sign. -/
theorem pairOffset_swap (g : LayoutGraph) (seen : List (Nat × Nat)) {s t : Nat} (hst : s ≠ t) :
    (pairOffset g seen t s : ℝ) = -pairOffset g seen s t := by
  have hkey := pairKey_comm s t
  rcases Nat.lt_or_gt_of_ne hst with hlt | hgt
  · simp [pairOffset, hkey, hlt, Nat.not_lt.2 hlt.le]
  · simp [pairOffset, hkey, hgt, Nat.not_lt.2 hgt.le]

/-- Two edges from `s` to `t` among more than one of their pair have equal offsets only after
equally many others. -/
theorem pairOffset_inj {g : LayoutGraph} {seen seen' : List (Nat × Nat)} {s t : Nat}
    (hcount : 1 < (pairKeys g.edges).count (pairKey s t))
    (h : (pairOffset g seen s t : ℝ) = pairOffset g seen' s t) :
    seen.count (pairKey s t) = seen'.count (pairKey s t) := by
  have hfan : (fanOffset ((pairKeys g.edges).count (pairKey s t)) (seen.count (pairKey s t)) : ℝ) =
      fanOffset ((pairKeys g.edges).count (pairKey s t)) (seen'.count (pairKey s t)) := by
    simp only [pairOffset] at h
    split_ifs at h
    · exact neg_inj.1 h
    · exact h
  exact fanOffset_inj hcount hfan

/-! ### Sides of a chord -/

/-- How far `x` lies to the left of the chord from `p` to `q`, times the chord's length. -/
def chordSide (p q x : Point ℝ) : ℝ := (q.x - p.x) * (x.y - p.y) - (q.y - p.y) * (x.x - p.x)

@[simp] theorem chordSide_left (p q : Point ℝ) : chordSide p q p = 0 := by
  simp [chordSide]

@[simp] theorem chordSide_right (p q : Point ℝ) : chordSide p q q = 0 := by
  simp only [chordSide]
  ring

theorem chordSide_swap (p q x : Point ℝ) : chordSide q p x = -chordSide p q x := by
  simp only [chordSide]
  ring

/-- The samples of a flattened curve between two points of a chord's line lie across it at most
half as far as the control point, on its side. -/
theorem chordSide_of_mem_quadraticPoints {p q a b ctrl x : Point ℝ} (ha : chordSide p q a = 0)
    (hb : chordSide p q b = 0) (hx : x ∈ quadraticPoints a ctrl b) :
    ∃ w : ℝ, 0 ≤ w ∧ w ≤ 1 / 2 ∧ chordSide p q x = w * chordSide p q ctrl := by
  simp only [quadraticPoints, List.mem_map, List.mem_range] at hx
  obtain ⟨k, hk, rfl⟩ := hx
  have ht0 : (0 : ℝ) ≤ (k : ℝ) / 16 := by positivity
  have ht1 : (k : ℝ) / 16 ≤ 1 := by
    rw [div_le_one (by norm_num)]
    exact_mod_cast Nat.le_of_lt_succ hk
  have hhalf := sq_nonneg ((k : ℝ) / 16 - 1 / 2)
  refine ⟨2 * (1 - (k : ℝ) / 16) * ((k : ℝ) / 16), by nlinarith, by nlinarith, ?_⟩
  simp only [chordSide, Scalar.ofNat_real, ofScientific_two_real] at ha hb ⊢
  norm_num
  linear_combination (1 - (k : ℝ) / 16) ^ 2 * ha + ((k : ℝ) / 16) ^ 2 * hb

/-- The middle sample of a flattened curve between two points of a chord's line lies across it
half as far as the control point. -/
theorem exists_half_mem_quadraticPoints {p q a b : Point ℝ} (ctrl : Point ℝ)
    (ha : chordSide p q a = 0) (hb : chordSide p q b = 0) :
    ∃ x ∈ quadraticPoints a ctrl b, chordSide p q x = chordSide p q ctrl / 2 := by
  refine ⟨_, List.mem_map_of_mem (List.mem_range.2 (show 8 < 17 by norm_num)), ?_⟩
  simp only [chordSide, Scalar.ofNat_real, ofScientific_two_real] at ha hb ⊢
  norm_num
  linear_combination (1 / 4 : ℝ) * ha + (1 / 4 : ℝ) * hb

/-- The points all lie on the line of the chord from `p` to `q`. -/
def OnChord (p q : Point ℝ) (pts : List (Point ℝ)) : Prop :=
  ∀ x ∈ pts, chordSide p q x = 0

/-- The points are a flattened curve between two points of the line of the chord from `p` to
`q`, whose control point lies `bend ≠ 0` across the chord. -/
def CurvesAcross (p q : Point ℝ) (pts : List (Point ℝ)) (bend : ℝ) : Prop :=
  bend ≠ 0 ∧ ∃ a b ctrl, chordSide p q a = 0 ∧ chordSide p q b = 0 ∧
    chordSide p q ctrl = bend ∧ pts = quadraticPoints a ctrl b

theorem OnChord.swap {p q : Point ℝ} {pts : List (Point ℝ)} (h : OnChord p q pts) :
    OnChord q p pts := fun x hx => by
  rw [chordSide_swap, h x hx, neg_zero]

theorem CurvesAcross.swap {p q : Point ℝ} {pts : List (Point ℝ)} {bend : ℝ}
    (h : CurvesAcross p q pts bend) : CurvesAcross q p pts (-bend) := by
  obtain ⟨hbend, a, b, ctrl, ha, hb, hctrl, rfl⟩ := h
  refine ⟨neg_ne_zero.2 hbend, a, b, ctrl, ?_, ?_, ?_, rfl⟩ <;> rw [chordSide_swap]
  · rw [ha, neg_zero]
  · rw [hb, neg_zero]
  · rw [hctrl]

/-- A curve never has the points of its chord: its middle sample is off the chord's line. -/
theorem CurvesAcross.not_onChord {p q : Point ℝ} {pts pts' : List (Point ℝ)} {bend : ℝ}
    (h : CurvesAcross p q pts bend) (h' : OnChord p q pts') : ¬ ∀ x, x ∈ pts ↔ x ∈ pts' := by
  obtain ⟨hbend, a, b, ctrl, ha, hb, hctrl, rfl⟩ := h
  intro hsame
  obtain ⟨x, hx, hside⟩ := exists_half_mem_quadraticPoints ctrl ha hb
  have hoff : chordSide p q x = 0 := h' x ((hsame x).1 hx)
  rw [hctrl, hoff] at hside
  exact hbend (by linarith)

/-- Two curves over one chord with the same points bend equally far across it: the middle
sample of each lies half as far across as its control point, and at most half as far as the
other's. -/
theorem CurvesAcross.bend_eq {p q : Point ℝ} {pts pts' : List (Point ℝ)} {bend bend' : ℝ}
    (h : CurvesAcross p q pts bend) (h' : CurvesAcross p q pts' bend')
    (hsame : ∀ x, x ∈ pts ↔ x ∈ pts') : bend = bend' := by
  obtain ⟨hbend, a, b, ctrl, ha, hb, hctrl, rfl⟩ := h
  obtain ⟨-, a', b', ctrl', ha', hb', hctrl', rfl⟩ := h'
  obtain ⟨m, hm, hmside⟩ := exists_half_mem_quadraticPoints ctrl ha hb
  obtain ⟨m', hm', hmside'⟩ := exists_half_mem_quadraticPoints ctrl' ha' hb'
  obtain ⟨w', hw'0, hw'1, hw'⟩ := chordSide_of_mem_quadraticPoints ha' hb' ((hsame m).1 hm)
  obtain ⟨w, hw0, hw1, hw⟩ := chordSide_of_mem_quadraticPoints ha hb ((hsame m').2 hm')
  rw [hctrl] at hmside hw
  rw [hctrl'] at hmside' hw'
  -- `bend = 4 w w' bend`, so `4 w w' = 1`, which forces `w' = 1/2`
  have hprod : bend * (4 * w * w') = bend * 1 := by
    linear_combination 2 * hmside + (4 * w') * hmside' - 2 * hw' - (4 * w') * hw
  have hone : 4 * w * w' = 1 := mul_left_cancel₀ hbend hprod
  have hhalf : w' = 1 / 2 := by nlinarith
  rw [hhalf] at hw'
  linarith

/-- How a route that does not detour is drawn over the chord from `p` to `q`: along the chord
when straight, bent `bend` across it when curved. -/
def DrawnOver (p q : Point ℝ) (bend : ℝ) (r : RoutedEdge ℝ) : Prop :=
  (r.kind = .straight ∧ OnChord p q r.pathPoints) ∨
    (r.kind = .curved ∧ CurvesAcross p q r.pathPoints bend)

theorem DrawnOver.swap {p q : Point ℝ} {bend : ℝ} {r : RoutedEdge ℝ} (h : DrawnOver p q bend r) :
    DrawnOver q p (-bend) r := by
  rcases h with ⟨hk, hon⟩ | ⟨hk, hcurve⟩
  · exact .inl ⟨hk, hon.swap⟩
  · exact .inr ⟨hk, hcurve.swap⟩

/-- Two routes over one chord, one of them curved, cover the same points only when both are
curves with the same non-zero bend. -/
theorem DrawnOver.bend_eq {p q : Point ℝ} {bend bend' : ℝ} {r r' : RoutedEdge ℝ}
    (h : DrawnOver p q bend r) (h' : DrawnOver p q bend' r')
    (hcurved : r.kind = .curved ∨ r'.kind = .curved)
    (hsame : ∀ x, x ∈ r.pathPoints ↔ x ∈ r'.pathPoints) : bend = bend' ∧ bend ≠ 0 := by
  rcases h with ⟨hk, hon⟩ | ⟨-, hcurve⟩ <;> rcases h' with ⟨hk', hon'⟩ | ⟨-, hcurve'⟩
  · -- two straight routes: neither is curved
    rw [hk, hk'] at hcurved
    simp at hcurved
  · exact absurd (fun x => (hsame x).symm) (hcurve'.not_onChord hon)
  · exact absurd hsame (hcurve.not_onChord hon')
  · exact ⟨hcurve.bend_eq hcurve' hsame, hcurve.1⟩

/-! ### Direct routes -/

/-- A direct route is never a detour. -/
theorem directRoute_kind_ne_orthogonal (p q : Point α) (offset curveFactor : α) :
    (directRoute p q offset curveFactor).kind ≠ .orthogonal := by
  unfold directRoute
  dsimp only
  split_ifs <;> simp

/-- With no obstacle but its own ends, a route between two nodes is the direct route between
their anchors. -/
theorem routeBetween_of_clear {ss ts : NodeShape} {sb tb : Rect α} {o : Obstacles α} {offset : α}
    {config : LayoutConfig α} (h : ∀ pts, o.hits pts = 0) :
    routeBetween ss sb ts tb o offset config =
      directRoute (shapeAnchor ss sb tb.center) (shapeAnchor ts tb sb.center) offset
        config.curveFactor := by
  unfold routeBetween
  dsimp only
  rw [if_pos (by simp [h]), if_neg (by simp [h])]

@[simp] theorem Scalar.hypot_real (x y : ℝ) : Scalar.hypot x y = Real.sqrt (x * x + y * y) := rfl

/-- How far across the chord from `p` to `q` the direct route with this offset and curve factor
sets its control point, times the chord's length: the bend is the offset, plus
`length · curve factor` on a diagonal chord. -/
noncomputable def directBend (p q : Point ℝ) (offset curveFactor : ℝ) : ℝ :=
  let length := Real.sqrt ((q.x - p.x) * (q.x - p.x) + (q.y - p.y) * (q.y - p.y))
  length * ((if 0.001 < |q.x - p.x| ∧ 0.001 < |q.y - p.y| then length * curveFactor else 0) +
    offset)

/-- A control point set `bend` along the unit normal from the chord's middle lies
`length · bend` across the chord. -/
theorem chordSide_control {p q : Point ℝ} {length bend : ℝ} (hlength : length ≠ 0)
    (hsq : length * length = (q.x - p.x) * (q.x - p.x) + (q.y - p.y) * (q.y - p.y)) :
    chordSide p q ⟨(p.x + q.x) / 2 + -(q.y - p.y) / length * bend,
      (p.y + q.y) / 2 + (q.x - p.x) / length * bend⟩ = length * bend := by
  have hside : chordSide p q ⟨(p.x + q.x) / 2 + -(q.y - p.y) / length * bend,
      (p.y + q.y) / 2 + (q.x - p.x) / length * bend⟩ =
      ((q.x - p.x) * (q.x - p.x) + (q.y - p.y) * (q.y - p.y)) * bend / length := by
    simp only [chordSide]
    ring
  rw [hside, ← hsq]
  field_simp

/-- The curve of a direct route that is neither too short nor bent too little. -/
theorem curvesAcross_directCurve {p q : Point ℝ} {bend : ℝ}
    (hcurved : ¬(decide (Scalar.hypot (q.x - p.x) (q.y - p.y) < 0.001) ||
      decide (Scalar.abs bend < 0.001)) = true) :
    CurvesAcross p q (quadraticPoints p
        ⟨(p.x + q.x) / 2.0 + -(q.y - p.y) / Scalar.hypot (q.x - p.x) (q.y - p.y) * bend,
          (p.y + q.y) / 2.0 + (q.x - p.x) / Scalar.hypot (q.x - p.x) (q.y - p.y) * bend⟩ q)
      (Scalar.hypot (q.x - p.x) (q.y - p.y) * bend) := by
  simp only [Scalar.hypot_real, Scalar.abs_real, Bool.or_eq_true, decide_eq_true_eq, not_or,
    not_lt] at hcurved
  obtain ⟨hlength, hbend⟩ := hcurved
  have hpos : 0 < Real.sqrt ((q.x - p.x) * (q.x - p.x) + (q.y - p.y) * (q.y - p.y)) :=
    lt_of_lt_of_le (by norm_num) hlength
  have hsq := Real.mul_self_sqrt (add_nonneg (mul_self_nonneg (q.x - p.x))
    (mul_self_nonneg (q.y - p.y)))
  refine ⟨mul_ne_zero hpos.ne' ?_, p, q, _, chordSide_left p q, chordSide_right p q, ?_, rfl⟩
  · intro hzero
    rw [hzero, abs_zero] at hbend
    norm_num at hbend
  · simp only [Scalar.hypot_real, ofScientific_two_real]
    exact chordSide_control hpos.ne' hsq

/-- A direct route is drawn along its chord, or as a curve bent `directBend` across it. -/
theorem directRoute_drawn (p q : Point ℝ) (offset curveFactor : ℝ) :
    DrawnOver p q (directBend p q offset curveFactor) (directRoute p q offset curveFactor) := by
  unfold directRoute
  dsimp only
  -- the diagonal test and the test for a straight route
  split_ifs with hdiag hcurved hcurved
  · exact .inl ⟨rfl, by simp [OnChord, RoutedEdge.pathPoints, RoutedEdge.points]⟩
  · refine .inr ⟨rfl, ?_⟩
    convert curvesAcross_directCurve hcurved using 1
    · rfl
    · simp only [Bool.and_eq_true, decide_eq_true_eq] at hdiag
      simp only [directBend, Scalar.hypot_real, ← Scalar.abs_real, if_pos hdiag]
  · exact .inl ⟨rfl, by simp [OnChord, RoutedEdge.pathPoints, RoutedEdge.points]⟩
  · refine .inr ⟨rfl, ?_⟩
    convert curvesAcross_directCurve hcurved using 1
    · rfl
    · simp only [Bool.and_eq_true, decide_eq_true_eq] at hdiag
      simp only [directBend, Scalar.hypot_real, ← Scalar.abs_real, if_neg hdiag]
      norm_num

/-- A route bent at all is bent by its offset: two offsets giving one bend are equal. -/
theorem directBend_inj {p q : Point ℝ} {offset offset' curveFactor : ℝ}
    (h : directBend p q offset curveFactor = directBend p q offset' curveFactor)
    (hbent : directBend p q offset curveFactor ≠ 0) : offset = offset' := by
  simp only [directBend] at h hbent
  exact add_left_cancel (mul_left_cancel₀ (left_ne_zero_of_mul hbent) h)

/-- Along a chord that is not diagonal the route is bent by its offset alone, so the route
back with the opposite offset bends the same way. -/
theorem directBend_swap {p q : Point ℝ} (offset curveFactor : ℝ)
    (hstraight : ¬(0.001 < |q.x - p.x| ∧ 0.001 < |q.y - p.y|)) :
    directBend q p offset curveFactor = -directBend p q (-offset) curveFactor := by
  have hback : ¬(0.001 < |p.x - q.x| ∧ 0.001 < |p.y - q.y|) := by
    rwa [abs_sub_comm p.x, abs_sub_comm p.y]
  have hlength : (p.x - q.x) * (p.x - q.x) + (p.y - q.y) * (p.y - q.y) =
      (q.x - p.x) * (q.x - p.x) + (q.y - p.y) * (q.y - p.y) := by ring
  simp only [directBend, if_neg hstraight, if_neg hback, hlength]
  ring

/-- The fallback route of a curve that clips a neighbour is its chord. -/
theorem directRoute_unbent_drawn (p q : Point ℝ) :
    (directRoute p q 0.0 0.0).kind = .straight ∧
      OnChord p q (directRoute p q 0.0 0.0).pathPoints := by
  rcases directRoute_drawn p q 0.0 0.0 with hdrawn | ⟨hcurved, -⟩
  · exact hdrawn
  · rw [directRoute_unbent] at hcurved
    cases hcurved

/-- Without a curve factor, a route along a chord at least the tolerance long, offset by at least
the tolerance, is curved. -/
theorem directRoute_offset_curved {p q : Point ℝ} {offset : ℝ}
    (hlength : 0.001 ≤ Real.sqrt ((q.x - p.x) * (q.x - p.x) + (q.y - p.y) * (q.y - p.y)))
    (hoffset : 0.001 ≤ |offset|) : (directRoute p q offset 0).kind = .curved := by
  have hzero : (0.0 : ℝ) = 0 := by norm_num
  unfold directRoute
  dsimp only
  rw [if_neg]
  simp only [Scalar.hypot_real, Scalar.abs_real, mul_zero, hzero, ite_self, zero_add,
    Bool.or_eq_true, decide_eq_true_eq, not_or, not_lt]
  exact ⟨hlength, hoffset⟩

/-- A rectangle's anchor is within half the box's height of its centre, vertically. -/
theorem shapeAnchor_rectangle_y (r : Rect ℝ) (hh : 0 ≤ r.height) (toward : Point ℝ) :
    |(shapeAnchor .rectangle r toward).y - r.center.y| ≤ r.height / 2 := by
  unfold shapeAnchor
  dsimp only
  split_ifs
  · simpa using div_nonneg hh two_pos.le
  · simpa using div_nonneg hh two_pos.le
  · -- the anchor on the top or bottom face
    have hhalf : (0 : ℝ) ≤ r.height / 2.0 := by
      rw [ofScientific_two_real]
      exact div_nonneg hh two_pos.le
    obtain ⟨σ, hσ, hcopy⟩ := copySign_real (r.height / 2.0) (toward.y - r.center.y) hhalf
    rw [add_sub_cancel_left, hcopy, ofScientific_two_real]
    rcases hσ with rfl | rfl <;> simp [abs_of_nonneg (div_nonneg hh two_pos.le)]

/-- A route between two nodes that does not detour runs from the source's anchor to the
target's: along the chord, or as a curve bent `directBend` across it. -/
theorem routeBetween_drawn {ss ts : NodeShape} {sb tb : Rect ℝ} {o : Obstacles ℝ} {offset : ℝ}
    {config : LayoutConfig ℝ} (h : (routeBetween ss sb ts tb o offset config).kind ≠ .orthogonal) :
    (routeBetween ss sb ts tb o offset config).anchorFrom = shapeAnchor ss sb tb.center ∧
      (routeBetween ss sb ts tb o offset config).anchorTo = shapeAnchor ts tb sb.center ∧
      DrawnOver (shapeAnchor ss sb tb.center) (shapeAnchor ts tb sb.center)
        (directBend (shapeAnchor ss sb tb.center) (shapeAnchor ts tb sb.center) offset
          config.curveFactor)
        (routeBetween ss sb ts tb o offset config) := by
  unfold routeBetween at h ⊢
  dsimp only at h ⊢
  split_ifs at h ⊢ with hclear hclip
  · -- a curve that clips a neighbour falls back to the chord
    exact ⟨(directRoute_anchors ..).1, (directRoute_anchors ..).2,
      .inl (directRoute_unbent_drawn _ _)⟩
  · exact ⟨(directRoute_anchors ..).1, (directRoute_anchors ..).2, directRoute_drawn ..⟩
  · -- a blocked chord detours
    exact absurd rfl h

/-! ### Routes of one pair of nodes -/

section Pair

variable {c : Flowchart} {g : LayoutGraph} {boxes : Array (Rect ℝ)} {back : BackEdges}
  {config : LayoutConfig ℝ}

/-- Of two distinct edges between the same two nodes, neither detoured and one of them curved,
the routes never cover the same points when both run the same way, nor when they run opposite
ways along a chord that is not diagonal. -/
theorem routeEdges_pair_drawn_apart {r r' : RoutedEdge ℝ}
    (hr : r ∈ routeEdges c g boxes back config) (hr' : r' ∈ routeEdges c g boxes back config)
    {u v : Nat} (huv : u ≠ v) (hends : g.ends r.edgeIndex = some (u, v))
    (hne : r.edgeIndex ≠ r'.edgeIndex)
    (hpair : g.ends r'.edgeIndex = some (u, v) ∨
      (g.ends r'.edgeIndex = some (v, u) ∧
        ¬(0.001 < |r.anchorTo.x - r.anchorFrom.x| ∧ 0.001 < |r.anchorTo.y - r.anchorFrom.y|)))
    (hk : r.kind ≠ .orthogonal) (hk' : r'.kind ≠ .orthogonal)
    (hcurved : r.kind = .curved ∨ r'.kind = .curved) :
    ¬ ∀ x, x ∈ r.pathPoints ↔ x ∈ r'.pathPoints := by
  intro hsame
  obtain ⟨i, e, a, b, hx, rfl⟩ := exists_routeEdges_position c g boxes back config hr
  obtain ⟨j, e', a', b', hy, rfl⟩ := exists_routeEdges_position c g boxes back config hr'
  simp only [routeEdge_edgeIndex] at hends hne hpair
  -- the positions hold the edges' ends
  have hab : g.ends e = some (a, b) := LayoutGraph.mem_edges.1 (List.mem_of_getElem? hx)
  have hab' : g.ends e' = some (a', b') := LayoutGraph.mem_edges.1 (List.mem_of_getElem? hy)
  rw [hab, Option.some.injEq, Prod.mk.injEq] at hends
  obtain ⟨rfl, rfl⟩ := hends
  have hij : i ≠ j := by
    rintro rfl
    rw [hx, Option.some.injEq, Prod.mk.injEq] at hy
    exact hne hy.1
  rw [routeEdge_of_ne _ _ _ _ _ _ _ huv] at hk hcurved hsame hpair
  obtain ⟨hfrom, hto, hdrawn⟩ := routeBetween_drawn hk
  rw [hab'] at hpair
  rcases hpair with hsame' | ⟨hback, hflat⟩
  · -- the same way: equal bends force equal offsets
    rw [Option.some.injEq, Prod.mk.injEq] at hsame'
    obtain ⟨rfl, rfl⟩ := hsame'
    rw [routeEdge_of_ne _ _ _ _ _ _ _ huv] at hk' hcurved hsame
    obtain ⟨-, -, hdrawn'⟩ := routeBetween_drawn hk'
    obtain ⟨hbend, hbent⟩ := hdrawn.bend_eq hdrawn' hcurved hsame
    have hcounts := count_pairKeys_take_ne hij hx hy huv rfl rfl
    exact hcounts.1 (pairOffset_inj hcounts.2 (directBend_inj hbend hbent))
  · -- opposite ways along a chord that is not diagonal: the offsets would cancel
    rw [Option.some.injEq, Prod.mk.injEq] at hback
    obtain ⟨rfl, rfl⟩ := hback
    rw [routeEdge_of_ne _ _ _ _ _ _ _ huv.symm] at hk' hcurved hsame
    obtain ⟨-, -, hdrawn'⟩ := routeBetween_drawn hk'
    obtain ⟨hbend, hbent⟩ := hdrawn.bend_eq hdrawn'.swap hcurved hsame
    rw [hfrom, hto] at hflat
    rw [directBend_swap _ _ hflat, neg_neg, pairOffset_swap _ _ huv, neg_neg] at hbend
    have hcounts := count_pairKeys_take_ne hij hx hy huv rfl (pairKey_comm _ _)
    exact hcounts.1 (pairOffset_inj hcounts.2 (directBend_inj hbend hbent))

end Pair

/-! ### The routes of a layout -/

section Layout

variable (c : Flowchart) (s : LayoutConfig ℝ)

/-- A curve factor of zero or more is kept as given. -/
theorem LayoutConfig.sanitized_curveFactor (h : 0 ≤ s.curveFactor) :
    s.sanitized.curveFactor = s.curveFactor := by
  have hok : LayoutConfig.nonNegativeOk s.curveFactor = true := by
    simp only [LayoutConfig.nonNegativeOk, Bool.and_eq_true, decide_eq_true_eq]
    exact ⟨rfl, by norm_num; exact h⟩
  show (if LayoutConfig.nonNegativeOk s.curveFactor then s.curveFactor else _) = _
  rw [if_pos hok]

/-- In a layout whose layers run down or up the page, two rectangles of different layers facing
each other have anchors a layer gap apart vertically. -/
theorem rectangle_anchors_apart_y (hdir : c.direction.isHorizontal = false) {i j : Nat}
    (hi : i < c.nodes.length) (hj : j < c.nodes.length)
    (hl : (layeringOf c).layerOf.getD i 0 ≠ (layeringOf c).layerOf.getD j 0) (d : Rect ℝ) :
    (spacingOf c s).layerSpacing ≤
      |(shapeAnchor .rectangle ((boxesOf c s).getD j d) ((boxesOf c s).getD i d).center).y -
        (shapeAnchor .rectangle ((boxesOf c s).getD i d) ((boxesOf c s).getD j d).center).y| := by
  set bi := (boxesOf c s).getD i d
  set bj := (boxesOf c s).getD j d
  obtain ⟨-, hh, -, -⟩ := spacingOf_pos c s
  have hgap : (spacingOf c s).nodeHeight + (spacingOf c s).layerSpacing ≤
      |bi.center.y - bj.center.y| := boxesOf_layers_apart_y c s hdir hi hj hl d
  have hhi : bi.height = (spacingOf c s).nodeHeight := (boxesOf_getD_size c s hi d).2
  have hhj : bj.height = (spacingOf c s).nodeHeight := (boxesOf_getD_size c s hj d).2
  -- each anchor is within half a box height of its centre
  have hp := shapeAnchor_rectangle_y bi (by rw [hhi]; exact hh.le) bj.center
  have hq := shapeAnchor_rectangle_y bj (by rw [hhj]; exact hh.le) bi.center
  rw [hhi, abs_sub_comm] at hp
  rw [hhj] at hq
  have htri := abs_sub_le bi.center.y (shapeAnchor .rectangle bi bj.center).y bj.center.y
  have htri' := abs_sub_le (shapeAnchor .rectangle bi bj.center).y
    (shapeAnchor .rectangle bj bi.center).y bj.center.y
  rw [abs_sub_comm (shapeAnchor .rectangle bi bj.center).y
    (shapeAnchor .rectangle bj bi.center).y] at htri'
  linarith

/-- Read over exact numbers, two distinct edges of a chart between the same two nodes, both
routed directly and one of them curved, are drawn over different points when they run the same
way, and when they run opposite ways along a chord that is not diagonal. -/
theorem parallel_routes_drawn_apart :
    ∀ r ∈ (layoutChart c s).layout.routedEdges, ∀ r' ∈ (layoutChart c s).layout.routedEdges,
      ∀ u v, u ≠ v → (LayoutGraph.ofChart c).ends r.edgeIndex = some (u, v) →
        r.edgeIndex ≠ r'.edgeIndex →
        ((LayoutGraph.ofChart c).ends r'.edgeIndex = some (u, v) ∨
          ((LayoutGraph.ofChart c).ends r'.edgeIndex = some (v, u) ∧
            ¬(0.001 < |r.anchorTo.x - r.anchorFrom.x| ∧
              0.001 < |r.anchorTo.y - r.anchorFrom.y|))) →
        r.kind ≠ .orthogonal → r'.kind ≠ .orthogonal → (r.kind = .curved ∨ r'.kind = .curved) →
        ¬ ∀ x, x ∈ r.pathPoints ↔ x ∈ r'.pathPoints := by
  intro r hr r' hr' u v huv hends hne hpair hk hk' hcurved
  rw [layout_routedEdges_eq] at hr hr'
  exact routeEdges_pair_drawn_apart hr hr' huv hends hne hpair hk hk' hcurved

end Layout

/-- Two edges from one node to another. -/
def parallelPair : Flowchart :=
  { nodes := [{ id := "A" }, { id := "B" }],
    edges := [{ source := "A", target := "B" }, { source := "A", target := "B" }] }

/-- The default settings without the curve factor's bend. -/
noncomputable def unbentSettings : LayoutConfig ℝ := { LayoutConfig.default with curveFactor := 0 }

/-- Of two edges from one node to another laid out without the curve factor, the first is
curved, the second is routed directly, and the two are drawn apart. -/
theorem parallel_pair_drawn_apart :
    ∃ r ∈ (layoutChart parallelPair unbentSettings).layout.routedEdges,
      ∃ r' ∈ (layoutChart parallelPair unbentSettings).layout.routedEdges,
        r.edgeIndex ≠ r'.edgeIndex ∧ r.kind = .curved ∧ r'.kind ≠ .orthogonal ∧
          ¬ ∀ x, x ∈ r.pathPoints ↔ x ∈ r'.pathPoints := by
  set g := LayoutGraph.ofChart parallelPair
  set boxes := boxesOf parallelPair unbentSettings
  set d : Rect ℝ := ⟨0.0, 0.0, 0.0, 0.0⟩
  set p := shapeAnchor .rectangle (boxes.getD 0 d) (boxes.getD 1 d).center
  set q := shapeAnchor .rectangle (boxes.getD 1 d) (boxes.getD 0 d).center
  have hedges : g.edges = [(0, 0, 1), (1, 0, 1)] := by decide +kernel
  have hends : g.ends 0 = some (0, 1) ∧ g.ends 1 = some (0, 1) := by decide +kernel
  have hlayers : (layeringOf parallelPair).layerOf = #[0, 1] := by decide +kernel
  have hroutes : (layoutChart parallelPair unbentSettings).layout.routedEdges =
      [routeEdge parallelPair g boxes g.backEdges unbentSettings.sanitized [] 0 0 1,
        routeEdge parallelPair g boxes g.backEdges unbentSettings.sanitized [(0, 1)] 1 0 1] := by
    rw [layout_routedEdges_eq, routeEdges, hedges]
    rfl
  have hcf : unbentSettings.sanitized.curveFactor = 0 :=
    LayoutConfig.sanitized_curveFactor (s := unbentSettings) le_rfl
  -- the two nodes' boxes are the only obstacles, so both routes are direct
  obtain ⟨-, -, -, -, hsize, -⟩ := boxesOf_spec parallelPair unbentSettings
  have hdirect : ∀ seen e, (routeEdge parallelPair g boxes g.backEdges unbentSettings.sanitized
      seen e 0 1).kind = (directRoute p q (pairOffset g seen 0 1) 0).kind := by
    intro seen e
    rw [routeEdge_of_ne _ _ _ _ _ _ _ (by decide), routeBetween_of_clear, hcf]
    · rfl
    · refine Obstacles.hits_eq_zero_of_ends fun i hi => ?_
      rw [Array.size_map, hsize] at hi
      change i < 2 at hi
      show i = 0 ∨ i = 1
      omega
  -- the anchors are a layer gap apart vertically
  have hfar : 0.001 ≤ Real.sqrt ((q.x - p.x) * (q.x - p.x) + (q.y - p.y) * (q.y - p.y)) := by
    have hgap : (spacingOf parallelPair unbentSettings).layerSpacing ≤ |q.y - p.y| :=
      rectangle_anchors_apart_y parallelPair unbentSettings rfl (i := 0) (j := 1) (by decide)
        (by decide) (by rw [hlayers]; decide) d
    have hls : 44 ≤ (spacingOf parallelPair unbentSettings).layerSpacing :=
      spacingFor_layerSpacing _ _
    have hchord : |q.y - p.y| ≤ Real.sqrt ((q.x - p.x) * (q.x - p.x) + (q.y - p.y) * (q.y - p.y)) :=
      Real.abs_le_sqrt (by nlinarith [mul_self_nonneg (q.x - p.x)])
    linarith
  have hcount : (pairKeys g.edges).count (pairKey 0 1) = 2 := by
    rw [hedges]
    rfl
  have hcurved :
      (routeEdge parallelPair g boxes g.backEdges unbentSettings.sanitized [] 0 0 1).kind =
        .curved := by
    rw [hdirect]
    refine directRoute_offset_curved hfar ?_
    simp only [pairOffset, fanOffset, hcount, List.count_nil, Scalar.ofNat_real]
    norm_num
  have hstraight : (routeEdge parallelPair g boxes g.backEdges unbentSettings.sanitized [(0, 1)] 1 0
      1).kind ≠ .orthogonal := by
    rw [hdirect]
    exact directRoute_kind_ne_orthogonal _ _ _ _
  have hmem : routeEdge parallelPair g boxes g.backEdges unbentSettings.sanitized [] 0 0 1 ∈
      (layoutChart parallelPair unbentSettings).layout.routedEdges := by
    rw [hroutes]
    exact List.mem_cons_self ..
  have hmem' : routeEdge parallelPair g boxes g.backEdges unbentSettings.sanitized [(0, 1)] 1 0 1 ∈
      (layoutChart parallelPair unbentSettings).layout.routedEdges := by
    rw [hroutes]
    exact List.mem_cons_of_mem _ (List.mem_singleton_self _)
  refine ⟨_, hmem, _, hmem', by simp, hcurved, hstraight, ?_⟩
  exact parallel_routes_drawn_apart parallelPair unbentSettings _ hmem _ hmem' 0 1 (by decide)
    (by rw [routeEdge_edgeIndex]; exact hends.1) (by simp)
    (.inl (by rw [routeEdge_edgeIndex]; exact hends.2)) (by rw [hcurved]; decide) hstraight
    (.inl hcurved)

end FlowLayout
