import FlowLayout.Proofs.Clearance
/-!
# Anchors on node outlines

Read over exact numbers, every route of a layout between two distinct nodes leaves its source
and enters its target on their outlines: the ellipse inscribed in the box of a circle, the
hexagon `max(|y|, |x| + ½|y|) = 1` of a hexagon in coordinates where the box spans `[-1, 1]²`,
and the boundary of the box for every other shape. A self-loop leaves and re-enters its node on
the boundary of its box, whatever the shape (`route_anchors_on_outlines`); on a circle it is
off the ellipse (`selfLoop_anchor_off_circle`).

* A direct route runs between the anchors `shapeAnchor` aims at, which lie on the outlines once
  the other node's centre is away from the node's own (`shapeAnchor_onOutline`); the boxes of
  two distinct nodes share no point, so the centres are apart (`far_of_apart`).
* A detour runs from the middle of a face of the source box to the middle of a face of the
  target box (`orthogonalDetour_ends`), and the middle of a face lies on every outline
  (`faceMid_onOutline`).
* A self-loop keeps one of its four sides, and its ends sit on that side of the box at 30% and
  70% of it (`selfLoopRoute_ends`).
-/

namespace FlowLayout

/-! ### Outlines -/

/-- A point in the coordinates of the box: its centre at the origin, its sides at `±1`. -/
noncomputable def Rect.normalize (r : Rect ℝ) (p : Point ℝ) : Point ℝ :=
  ⟨(p.x - r.center.x) / (r.width / 2), (p.y - r.center.y) / (r.height / 2)⟩

/-- The outline of a shape in box coordinates, where the box spans `[-1, 1]²`: the unit circle
for a circle, the hexagon `max(|y|, |x| + ½|y|) = 1` for a hexagon, and the boundary
`max(|x|, |y|) = 1` of the square for every other shape. -/
def NodeShape.OnUnitOutline : NodeShape → ℝ → ℝ → Prop
  | .circle, x, y => x ^ 2 + y ^ 2 = 1
  | .hexagon, x, y => max |y| (|x| + |y| / 2) = 1
  | _, x, y => max |x| |y| = 1

/-- A point on the outline a node of the given shape is drawn with inside its box. -/
def NodeShape.OnOutline (shape : NodeShape) (r : Rect ℝ) (p : Point ℝ) : Prop :=
  shape.OnUnitOutline (r.normalize p).x (r.normalize p).y

theorem Rect.center_eq (r : Rect ℝ) : r.center = ⟨r.x + r.width / 2, r.y + r.height / 2⟩ := by
  rw [Point.ext_iff']
  simp [Rect.center]

/-- A point given by its offsets from the centre in half sides has those offsets as its box
coordinates. -/
theorem Rect.normalize_offset {r : Rect ℝ} (hw : 0 < r.width) (hh : 0 < r.height) (a b : ℝ) :
    r.normalize ⟨r.center.x + a * (r.width / 2), r.center.y + b * (r.height / 2)⟩ = ⟨a, b⟩ := by
  rw [Point.ext_iff']
  simp only [Rect.normalize, add_sub_cancel_left]
  constructor <;> field_simp

/-- The middle of every face of a box lies on the outline of every shape. -/
theorem faceMid_onOutline (shape : NodeShape) {r : Rect ℝ} (hw : 0 < r.width) (hh : 0 < r.height)
    {σ : ℝ} (hσ : σ = 1 ∨ σ = -1) :
    shape.OnOutline r ⟨r.center.x, r.center.y + σ * (r.height / 2)⟩ ∧
      shape.OnOutline r ⟨r.center.x + σ * (r.width / 2), r.center.y⟩ := by
  have h₁ := r.normalize_offset hw hh 0 σ
  have h₂ := r.normalize_offset hw hh σ 0
  simp only [zero_mul, add_zero] at h₁ h₂
  have habs : |σ| = 1 := by rcases hσ with rfl | rfl <;> simp
  have hsq : σ ^ 2 = 1 := by rcases hσ with rfl | rfl <;> norm_num
  unfold NodeShape.OnOutline
  rw [h₁, h₂]
  cases shape <;> norm_num [NodeShape.OnUnitOutline, habs, hsq]

/-! ### Anchors aimed at a point -/

section Aim

variable {r : Rect ℝ} {toward : Point ℝ}

/-- `m` with the sign of `s`, over exact numbers: `m` or `-m`. -/
theorem copySign_real (m s : ℝ) (hm : 0 ≤ m) :
    ∃ σ : ℝ, (σ = 1 ∨ σ = -1) ∧ Scalar.copySign m s = σ * m := by
  show ∃ σ : ℝ, (σ = 1 ∨ σ = -1) ∧ (if s < 0 then -|m| else |m|) = σ * m
  rw [abs_of_nonneg hm]
  split
  · exact ⟨-1, .inr rfl, by ring⟩
  · exact ⟨1, .inl rfl, by ring⟩

/-- Away from the centre, the anchor `shapeAnchor` aims at lies on the node's outline: the
point of the ellipse at the direction's angle, the direction scaled onto the hexagon, or the
middle of the box side the direction points at most directly. -/
theorem shapeAnchor_onOutline (shape : NodeShape) (hw : 0.002 ≤ r.width) (hh : 0.002 ≤ r.height)
    (hfar : 0.001 ≤ |toward.x - r.center.x| ∨ 0.001 ≤ |toward.y - r.center.y|) :
    shape.OnOutline r (shapeAnchor shape r toward) := by
  have hw0 : 0 < r.width := by linarith
  have hh0 : 0 < r.height := by linarith
  have htwo : (2.0 : ℝ) = 2 := by norm_num
  -- the half sides are at least the tolerance they are compared with
  have hmw : max (r.width / 2) (0.001 : ℝ) = r.width / 2 := max_eq_left (by linarith)
  have hmh : max (r.height / 2) (0.001 : ℝ) = r.height / 2 := max_eq_left (by linarith)
  have hnear : ¬ (|toward.x - r.center.x| < 0.001 ∧ |toward.y - r.center.y| < 0.001) := by
    rintro ⟨hx, hy⟩
    rcases hfar with h | h <;> linarith
  unfold shapeAnchor
  simp only [Scalar.abs_real, Scalar.max_real, htwo, hmw, hmh, Bool.and_eq_true,
    decide_eq_true_eq]
  rw [if_neg hnear]
  split
  · -- the circle: the point at the angle of the direction
    set θ := Scalar.atan2 (toward.y - r.center.y) (toward.x - r.center.x)
    have hpt := r.normalize_offset hw0 hh0 (Scalar.cos θ) (Scalar.sin θ)
    rw [mul_comm (Scalar.cos θ), mul_comm (Scalar.sin θ)] at hpt
    unfold NodeShape.OnOutline
    rw [hpt]
    exact Real.cos_sq_add_sin_sq θ
  · -- the hexagon: the direction in box coordinates, scaled by its reach
    set ux := (toward.x - r.center.x) / (r.width / 2)
    set uy := (toward.y - r.center.y) / (r.height / 2)
    have hhalf : (1.0 - 0.5 : ℝ) = 1 / 2 := by norm_num
    rw [hhalf]
    set reach := max |uy| (|ux| + 1 / 2 * |uy|)
    -- some coordinate of the direction is not zero, so the reach is positive
    have hreach : 0 < reach := by
      have hne : ux ≠ 0 ∨ uy ≠ 0 := by
        rcases hfar with h | h
        · left
          exact div_ne_zero (abs_pos.1 (by linarith)) (by linarith)
        · right
          exact div_ne_zero (abs_pos.1 (by linarith)) (by linarith)
      rcases hne with h | h
      · exact lt_of_lt_of_le (by positivity) (le_max_of_le_right (le_add_of_le_of_nonneg
          (le_refl |ux|) (by positivity)))
      · exact lt_of_lt_of_le (abs_pos.2 h) (le_max_left _ _)
    have hpt := r.normalize_offset hw0 hh0 (ux / reach) (uy / reach)
    unfold NodeShape.OnOutline
    rw [hpt]
    show max |uy / reach| (|ux / reach| + |uy / reach| / 2) = 1
    have hx : |ux / reach| = |ux| / reach := by rw [abs_div, abs_of_pos hreach]
    have hy : |uy / reach| = |uy| / reach := by rw [abs_div, abs_of_pos hreach]
    have hsum : |ux| / reach + |uy| / reach / 2 = (|ux| + 1 / 2 * |uy|) / reach := by ring
    rw [hx, hy, hsum, max_div_div_right hreach.le]
    exact div_self hreach.ne'
  · -- every other shape: the middle of the side the direction points at most directly
    obtain ⟨σ, hσ, hcopy⟩ := copySign_real (r.width / 2) (toward.x - r.center.x) (by linarith)
    obtain ⟨τ, hτ, hcopy'⟩ := copySign_real (r.height / 2) (toward.y - r.center.y) (by linarith)
    have hmid := faceMid_onOutline shape hw0 hh0 hσ
    have hmid' := faceMid_onOutline shape hw0 hh0 hτ
    split
    · rw [hcopy]
      exact hmid.2
    · rw [hcopy']
      exact hmid'.1

/-- The centres of two boxes that share no point are apart by the tolerance on some axis, seen
from either box, once both boxes are at least twice the tolerance on each side. -/
theorem far_of_apart {sb tb : Rect ℝ} (hsb : 0.002 ≤ sb.width ∧ 0.002 ≤ sb.height)
    (htb : 0.002 ≤ tb.width ∧ 0.002 ≤ tb.height) (hapart : sb.Apart tb) :
    (0.001 ≤ |tb.center.x - sb.center.x| ∨ 0.001 ≤ |tb.center.y - sb.center.y|) ∧
      (0.001 ≤ |sb.center.x - tb.center.x| ∨ 0.001 ≤ |sb.center.y - tb.center.y|) := by
  -- each box holds its centre, and a centre near the other one lies in the other box too
  have hin : ∀ (r : Rect ℝ), 0.002 ≤ r.width → 0.002 ≤ r.height → ∀ p : Point ℝ,
      |p.x - r.center.x| < 0.001 → |p.y - r.center.y| < 0.001 → r.contains p = true := by
    intro r hw hh p hx hy
    rw [Rect.center_eq] at hx hy
    rw [Rect.contains_iff]
    have hx' := abs_lt.1 hx
    have hy' := abs_lt.1 hy
    dsimp only at hx' hy'
    refine ⟨?_, ?_, ?_, ?_⟩ <;> linarith [hx'.1, hx'.2, hy'.1, hy'.2]
  have hself : ∀ (r : Rect ℝ), 0.002 ≤ r.width → 0.002 ≤ r.height → r.contains r.center = true :=
    fun r hw hh => hin r hw hh r.center (by norm_num) (by norm_num)
  constructor
  · by_contra hnear
    simp only [not_or, not_le] at hnear
    have hout := hapart _ (hin sb hsb.1 hsb.2 tb.center hnear.1 hnear.2)
    rw [hself tb htb.1 htb.2] at hout
    exact Bool.noConfusion hout
  · by_contra hnear
    simp only [not_or, not_le] at hnear
    have hout := hapart _ (hself sb hsb.1 hsb.2)
    rw [hin tb htb.1 htb.2 sb.center hnear.1 hnear.2] at hout
    exact Bool.noConfusion hout

end Aim

/-! ### Routes between two nodes -/

section Between

variable {α : Type}

/-- Whatever candidate wins, the detour is the evaluation of a candidate: a property every
evaluated candidate and the best one so far have holds of it. -/
theorem firstClear_forall (P : List (Point α) → Prop)
    (evaluate : List (Point α) → List (Point α) × Nat) :
    ∀ (cands : List (List (Point α))) (best : Option (List (Point α) × Nat)),
      (∀ c ∈ cands, P (evaluate c).1) → (∀ b h, best = some (b, h) → P b) →
        (cands ≠ [] ∨ best ≠ none) → P (firstClear evaluate cands best).1
  | [], best, _, hbest, hne => by
    cases best with
    | none => simp at hne
    | some bh => exact hbest bh.1 bh.2 rfl
  | c :: rest, best, hcands, hbest, _ => by
    rw [firstClear]
    have hc := hcands c List.mem_cons_self
    cases hev : evaluate c with
    | mk pts hits =>
      rw [hev] at hc
      dsimp only
      split
      · exact hc
      · -- the best so far is the new candidate or the old best, either way of the property
        refine firstClear_forall P evaluate rest _ (fun c' hc' => hcands c' (.tail _ hc')) ?_
          (.inr ?_)
        · cases best with
          | none =>
            intro b h hb
            cases hb
            exact hc
          | some bh =>
            obtain ⟨b', h'⟩ := bh
            intro b h hb
            dsimp only at hb
            split at hb
            · cases hb
              exact hc
            · cases hb
              exact hbest b' h' rfl
        · cases best with
          | none => simp
          | some bh =>
            dsimp only
            split <;> simp

variable [Scalar α]

/-- A direct route runs between the anchors it is given. -/
theorem directRoute_anchors (p q : Point α) (offset curveFactor : α) :
    (directRoute p q offset curveFactor).anchorFrom = p ∧
      (directRoute p q offset curveFactor).anchorTo = q := by
  unfold directRoute
  dsimp only
  split_ifs <;> exact ⟨rfl, rfl⟩

end Between

/-- A detour runs from the middle of a face of the source box to the middle of a face of the
target box, whichever candidate it keeps: simplifying a candidate keeps its ends. -/
theorem orthogonalDetour_ends {sb tb : Rect ℝ} (hsb : 0 < sb.width ∧ 0 < sb.height)
    (htb : 0 < tb.width ∧ 0 < tb.height) (o : Obstacles ℝ) (config : LayoutConfig ℝ) :
    ∃ a b : Point ℝ, (∀ shape : NodeShape, shape.OnOutline sb a) ∧
      (∀ shape : NodeShape, shape.OnOutline tb b) ∧
      (orthogonalDetour sb tb o config).1.head? = some a ∧
      (orthogonalDetour sb tb o config).1.getLast? = some b := by
  let vf : Prop := Scalar.abs (tb.center.x - sb.center.x) ≤ Scalar.abs (tb.center.y - sb.center.y)
  let frame := fun p : Point ℝ => if vf then p else p.swap
  let extents : ℝ × ℝ :=
    if vf then (sb.height / 2.0, tb.height / 2.0) else (sb.width / 2.0, tb.width / 2.0)
  let sign : ℝ := if (frame sb.center).y ≤ (frame tb.center).y then 1.0 else -1.0
  let start : Point ℝ := ⟨(frame sb.center).x, (frame sb.center).y + sign * extents.1⟩
  let finish : Point ℝ := ⟨(frame tb.center).x, (frame tb.center).y - sign * extents.2⟩
  have htwo : (2.0 : ℝ) = 2 := by norm_num
  have hsign : sign = 1 ∨ sign = -1 := by
    simp only [sign]
    split
    · left; norm_num
    · right; norm_num
  have hneg : -sign = 1 ∨ -sign = -1 := by
    rcases hsign with h | h <;> rw [h] <;> norm_num
  have heq : orthogonalDetour sb tb o config =
      firstClear (fun inFrame => (simplifyPolyline (inFrame.map frame),
        o.hits (simplifyPolyline (inFrame.map frame))))
        (detourCandidates start finish sign config) none :=
    rfl
  refine ⟨frame start, frame finish, fun shape => ?_, fun shape => ?_, ?_⟩
  · -- the start is the middle of the source box's face toward the target
    by_cases hvf : vf
    · simp only [frame, start, extents, hvf, if_true, htwo]
      exact (faceMid_onOutline shape hsb.1 hsb.2 hsign).1
    · simp only [frame, start, extents, hvf, if_false, Point.swap, htwo]
      exact (faceMid_onOutline shape hsb.1 hsb.2 hsign).2
  · by_cases hvf : vf
    · simp only [frame, finish, extents, hvf, if_true, htwo, sub_eq_add_neg, ← neg_mul]
      exact (faceMid_onOutline shape htb.1 htb.2 hneg).1
    · simp only [frame, finish, extents, hvf, if_false, Point.swap, htwo, sub_eq_add_neg, ← neg_mul]
      exact (faceMid_onOutline shape htb.1 htb.2 hneg).2
  · -- every candidate, simplified, keeps the ends it runs between
    rw [heq]
    refine firstClear_forall (fun pts => pts.head? = some (frame start) ∧
        pts.getLast? = some (frame finish)) _ _ none (fun cand hcand => ?_)
      (fun _ _ h => by cases h) (.inl (List.cons_ne_nil _ _))
    obtain ⟨hhead, hlast⟩ := detourCandidates_ends _ _ _ _ cand hcand
    obtain ⟨hhead', hlast'⟩ := simplifyPolyline_ends (cand.map frame)
    exact ⟨hhead'.trans (by simp [List.head?_map, hhead]),
      hlast'.trans (by simp [List.getLast?_map, hlast])⟩

/-- A route between two nodes whose boxes share no point leaves the source on its outline and
enters the target on its outline: directly between the anchors aimed at the other centre, or
along a detour between the middles of two faces. -/
theorem routeBetween_onOutline {ss ts : NodeShape} {sb tb : Rect ℝ} {o : Obstacles ℝ}
    {offset : ℝ} {config : LayoutConfig ℝ} (hsb : 0.002 ≤ sb.width ∧ 0.002 ≤ sb.height)
    (htb : 0.002 ≤ tb.width ∧ 0.002 ≤ tb.height) (hapart : sb.Apart tb) :
    ss.OnOutline sb (routeBetween ss sb ts tb o offset config).anchorFrom ∧
      ts.OnOutline tb (routeBetween ss sb ts tb o offset config).anchorTo := by
  obtain ⟨hfar, hfar'⟩ := far_of_apart hsb htb hapart
  have hp := shapeAnchor_onOutline ss hsb.1 hsb.2 hfar
  have hq := shapeAnchor_onOutline ts htb.1 htb.2 hfar'
  unfold routeBetween
  dsimp only
  split
  · -- a direct route, bent or not, runs between the two anchors
    split <;> rw [(directRoute_anchors _ _ _ _).1, (directRoute_anchors _ _ _ _).2] <;>
      exact ⟨hp, hq⟩
  · -- a detour runs between the middles of two faces
    have hsb' : 0 < sb.width ∧ 0 < sb.height := ⟨by linarith, by linarith⟩
    have htb' : 0 < tb.width ∧ 0 < tb.height := ⟨by linarith, by linarith⟩
    obtain ⟨a, b, ha, hb, hhead, hlast⟩ := orthogonalDetour_ends hsb' htb' o config
    cases hd : orthogonalDetour sb tb o config with
    | mk pts clear =>
      rw [hd] at hhead hlast
      dsimp only at hhead hlast ⊢
      rw [List.headD_eq_head?_getD, hhead, List.getLastD_eq_getLast?, hlast]
      exact ⟨ha ss, hb ts⟩

/-! ### Self-loops -/

/-- Box coordinates of an end of a self-loop: on a side, at 30% or 70% along it. -/
def LoopEnd (q : Point ℝ) : Prop := (|q.x| = 1 ∧ |q.y| = 2 / 5) ∨ (|q.x| = 2 / 5 ∧ |q.y| = 1)

/-- A self-loop on the left or right side leaves it at 30% and comes back at 70% down it. -/
theorem loopPoints_ends_across (r : Rect ℝ) {nx : ℝ} (hnx : |nx| = 1) :
    (loopPoints r nx 0.0).head? =
        some ⟨r.center.x + nx * (r.width / 2), r.center.y + -(2 / 5) * (r.height / 2)⟩ ∧
      (loopPoints r nx 0.0).getLast? =
        some ⟨r.center.x + nx * (r.width / 2), r.center.y + 2 / 5 * (r.height / 2)⟩ := by
  unfold loopPoints
  rw [if_pos (by norm_num [hnx])]
  simp only [List.head?_cons, List.getLast?_cons_cons, List.getLast?_singleton, Option.some.injEq,
    Point.ext_iff', Rect.center_eq]
  constructor <;> constructor <;> norm_num <;> ring

/-- A self-loop on the top or bottom side leaves it at 30% and comes back at 70% along it. -/
theorem loopPoints_ends_along (r : Rect ℝ) {ny : ℝ} (hny : |ny| = 1) :
    (loopPoints r 0.0 ny).head? =
        some ⟨r.center.x + -(2 / 5) * (r.width / 2), r.center.y + ny * (r.height / 2)⟩ ∧
      (loopPoints r 0.0 ny).getLast? =
        some ⟨r.center.x + 2 / 5 * (r.width / 2), r.center.y + ny * (r.height / 2)⟩ := by
  unfold loopPoints
  rw [if_neg (by norm_num [hny])]
  simp only [List.head?_cons, List.getLast?_cons_cons, List.getLast?_singleton, Option.some.injEq,
    Point.ext_iff', Rect.center_eq]
  constructor <;> constructor <;> norm_num <;> ring

/-- On each of the four sides it tries, a self-loop leaves and comes back on the side, at 30%
and 70% along it. -/
theorem loopPoints_ends {r : Rect ℝ} (hw : 0 < r.width) (hh : 0 < r.height) {side : ℝ × ℝ}
    (hside : side ∈ (loopSides : List (ℝ × ℝ))) :
    ∃ a b, (loopPoints r side.1 side.2).head? = some a ∧
      (loopPoints r side.1 side.2).getLast? = some b ∧
      LoopEnd (r.normalize a) ∧ LoopEnd (r.normalize b) := by
  have hfifth : |(2 / 5 : ℝ)| = 2 / 5 := abs_of_pos (by norm_num)
  have hfifth' : |-(2 / 5 : ℝ)| = 2 / 5 := by rw [abs_neg, hfifth]
  simp only [loopSides, List.mem_cons, List.not_mem_nil, or_false] at hside
  -- the two sides across the layers, then the two along them
  rcases hside with rfl | rfl | rfl | rfl
  · have hn : |(1.0 : ℝ)| = 1 := by norm_num
    obtain ⟨hhead, hlast⟩ := loopPoints_ends_across r hn
    refine ⟨_, _, hhead, hlast, ?_, ?_⟩ <;> rw [r.normalize_offset hw hh] <;>
      exact .inl ⟨hn, by assumption⟩
  · have hn : |(-1.0 : ℝ)| = 1 := by norm_num
    obtain ⟨hhead, hlast⟩ := loopPoints_ends_across r hn
    refine ⟨_, _, hhead, hlast, ?_, ?_⟩ <;> rw [r.normalize_offset hw hh] <;>
      exact .inl ⟨hn, by assumption⟩
  · have hn : |(1.0 : ℝ)| = 1 := by norm_num
    obtain ⟨hhead, hlast⟩ := loopPoints_ends_along r hn
    refine ⟨_, _, hhead, hlast, ?_, ?_⟩ <;> rw [r.normalize_offset hw hh] <;>
      exact .inr ⟨by assumption, hn⟩
  · have hn : |(-1.0 : ℝ)| = 1 := by norm_num
    obtain ⟨hhead, hlast⟩ := loopPoints_ends_along r hn
    refine ⟨_, _, hhead, hlast, ?_, ?_⟩ <;> rw [r.normalize_offset hw hh] <;>
      exact .inr ⟨by assumption, hn⟩

/-- A property kept by every step of a fold, for the elements folded, holds at its end. -/
theorem foldl_invariant_of_mem {β γ : Type} (P : β → Prop) (f : β → γ → β) :
    ∀ (l : List γ) (b : β), (∀ b x, x ∈ l → P b → P (f b x)) → P b → P (l.foldl f b)
  | [], _, _, hb => hb
  | x :: l, b, hf, hb => foldl_invariant_of_mem P f l (f b x)
      (fun b' x' hx' => hf b' x' (.tail _ hx')) (hf b x List.mem_cons_self hb)

/-- The loop a self-loop keeps so far, if any, is the loop on one of its four sides. -/
def KeptSide (r : Rect ℝ) (st : Option (List (Point ℝ) × Nat) × Bool) : Prop :=
  ∀ b h, st.1 = some (b, h) → ∃ side ∈ (loopSides : List (ℝ × ℝ)), b = loopPoints r side.1 side.2

theorem loopStep_keptSide (r : Rect ℝ) (o : Obstacles ℝ) {st : Option (List (Point ℝ) × Nat) × Bool}
    {side : ℝ × ℝ} (hside : side ∈ (loopSides : List (ℝ × ℝ))) (h : KeptSide r st) :
    KeptSide r (loopStep r o st side) := by
  unfold loopStep
  split
  · exact h
  · intro b hb hst
    dsimp only at hst
    -- the new loop replaces the one kept, or the one kept stays
    cases hk : st.1 with
    | none =>
      rw [hk] at hst
      cases hst
      exact ⟨side, hside, rfl⟩
    | some kept =>
      rw [hk] at hst
      dsimp only at hst
      split at hst
      · cases hst
        exact ⟨side, hside, rfl⟩
      · cases hst
        exact h kept.1 kept.2 hk

/-- A self-loop leaves and comes back on one side of its node's box, at 30% and 70% along it. -/
theorem selfLoopRoute_ends (e : Nat) {r : Rect ℝ} (hw : 0 < r.width) (hh : 0 < r.height)
    (o : Obstacles ℝ) (back : Bool) :
    LoopEnd (r.normalize (selfLoopRoute e r o back).anchorFrom) ∧
      LoopEnd (r.normalize (selfLoopRoute e r o back).anchorTo) := by
  have hkept : KeptSide r ((loopSides : List (ℝ × ℝ)).foldl (loopStep r o) (none, false)) :=
    foldl_invariant_of_mem (KeptSide r) _ _ _ (fun _ side hside h => loopStep_keptSide r o hside h)
      (fun _ _ h => by cases h)
  -- the loop kept, or the right side when none is
  obtain ⟨side, hside, hpicked⟩ : ∃ side ∈ (loopSides : List (ℝ × ℝ)),
      (((loopSides : List (ℝ × ℝ)).foldl (loopStep r o) (none, false)).1.getD
        (loopPoints r 1.0 0.0, 0)).1 = loopPoints r side.1 side.2 := by
    cases hst : ((loopSides : List (ℝ × ℝ)).foldl (loopStep r o) (none, false)).1 with
    | none => exact ⟨(1.0, 0.0), List.mem_cons_self, rfl⟩
    | some bh =>
      obtain ⟨side, hside, hb⟩ := hkept bh.1 bh.2 hst
      exact ⟨side, hside, hb⟩
  obtain ⟨a, b, hhead, hlast, ha, hb⟩ := loopPoints_ends hw hh hside
  rw [selfLoopRoute_eq]
  dsimp only
  rw [hpicked, List.headD_eq_head?_getD, hhead, List.getLastD_eq_getLast?, hlast]
  exact ⟨ha, hb⟩

/-- The ends of a self-loop lie on the boundary of the box. -/
theorem LoopEnd.onUnitOutline_box {q : Point ℝ} (h : LoopEnd q) : max |q.x| |q.y| = 1 := by
  rcases h with ⟨hx, hy⟩ | ⟨hx, hy⟩ <;> rw [hx, hy] <;> norm_num

/-- The ends of a self-loop are off the ellipse inscribed in the box. -/
theorem LoopEnd.not_onUnitOutline_circle {q : Point ℝ} (h : LoopEnd q) :
    ¬ NodeShape.circle.OnUnitOutline q.x q.y := by
  show ¬ q.x ^ 2 + q.y ^ 2 = 1
  rw [← sq_abs q.x, ← sq_abs q.y]
  rcases h with ⟨hx, hy⟩ | ⟨hx, hy⟩ <;> rw [hx, hy] <;> norm_num

/-! ### Anchors of the routes of a layout -/

/-- The route of an edge between two distinct nodes leaves the source and enters the target on
the outlines of their shapes; the route of a self-loop leaves and comes back on one side of the
node's box, at 30% and 70% along it. The boxes of the two ends are assumed to have sizes and,
for two distinct ends, to share no point. -/
theorem routeEdge_anchors (c : Flowchart) (g : LayoutGraph) (boxes : Array (Rect ℝ))
    (back : BackEdges) (config : LayoutConfig ℝ) (seen : List (Nat × Nat)) (e u v : Nat)
    (hsize : ∀ i, i = u ∨ i = v → 0.002 ≤ (boxes.getD i ⟨0.0, 0.0, 0.0, 0.0⟩).width ∧
      0.002 ≤ (boxes.getD i ⟨0.0, 0.0, 0.0, 0.0⟩).height)
    (hapart : u ≠ v →
      (boxes.getD u ⟨0.0, 0.0, 0.0, 0.0⟩).Apart (boxes.getD v ⟨0.0, 0.0, 0.0, 0.0⟩)) :
    (u ≠ v →
      ((c.nodes[u]?.map Node.shape).getD NodeShape.rectangle).OnOutline
          (boxes.getD u ⟨0.0, 0.0, 0.0, 0.0⟩)
          (routeEdge c g boxes back config seen e u v).anchorFrom ∧
        ((c.nodes[v]?.map Node.shape).getD NodeShape.rectangle).OnOutline
          (boxes.getD v ⟨0.0, 0.0, 0.0, 0.0⟩) (routeEdge c g boxes back config seen e u v).anchorTo) ∧
    (u = v →
      LoopEnd ((boxes.getD u ⟨0.0, 0.0, 0.0, 0.0⟩).normalize
          (routeEdge c g boxes back config seen e u v).anchorFrom) ∧
        LoopEnd ((boxes.getD u ⟨0.0, 0.0, 0.0, 0.0⟩).normalize
          (routeEdge c g boxes back config seen e u v).anchorTo)) := by
  unfold routeEdge
  dsimp only
  constructor
  · intro huv
    rw [if_neg (by simpa using huv)]
    exact routeBetween_onOutline (hsize u (.inl rfl)) (hsize v (.inr rfl)) (hapart huv)
  · rintro rfl
    rw [if_pos (beq_self_eq_true u)]
    obtain ⟨hw, hh⟩ := hsize u (.inl rfl)
    exact selfLoopRoute_ends e (by linarith) (by linarith) _ _

section Layout

variable (c : Flowchart) (s : LayoutConfig ℝ)

/-- A placed node has the shape of its node. -/
theorem layout_shape {i : Nat} {p : NodePlacement ℝ}
    (h : (layoutChart c s).layout.nodes[i]? = some p) :
    p.shape = (c.nodes[i]?.map Node.shape).getD NodeShape.rectangle := by
  have hmap : (layoutChart c s).layout.nodes.map (·.shape) = c.nodes.zipIdx.map (·.1.shape) := by
    unfold layoutChart
    rw [List.map_map]
    exact List.map_congr_left fun ⟨_, _⟩ _ => rfl
  have hi := congrArg (·[i]?) hmap
  simp only [List.getElem?_map, h, Option.map_some, List.getElem?_zipIdx] at hi
  cases hn : c.nodes[i]? with
  | none => simp [hn] at hi
  | some n => simpa [hn] using hi

/-- Every node of the chart is placed, with its shape, in its box. -/
theorem layout_placed {i : Nat} (hi : i < c.nodes.length) :
    ∃ p, (layoutChart c s).layout.nodes[i]? = some p ∧
      p.shape = (c.nodes[i]?.map Node.shape).getD NodeShape.rectangle ∧
      p.bounds = (boxesOf c s).getD i ⟨0.0, 0.0, 0.0, 0.0⟩ := by
  have hi' : i < (layoutChart c s).layout.nodes.length := by rw [layout_nodes_length]; exact hi
  have hp := List.getElem?_eq_getElem hi'
  exact ⟨_, hp, layout_shape c s hp, (layout_bounds c s hp).2.2⟩

/-- The boxes of a layout are at least 44 wide and 44 tall. -/
theorem boxesOf_size {v : Nat} (hv : v < c.nodes.length) (d : Rect ℝ) :
    44 ≤ ((boxesOf c s).getD v d).width ∧ 44 ≤ ((boxesOf c s).getD v d).height := by
  rw [(boxesOf_getD_size c s hv d).1, (boxesOf_getD_size c s hv d).2]
  exact spacingFor_size _ _

/-- A chart with one resolved edge has one route, that of the edge. -/
theorem layout_routedEdges_single {e u v : Nat}
    (h : (LayoutGraph.ofChart c).edges = [(e, u, v)]) :
    (layoutChart c s).layout.routedEdges =
      [routeEdge c (LayoutGraph.ofChart c) (boxesOf c s) (LayoutGraph.ofChart c).backEdges
        s.sanitized [] e u v] := by
  rw [layout_routedEdges_eq, routeEdges, h]
  rfl

/-- Read over exact numbers, every route of a layout between two distinct nodes leaves its
source on the outline of the source's shape and enters its target on the outline of the
target's shape; a self-loop leaves and re-enters its node on the boundary of the node's box. -/
theorem route_anchors_on_outlines :
    ∀ r ∈ (layoutChart c s).layout.routedEdges, ∃ u v,
      (LayoutGraph.ofChart c).ends r.edgeIndex = some (u, v) ∧
      ∃ pu pv, (layoutChart c s).layout.nodes[u]? = some pu ∧
        (layoutChart c s).layout.nodes[v]? = some pv ∧
        (u ≠ v → pu.shape.OnOutline pu.bounds r.anchorFrom ∧
          pv.shape.OnOutline pv.bounds r.anchorTo) ∧
        (u = v → NodeShape.rectangle.OnOutline pu.bounds r.anchorFrom ∧
          NodeShape.rectangle.OnOutline pu.bounds r.anchorTo) := by
  intro r hr
  rw [layout_routedEdges_eq] at hr
  obtain ⟨seen, e, u, v, hends, rfl⟩ := mem_routeEdges _ _ _ _ _ hr
  have hlt := (LayoutGraph.ofChart_wellFormed c).ends_lt hends
  simp only [LayoutGraph.ofChart_nodeCount] at hlt
  obtain ⟨pu, hpu, hsu, hbu⟩ := layout_placed c s hlt.1
  obtain ⟨pv, hpv, hsv, hbv⟩ := layout_placed c s hlt.2
  -- the boxes of the two ends are at least 44 on a side
  have hsize : ∀ i, i = u ∨ i = v → 0.002 ≤ ((boxesOf c s).getD i ⟨0.0, 0.0, 0.0, 0.0⟩).width ∧
      0.002 ≤ ((boxesOf c s).getD i ⟨0.0, 0.0, 0.0, 0.0⟩).height := by
    intro i hi
    have hi' : i < c.nodes.length := by rcases hi with rfl | rfl <;> omega
    obtain ⟨hw, hh⟩ := boxesOf_size c s hi' ⟨0.0, 0.0, 0.0, 0.0⟩
    exact ⟨by linarith, by linarith⟩
  have hanchors := routeEdge_anchors c (LayoutGraph.ofChart c) (boxesOf c s)
    (LayoutGraph.ofChart c).backEdges s.sanitized seen e u v hsize (fun huv => boxesOf_apart c s hlt.1 hlt.2 huv _)
  refine ⟨u, v, by rw [routeEdge_edgeIndex]; exact hends, pu, pv, hpu, hpv, fun huv => ?_,
    fun huv => ?_⟩
  · rw [hsu, hbu, hsv, hbv]
    exact hanchors.1 huv
  · -- a self-loop's ends lie on a side of the box
    obtain ⟨hfrom, hto⟩ := hanchors.2 huv
    rw [hbu]
    exact ⟨hfrom.onUnitOutline_box, hto.onUnitOutline_box⟩

end Layout

/-- A circle with an edge to a hexagon. -/
def circleToHexagon : Flowchart :=
  { nodes := [{ id := "A", shape := .circle }, { id := "B", shape := .hexagon }],
    edges := [{ source := "A", target := "B" }] }

/-- The edge from a circle to a hexagon leaves the circle on its ellipse and enters the hexagon
on its outline. -/
theorem route_anchors_on_outlines_circle_hexagon :
    ∃ r ∈ (layoutChart circleToHexagon LayoutConfig.default).layout.routedEdges, ∃ pu pv,
      (layoutChart circleToHexagon LayoutConfig.default).layout.nodes[0]? = some pu ∧
      (layoutChart circleToHexagon LayoutConfig.default).layout.nodes[1]? = some pv ∧
      NodeShape.circle.OnOutline pu.bounds r.anchorFrom ∧
      NodeShape.hexagon.OnOutline pv.bounds r.anchorTo := by
  have hedges : (LayoutGraph.ofChart circleToHexagon).edges = [(0, 0, 1)] := by decide +kernel
  have hr : _ ∈ (layoutChart circleToHexagon LayoutConfig.default).layout.routedEdges :=
    (layout_routedEdges_single _ _ hedges) ▸ List.mem_singleton_self _
  obtain ⟨u, v, hends, pu, pv, hpu, hpv, hapart, -⟩ :=
    route_anchors_on_outlines circleToHexagon LayoutConfig.default _ hr
  have hends₀ : (LayoutGraph.ofChart circleToHexagon).ends 0 = some (0, 1) := by decide +kernel
  rw [routeEdge_edgeIndex, hends₀] at hends
  cases hends
  obtain ⟨hfrom, hto⟩ := hapart (by decide)
  rw [layout_shape circleToHexagon LayoutConfig.default hpu] at hfrom
  rw [layout_shape circleToHexagon LayoutConfig.default hpv] at hto
  exact ⟨_, hr, pu, pv, hpu, hpv, hfrom, hto⟩

/-- Every route of a layout leaves its source and enters its target on their outlines. -/
def AnchorsOnOutlines (c : Flowchart) (s : LayoutConfig ℝ) : Prop :=
  ∀ r ∈ (layoutChart c s).layout.routedEdges, ∃ u v,
    (LayoutGraph.ofChart c).ends r.edgeIndex = some (u, v) ∧
    ∃ pu pv, (layoutChart c s).layout.nodes[u]? = some pu ∧
      (layoutChart c s).layout.nodes[v]? = some pv ∧
      pu.shape.OnOutline pu.bounds r.anchorFrom ∧ pv.shape.OnOutline pv.bounds r.anchorTo

/-- One circle with an edge to itself. -/
def circleLoop : Flowchart :=
  { nodes := [{ id := "A", shape := .circle }], edges := [{ source := "A", target := "A" }] }

/-- A self-loop on a circle leaves it off the circle: its ends sit on a side of the box. -/
theorem selfLoop_anchor_off_circle : ¬ AnchorsOnOutlines circleLoop LayoutConfig.default := by
  intro h
  have hedges : (LayoutGraph.ofChart circleLoop).edges = [(0, 0, 0)] := by decide +kernel
  obtain ⟨u, v, hends, pu, pv, hpu, -, hfrom, -⟩ :=
    h _ ((layout_routedEdges_single _ _ hedges) ▸ List.mem_singleton_self _)
  have hends₀ : (LayoutGraph.ofChart circleLoop).ends 0 = some (0, 0) := by decide +kernel
  rw [routeEdge_edgeIndex, hends₀] at hends
  cases hends
  have hlen : 0 < circleLoop.nodes.length := by decide
  obtain ⟨hw, hh⟩ := boxesOf_size circleLoop LayoutConfig.default hlen ⟨0.0, 0.0, 0.0, 0.0⟩
  have hloop := (routeEdge_anchors circleLoop (LayoutGraph.ofChart circleLoop)
    (boxesOf circleLoop LayoutConfig.default) (LayoutGraph.ofChart circleLoop).backEdges
    (LayoutConfig.default : LayoutConfig ℝ).sanitized [] 0 0 0
    (fun i hi => by rcases hi with rfl | rfl <;> exact ⟨by linarith, by linarith⟩)
    (fun h => absurd rfl h)).2 rfl
  have hshape : pu.shape = .circle := layout_shape circleLoop LayoutConfig.default hpu
  rw [hshape, (layout_bounds circleLoop LayoutConfig.default hpu).2.2] at hfrom
  exact hloop.1.not_onUnitOutline_circle hfrom

end FlowLayout
