import FlowLayout.Geometry.Plane
import FlowLayout.Proofs.Exact
/-!
# Segments that touch a rectangle are found

Over exact scalars `segmentMeetsRect` has no false negatives: when some point of the closed
segment `ab` lies in the closed rectangle `r`, the test says so, whatever its tolerance
(`segmentMeetsRectWithin_of_mem`, `segmentMeetsRect_of_mem`), and so a polyline that touches a
rectangle is reported by `polylineMeetsRect`.

The bounding-box rejection cannot fire, since the point lies between the ends on both axes, and
an end inside is accepted. Otherwise both ends are outside and the segment enters `r`. Each side
of `r` has a slack, how far a point lies on the inner side of the side's line, and `r` is where
all four slacks are non-negative. Moving from `a` towards the point inside, every slack that is
negative at `a` reaches zero once; the latest of these moments is the entry, where all slacks are
non-negative and one of them, of a side `cd`, is zero (`exists_entry`). There `a` and `b` lie
strictly on either side of the line `cd` and the entry point lies on `cd`, which the test of two
segments accepts (`segmentsMeet_of_crossing`): as a proper crossing, or as an end of `cd` on the
line `ab`, which then lies between `a` and `b` (`withinBox_of_on_line`).
-/

namespace FlowLayout

/-- The point a fraction `t` of the way from `a` to `b`. -/
def Point.lerp (a b : Point ℝ) (t : ℝ) : Point ℝ :=
  ⟨a.x + t * (b.x - a.x), a.y + t * (b.y - a.y)⟩

namespace Point

@[simp] theorem lerp_x (a b : Point ℝ) (t : ℝ) : (lerp a b t).x = a.x + t * (b.x - a.x) := rfl

@[simp] theorem lerp_y (a b : Point ℝ) (t : ℝ) : (lerp a b t).y = a.y + t * (b.y - a.y) := rfl

@[simp] theorem lerp_one (a b : Point ℝ) : lerp a b 1 = b := by
  rw [ext_iff']
  constructor <;> simp

theorem lerp_self (a : Point ℝ) (t : ℝ) : lerp a a t = a := by
  rw [ext_iff']
  constructor <;> simp

end Point

/-! ### Moments along a segment -/

/-- A value a fraction `t ∈ [0, 1]` of the way from `a` to `b` lies between them. -/
theorem between_of_fraction {a b t : ℝ} (h0 : 0 ≤ t) (h1 : t ≤ 1) :
    min a b ≤ a + t * (b - a) ∧ a + t * (b - a) ≤ max a b := by
  rcases le_total a b with hab | hab
  · simp only [min_eq_left hab, max_eq_right hab]
    constructor <;> nlinarith
  · simp only [min_eq_right hab, max_eq_left hab]
    constructor <;> nlinarith

/-- A value within `[lo, lo + len]` is a fraction of the way along it. -/
theorem exists_fraction {lo z len : ℝ} (h1 : lo ≤ z) (h2 : z ≤ lo + len) :
    ∃ u, 0 ≤ u ∧ u ≤ 1 ∧ z = lo + u * len := by
  rcases (show 0 ≤ len by linarith).lt_or_eq with hpos | hzero
  · refine ⟨(z - lo) / len, div_nonneg (by linarith) hpos.le, ?_, ?_⟩
    · rw [div_le_one hpos]
      linarith
    · field_simp
      ring
  · exact ⟨0, le_rfl, zero_le_one, by subst hzero; linarith⟩

/-- A quantity moving linearly that is non-negative at two moments stays so between them. -/
theorem linear_nonneg_between {g₀ g₁ e t s : ℝ} (he : 0 ≤ (1 - e) * g₀ + e * g₁)
    (ht : 0 ≤ (1 - t) * g₀ + t * g₁) (hes : e ≤ s) (hst : s ≤ t) :
    0 ≤ (1 - s) * g₀ + s * g₁ := by
  rcases le_total g₀ g₁ with hg | hg <;> nlinarith

/-- A quantity moving linearly from a negative value to a non-negative one at moment `t`
reaches zero at some moment in `(0, t]`. -/
theorem exists_zero_of_neg {g₀ g₁ t : ℝ} (hg : g₀ < 0) (ht : 0 ≤ t)
    (hv : 0 ≤ (1 - t) * g₀ + t * g₁) : ∃ e, 0 < e ∧ e ≤ t ∧ (1 - e) * g₀ + e * g₁ = 0 := by
  have hlt : g₀ - g₁ < 0 := by nlinarith
  refine ⟨g₀ / (g₀ - g₁), div_pos_of_neg_of_neg hg hlt, ?_, ?_⟩
  · rw [div_le_iff_of_neg hlt]
    linarith
  · calc (1 - g₀ / (g₀ - g₁)) * g₀ + g₀ / (g₀ - g₁) * g₁ = g₀ - g₀ / (g₀ - g₁) * (g₀ - g₁) := by
          ring
      _ = 0 := by rw [div_mul_cancel₀ _ hlt.ne, sub_self]

/-- The entry into an intersection of half-lines. Several quantities move linearly, each from
`g.1` to `g.2`; at moment `t` all are non-negative, and one is negative at the start. Then there
is a first moment `s ∈ (0, t]` from which all stay non-negative up to `t`, and at `s` one that
started negative is zero. -/
theorem exists_entry :
    ∀ (L : List (ℝ × ℝ)) {t : ℝ}, 0 ≤ t → (∀ g ∈ L, 0 ≤ (1 - t) * g.1 + t * g.2) →
      (∃ g ∈ L, g.1 < 0) →
      ∃ s, 0 < s ∧ s ≤ t ∧
        (∀ g ∈ L, ∀ s', s ≤ s' → s' ≤ t → 0 ≤ (1 - s') * g.1 + s' * g.2) ∧
        ∃ g ∈ L, g.1 < 0 ∧ (1 - s) * g.1 + s * g.2 = 0
  | [], _, _, _, hout => by simp at hout
  | g :: L, t, ht, hin, hout => by
    have hing : 0 ≤ (1 - t) * g.1 + t * g.2 := hin g List.mem_cons_self
    have hinL : ∀ g' ∈ L, 0 ≤ (1 - t) * g'.1 + t * g'.2 := fun g' h => hin g' (.tail _ h)
    -- a quantity that starts non-negative stays so all the way to `t`
    have hstart : ∀ g' : ℝ × ℝ, 0 ≤ g'.1 → 0 ≤ (1 - t) * g'.1 + t * g'.2 →
        ∀ s', 0 ≤ s' → s' ≤ t → 0 ≤ (1 - s') * g'.1 + s' * g'.2 :=
      fun g' h0 hv s' hs' hs't => linear_nonneg_between (by simpa using h0) hv hs' hs't
    by_cases hL : ∃ g' ∈ L, g'.1 < 0
    · obtain ⟨s', hs'0, hs't, hall, g', hg'L, hg'neg, hg'zero⟩ := exists_entry L ht hinL hL
      by_cases hg : g.1 < 0
      · obtain ⟨e, he0, het, hez⟩ := exists_zero_of_neg hg ht hing
        rcases le_total e s' with hle | hle
        · -- `g` enters first: the entry is that of the others
          refine ⟨s', hs'0, hs't, ?_, g', .tail _ hg'L, hg'neg, hg'zero⟩
          intro g'' hg'' s'' h1 h2
          rcases List.mem_cons.1 hg'' with rfl | hg''
          · exact linear_nonneg_between hez.ge hing (hle.trans h1) h2
          · exact hall g'' hg'' s'' h1 h2
        · -- `g` enters last: its zero is the entry
          refine ⟨e, he0, het, ?_, g, List.mem_cons_self, hg, hez⟩
          intro g'' hg'' s'' h1 h2
          rcases List.mem_cons.1 hg'' with rfl | hg''
          · exact linear_nonneg_between hez.ge hing h1 h2
          · exact hall g'' hg'' s'' (hle.trans h1) h2
      · refine ⟨s', hs'0, hs't, ?_, g', .tail _ hg'L, hg'neg, hg'zero⟩
        intro g'' hg'' s'' h1 h2
        rcases List.mem_cons.1 hg'' with rfl | hg''
        · exact hstart g'' (not_lt.1 hg) hing s'' (hs'0.le.trans h1) h2
        · exact hall g'' hg'' s'' h1 h2
    · -- only `g` starts negative
      have hg : g.1 < 0 := by
        obtain ⟨g', hg', hneg⟩ := hout
        rcases List.mem_cons.1 hg' with rfl | hg'
        · exact hneg
        · exact absurd ⟨g', hg', hneg⟩ hL
      obtain ⟨e, he0, het, hez⟩ := exists_zero_of_neg hg ht hing
      refine ⟨e, he0, het, ?_, g, List.mem_cons_self, hg, hez⟩
      intro g'' hg'' s'' h1 h2
      rcases List.mem_cons.1 hg'' with rfl | hg''
      · exact linear_nonneg_between hez.ge hing h1 h2
      · exact hstart g'' (not_lt.1 fun h => hL ⟨g'', hg'', h⟩) (hinL g'' hg'') s''
          (he0.le.trans h1) h2

/-! ### Orientation -/

theorem orient_lerp (a b c d : Point ℝ) (u : ℝ) :
    orient a b (Point.lerp c d u) = (1 - u) * orient a b c + u * orient a b d := by
  simp only [orient, Point.lerp_x, Point.lerp_y]
  ring

theorem orient_lerp_self (a b : Point ℝ) (t : ℝ) : orient a b (Point.lerp a b t) = 0 := by
  simp only [orient, Point.lerp_x, Point.lerp_y]
  ring

theorem orient_swap (c d p : Point ℝ) : orient d c p = -orient c d p := by
  simp only [orient]
  ring

/-- Two points whose line leaves every point on it are one point. -/
theorem eq_of_orient_zero {c d : Point ℝ} (h : ∀ p, orient c d p = 0) : c = d := by
  have h₁ := h ⟨c.x + 1, c.y⟩
  have h₂ := h ⟨c.x, c.y + 1⟩
  simp only [orient] at h₁ h₂
  rw [Point.ext_iff']
  constructor <;> linarith

theorem opposite_iff (u v : ℝ) : opposite u v = true ↔ (0 < u ∧ v < 0) ∨ (u < 0 ∧ 0 < v) := by
  have h : (0.0 : ℝ) = 0 := by norm_num
  simp [opposite, h]

theorem nearZero_zero {tol : ℝ} (htol : 0 ≤ tol) : nearZero tol (0 : ℝ) = true := by
  simp only [nearZero, Scalar.abs_real, abs_zero, decide_eq_true_eq]
  exact htol

/-- A point between `a` and `b` on both axes is within their box. -/
theorem withinBox_of_between {tol : ℝ} (htol : 0 ≤ tol) {a b c : Point ℝ}
    (hx : min a.x b.x ≤ c.x ∧ c.x ≤ max a.x b.x) (hy : min a.y b.y ≤ c.y ∧ c.y ≤ max a.y b.y) :
    withinBox tol a b c = true := by
  simp only [withinBox, Scalar.min_real, Scalar.max_real, Bool.and_eq_true, decide_eq_true_eq]
  refine ⟨⟨⟨?_, ?_⟩, ?_⟩, ?_⟩ <;> linarith [hx.1, hx.2, hy.1, hy.2]

/-- With `α - β` scaled, `z` sits the fraction `α / (α - β)` of the way from `p` to `q`; when
`α` and `β` have strictly opposite signs that fraction lies in `(0, 1)`. -/
theorem between_of_opposite {α β z p q : ℝ} (h : (α - β) * (z - p) = α * (q - p))
    (hop : opposite α β = true) : min p q ≤ z ∧ z ≤ max p q := by
  rw [opposite_iff] at hop
  rcases le_total p q with hpq | hpq
  · simp only [min_eq_left hpq, max_eq_right hpq]
    rcases hop with ⟨h₁, h₂⟩ | ⟨h₁, h₂⟩ <;> constructor <;> nlinarith
  · simp only [min_eq_right hpq, max_eq_left hpq]
    rcases hop with ⟨h₁, h₂⟩ | ⟨h₁, h₂⟩ <;> constructor <;> nlinarith

/-- An end `c` of `cd` on the line `ab`, where `a` and `b` lie strictly on either side of the
line `cd`, lies between `a` and `b`: it is where the line `ab` crosses the line `cd`. -/
theorem withinBox_of_on_line {tol : ℝ} (htol : 0 ≤ tol) {a b c d : Point ℝ}
    (hc : orient a b c = 0) (hab : opposite (orient c d a) (orient c d b) = true) :
    withinBox tol a b c = true := by
  have hx : (orient c d a - orient c d b) * (c.x - a.x) = orient c d a * (b.x - a.x) := by
    have e : (orient c d a - orient c d b) * (c.x - a.x) =
        orient c d a * (b.x - a.x) + orient a b c * (d.x - c.x) := by
      simp only [orient]
      ring
    rw [e, hc, zero_mul, add_zero]
  have hy : (orient c d a - orient c d b) * (c.y - a.y) = orient c d a * (b.y - a.y) := by
    have e : (orient c d a - orient c d b) * (c.y - a.y) =
        orient c d a * (b.y - a.y) + orient a b c * (d.y - c.y) := by
      simp only [orient]
      ring
    rw [e, hc, zero_mul, add_zero]
  exact withinBox_of_between htol (between_of_opposite hx hab) (between_of_opposite hy hab)

/-! ### Two segments -/

/-- Two non-zero values with a weighted mean of zero have strictly opposite signs. -/
theorem opposite_of_weighted_zero {x y u : ℝ} (h0 : 0 ≤ u) (h1 : u ≤ 1)
    (h : (1 - u) * x + u * y = 0) (hx : x ≠ 0) (hy : y ≠ 0) : opposite x y = true := by
  rw [opposite_iff]
  -- the mean lies between `x` and `y`, so they cannot share a sign
  have hmean : min x y ≤ 0 ∧ 0 ≤ max x y := by
    have e : (1 - u) * x + u * y = x + u * (y - x) := by ring
    rw [← h, e]
    exact between_of_fraction h0 h1
  rcases lt_or_gt_of_ne hx with hxn | hxp <;> rcases lt_or_gt_of_ne hy with hyn | hyp
  · exact absurd hmean.2 (not_le.2 (max_lt hxn hyn))
  · exact .inr ⟨hxn, hyp⟩
  · exact .inl ⟨hxp, hyn⟩
  · exact absurd hmean.1 (not_le.2 (lt_min hxp hyp))

/-- A segment meets any segment that has an end on it. -/
theorem segmentsMeet_of_end_on {tol : ℝ} (htol : 0 ≤ tol) {a b c : Point ℝ} (d : Point ℝ)
    {s : ℝ} (h0 : 0 ≤ s) (h1 : s ≤ 1) (hc : c = Point.lerp a b s) :
    segmentsMeet tol a b c d = true := by
  have hnear : nearZero tol (orient a b c) = true := by
    rw [hc, orient_lerp_self]
    exact nearZero_zero htol
  have hwithin : withinBox tol a b c = true := by
    rw [hc]
    exact withinBox_of_between htol (between_of_fraction h0 h1) (between_of_fraction h0 h1)
  simp [segmentsMeet, hnear, hwithin]

/-- Two segments meet when the ends of `ab` lie strictly on either side of the line `cd` and the
line `ab` passes through a point of `cd`. -/
theorem segmentsMeet_of_crossing {tol : ℝ} (htol : 0 ≤ tol) {a b c d : Point ℝ} {u : ℝ}
    (h0 : 0 ≤ u) (h1 : u ≤ 1) (hab : opposite (orient c d a) (orient c d b) = true)
    (hu : orient a b (Point.lerp c d u) = 0) : segmentsMeet tol a b c d = true := by
  have hsum : (1 - u) * orient a b c + u * orient a b d = 0 := by rw [← orient_lerp]; exact hu
  by_cases hc : orient a b c = 0
  · -- `c` is on the line `ab`
    have hnear : nearZero tol (orient a b c) = true := by rw [hc]; exact nearZero_zero htol
    simp [segmentsMeet, hnear, withinBox_of_on_line htol hc hab]
  by_cases hd : orient a b d = 0
  · -- `d` is on the line `ab`; seen from `d`, the line `dc` still separates `a` and `b`
    have hba : opposite (orient d c a) (orient d c b) = true := by
      rw [orient_swap c d a, orient_swap c d b, opposite_iff, neg_pos, neg_lt_zero, neg_lt_zero,
        neg_pos]
      rw [opposite_iff] at hab
      tauto
    have hnear : nearZero tol (orient a b d) = true := by rw [hd]; exact nearZero_zero htol
    simp [segmentsMeet, hnear, withinBox_of_on_line htol hd hba]
  · -- neither end is on the line `ab`, which passes between them
    simp [segmentsMeet, opposite_of_weighted_zero h0 h1 hsum hc hd, hab]

/-! ### The sides of a rectangle -/

/-- A side of a rectangle, from corner `c` to corner `d`. The slack of a point is how far it lies
on the inner side of the side's line; it moves linearly along a segment, and the orientation of
`c d` is the side's length times the slack. -/
structure Side where
  c : Point ℝ
  d : Point ℝ
  slack : Point ℝ → ℝ
  length : ℝ
  orient_eq : ∀ p, orient c d p = length * slack p
  slack_lerp : ∀ a b t, slack (Point.lerp a b t) = (1 - t) * slack a + t * slack b

namespace Rect

variable (r : Rect ℝ)

/-- The top side, left to right. -/
def top : Side where
  c := ⟨r.x, r.y⟩
  d := ⟨r.x + r.width, r.y⟩
  slack p := p.y - r.y
  length := r.width
  orient_eq p := by simp only [orient]; ring
  slack_lerp a b t := by simp only [Point.lerp_y]; ring

/-- The right side, top to bottom. -/
def rightSide : Side where
  c := ⟨r.x + r.width, r.y⟩
  d := ⟨r.x + r.width, r.y + r.height⟩
  slack p := r.x + r.width - p.x
  length := r.height
  orient_eq p := by simp only [orient]; ring
  slack_lerp a b t := by simp only [Point.lerp_x]; ring

/-- The bottom side, right to left. -/
def bottomSide : Side where
  c := ⟨r.x + r.width, r.y + r.height⟩
  d := ⟨r.x, r.y + r.height⟩
  slack p := r.y + r.height - p.y
  length := r.width
  orient_eq p := by simp only [orient]; ring
  slack_lerp a b t := by simp only [Point.lerp_y]; ring

/-- The left side, bottom to top. -/
def left : Side where
  c := ⟨r.x, r.y + r.height⟩
  d := ⟨r.x, r.y⟩
  slack p := p.x - r.x
  length := r.height
  orient_eq p := by simp only [orient]; ring
  slack_lerp a b t := by simp only [Point.lerp_x]; ring

/-- The sides in the order `segmentMeetsRect` tries them. -/
def sides : List Side := [r.top, r.rightSide, r.bottomSide, r.left]

/-- A rectangle holds exactly the points with no negative slack. -/
theorem contains_iff_slack (p : Point ℝ) :
    r.contains p = true ↔ ∀ S ∈ r.sides, 0 ≤ S.slack p := by
  simp only [contains_iff, sides, List.mem_cons, List.not_mem_nil, or_false, forall_eq_or_imp,
    forall_eq, top, rightSide, bottomSide, left, sub_nonneg]
  tauto

/-- A side of a rectangle holding a point has no negative length. -/
theorem length_nonneg {p : Point ℝ} (hp : r.contains p = true) :
    ∀ S ∈ r.sides, 0 ≤ S.length := by
  rw [contains_iff] at hp
  simp only [sides, List.mem_cons, List.not_mem_nil, or_false, forall_eq_or_imp, forall_eq,
    top, rightSide, bottomSide, left]
  refine ⟨?_, ?_, ?_, ?_⟩ <;> linarith [hp.1, hp.2.1, hp.2.2.1, hp.2.2.2]

/-- A point of the rectangle with zero slack on a side lies on that side. -/
theorem mem_side {q : Point ℝ} (hq : r.contains q = true) :
    ∀ S ∈ r.sides, S.slack q = 0 → ∃ u, 0 ≤ u ∧ u ≤ 1 ∧ q = Point.lerp S.c S.d u := by
  rw [contains_iff] at hq
  obtain ⟨hx₁, hx₂, hy₁, hy₂⟩ := hq
  simp only [sides, List.mem_cons, List.not_mem_nil, or_false, forall_eq_or_imp, forall_eq,
    top, rightSide, bottomSide, left, Point.ext_iff', Point.lerp_x, Point.lerp_y]
  refine ⟨fun h => ?_, fun h => ?_, fun h => ?_, fun h => ?_⟩
  · obtain ⟨u, hu0, hu1, hu⟩ := exists_fraction hx₁ hx₂
    exact ⟨u, hu0, hu1, by linarith, by linarith⟩
  · obtain ⟨u, hu0, hu1, hu⟩ := exists_fraction hy₁ hy₂
    exact ⟨u, hu0, hu1, by linarith, by linarith⟩
  · -- walked right to left, the fraction counts from the right
    obtain ⟨u, hu0, hu1, hu⟩ := exists_fraction hx₁ hx₂
    exact ⟨1 - u, by linarith, by linarith, by linarith, by linarith⟩
  · obtain ⟨u, hu0, hu1, hu⟩ := exists_fraction hy₁ hy₂
    exact ⟨1 - u, by linarith, by linarith, by linarith, by linarith⟩

end Rect

/-- A segment from outside the line of a side to its inner side, through a point of the side,
meets the side. A side of length zero is a corner, which is then on the segment. -/
theorem segmentsMeet_of_side {tol : ℝ} (htol : 0 ≤ tol) {a b : Point ℝ} (S : Side)
    (hlen : 0 ≤ S.length) (ha : S.slack a < 0) (hb : 0 < S.slack b) {s u : ℝ} (hs0 : 0 ≤ s)
    (hs1 : s ≤ 1) (hu0 : 0 ≤ u) (hu1 : u ≤ 1) (hQ : Point.lerp a b s = Point.lerp S.c S.d u) :
    segmentsMeet tol a b S.c S.d = true := by
  rcases hlen.lt_or_eq with hpos | hzero
  · have hab : opposite (orient S.c S.d a) (orient S.c S.d b) = true := by
      rw [S.orient_eq, S.orient_eq, opposite_iff]
      exact .inr ⟨mul_neg_of_pos_of_neg hpos ha, mul_pos hpos hb⟩
    exact segmentsMeet_of_crossing htol hu0 hu1 hab (by rw [← hQ]; exact orient_lerp_self a b s)
  · have hcd : S.c = S.d := eq_of_orient_zero fun p => by rw [S.orient_eq, ← hzero, zero_mul]
    rw [← hcd, Point.lerp_self] at hQ
    exact segmentsMeet_of_end_on htol S.d hs0 hs1 hQ.symm

/-- The four side tests of `segmentMeetsRect`, one per side. -/
theorem sideTests_eq (tol : ℝ) (a b : Point ℝ) (r : Rect ℝ) :
    (segmentsMeet tol a b ⟨r.x, r.y⟩ ⟨r.x + r.width, r.y⟩ ||
      segmentsMeet tol a b ⟨r.x + r.width, r.y⟩ ⟨r.x + r.width, r.y + r.height⟩ ||
      segmentsMeet tol a b ⟨r.x + r.width, r.y + r.height⟩ ⟨r.x, r.y + r.height⟩ ||
      segmentsMeet tol a b ⟨r.x, r.y + r.height⟩ ⟨r.x, r.y⟩) =
      r.sides.any fun S => segmentsMeet tol a b S.c S.d := by
  simp [Rect.sides, Rect.top, Rect.rightSide, Rect.bottomSide, Rect.left, Bool.or_assoc]

/-- Over exact scalars the segment test, with any tolerance, has no false negatives: a segment
with a point in the closed rectangle is reported as meeting it. -/
theorem segmentMeetsRectWithin_of_mem {tol : ℝ} (htol : 0 ≤ tol) {a b : Point ℝ} {r : Rect ℝ}
    {t : ℝ} (h0 : 0 ≤ t) (h1 : t ≤ 1) (hin : r.contains (Point.lerp a b t) = true) :
    segmentMeetsRectWithin tol a b r = true := by
  have hx := between_of_fraction (a := a.x) (b := b.x) h0 h1
  have hy := between_of_fraction (a := a.y) (b := b.y) h0 h1
  have hP := (Rect.contains_iff r _).1 hin
  simp only [Point.lerp_x, Point.lerp_y] at hP
  -- the bounding box of the segment meets the rectangle
  have hbox : ¬ ((Scalar.max a.x b.x < r.x || r.x + r.width < Scalar.min a.x b.x ||
      Scalar.max a.y b.y < r.y || r.y + r.height < Scalar.min a.y b.y) = true) := by
    simp only [Scalar.max_real, Scalar.min_real, Bool.or_eq_true, decide_eq_true_eq, not_or,
      not_lt]
    refine ⟨⟨⟨?_, ?_⟩, ?_⟩, ?_⟩ <;> linarith [hx.1, hx.2, hy.1, hy.2]
  unfold segmentMeetsRectWithin
  dsimp only
  rw [if_neg hbox]
  cases hend : (r.contains a || r.contains b)
  · -- both ends are outside: the segment enters through a side
    rw [Bool.or_eq_false_iff] at hend
    rw [if_neg (by simp), sideTests_eq, List.any_eq_true]
    have hout : ∃ g ∈ r.sides.map (fun S => (S.slack a, S.slack b)), g.1 < 0 := by
      have ha : ¬ ∀ S ∈ r.sides, 0 ≤ S.slack a := by
        rw [← Rect.contains_iff_slack, hend.1]
        exact Bool.false_ne_true
      obtain ⟨S, hS, hneg⟩ : ∃ S ∈ r.sides, S.slack a < 0 := by simpa using ha
      exact ⟨_, List.mem_map_of_mem hS, hneg⟩
    have hinS : ∀ g ∈ r.sides.map (fun S => (S.slack a, S.slack b)),
        0 ≤ (1 - t) * g.1 + t * g.2 := by
      intro g hg
      obtain ⟨S, hS, rfl⟩ := List.mem_map.1 hg
      rw [← S.slack_lerp]
      exact (Rect.contains_iff_slack r _).1 hin S hS
    obtain ⟨s, hs0, hst, hall, g, hg, hgneg, hgzero⟩ := exists_entry _ h0 hinS hout
    obtain ⟨S, hS, rfl⟩ := List.mem_map.1 hg
    -- the entry point is in the rectangle, on the side `S`
    have hQ : r.contains (Point.lerp a b s) = true := by
      rw [Rect.contains_iff_slack]
      intro S' hS'
      rw [S'.slack_lerp]
      exact hall _ (List.mem_map_of_mem hS') s le_rfl hst
    have hs1 : s < 1 := by
      refine lt_of_le_of_ne (hst.trans h1) fun h => ?_
      rw [h, Point.lerp_one] at hQ
      exact absurd hQ (by simp [hend.2])
    have hb : 0 < S.slack b := by
      dsimp only at hgneg hgzero
      nlinarith
    have hzero : S.slack (Point.lerp a b s) = 0 := by rw [S.slack_lerp]; exact hgzero
    obtain ⟨u, hu0, hu1, hu⟩ := Rect.mem_side r hQ S hS hzero
    exact ⟨S, hS, segmentsMeet_of_side htol S (Rect.length_nonneg r hin S hS) hgneg hb hs0.le
      hs1.le hu0 hu1 hu⟩
  · rw [if_pos rfl]

/-- The drawing's segment test has no false negatives over exact scalars. -/
theorem segmentMeetsRect_of_mem {a b : Point ℝ} {r : Rect ℝ} {t : ℝ} (h0 : 0 ≤ t) (h1 : t ≤ 1)
    (hin : r.contains (Point.lerp a b t) = true) : segmentMeetsRect a b r = true :=
  segmentMeetsRectWithin_of_mem (by norm_num) h0 h1 hin

/-- Some point of a segment of the polyline lies in the closed rectangle. -/
def Touches (pts : List (Point ℝ)) (r : Rect ℝ) : Prop :=
  ∃ a b, (a, b) ∈ pts.zip pts.tail ∧ ∃ t, 0 ≤ t ∧ t ≤ 1 ∧ r.contains (Point.lerp a b t) = true

/-- A polyline that touches a rectangle is reported as meeting it. -/
theorem polylineMeetsRect_of_touches {r : Rect ℝ} :
    ∀ {pts : List (Point ℝ)}, Touches pts r → polylineMeetsRect pts r = true
  | [], ⟨_, _, hab, _⟩ => by simp at hab
  | [_], ⟨_, _, hab, _⟩ => by simp at hab
  | p :: q :: rest, ⟨a, b, hab, t, h0, h1, hin⟩ => by
    rw [polylineMeetsRect, Bool.or_eq_true]
    rw [List.tail_cons, List.zip_cons_cons, List.mem_cons, Prod.mk.injEq] at hab
    rcases hab with ⟨rfl, rfl⟩ | hab
    · exact .inl (segmentMeetsRect_of_mem h0 h1 hin)
    · exact .inr (polylineMeetsRect_of_touches ⟨a, b, hab, t, h0, h1, hin⟩)

end FlowLayout
