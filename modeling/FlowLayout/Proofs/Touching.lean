import Mathlib
import FlowLayout.Proofs.Crossing
/-!
# Without tolerance the segment test is exact

Read over exact numbers, the segment test has no false negatives at any tolerance: a segment
with a point in a closed rectangle is reported as meeting it (`segmentMeetsRectWithin_of_mem`),
long diagonals with both ends outside included. With the tolerance taken as zero it has no false
positives either, on a rectangle whose width and height are not negative
(`touches_of_segmentMeetsRectWithin_zero`): every way the test can accept finds a point of the
segment in the rectangle.

* An end inside the rectangle is such a point.
* Two segments accepted at tolerance zero share a point (`exists_common_point`): either each
  one's ends lie strictly on either side of the other's line, and the lines cross at a point
  of both (`lerp_eq_lerp_of_opposite`), or an end of one lies on the other's line within its
  box, hence on the other segment (`exists_lerp_of_on_line`).
* A side of the rectangle lies in it, its corners being in it (`Rect.contains_lerp`,
  `Rect.contains_side_ends`).

So at tolerance zero the test decides exactly whether the segment touches the rectangle
(`segmentMeetsRect_detects_touching`).
-/

namespace FlowLayout

@[simp] theorem Point.lerp_zero (a b : Point ℝ) : Point.lerp a b 0 = a := by
  rw [ext_iff']
  constructor <;> simp

/-! ### Points of a segment -/

/-- A value between `p` and `q` is a fraction of the way from `p` to `q`. -/
theorem exists_fraction_between {p q z : ℝ} (h₁ : min p q ≤ z) (h₂ : z ≤ max p q) :
    ∃ t, 0 ≤ t ∧ t ≤ 1 ∧ z = p + t * (q - p) := by
  rcases le_total p q with hpq | hqp
  · rw [min_eq_left hpq] at h₁
    rw [max_eq_right hpq] at h₂
    obtain ⟨t, ht0, ht1, hz⟩ := exists_fraction h₁ (show z ≤ p + (q - p) by linarith)
    exact ⟨t, ht0, ht1, hz⟩
  · -- walked from `q`, the fraction counts from the other end
    rw [min_eq_right hqp] at h₁
    rw [max_eq_left hqp] at h₂
    obtain ⟨u, hu0, hu1, hz⟩ := exists_fraction h₁ (show z ≤ q + (p - q) by linarith)
    exact ⟨1 - u, by linarith, by linarith, by rw [hz]; ring⟩

/-- A point on the line `ab` and within the box of `a` and `b` lies on the segment `ab`. -/
theorem exists_lerp_of_on_line {a b c : Point ℝ} (hc : orient a b c = 0)
    (hbox : withinBox 0 a b c = true) : ∃ t, 0 ≤ t ∧ t ≤ 1 ∧ c = Point.lerp a b t := by
  simp only [withinBox, Scalar.min_real, Scalar.max_real, sub_zero, add_zero, Bool.and_eq_true,
    decide_eq_true_eq] at hbox
  obtain ⟨⟨⟨hx₁, hx₂⟩, hy₁⟩, hy₂⟩ := hbox
  simp only [orient] at hc
  by_cases hx : a.x = b.x
  · by_cases hy : a.y = b.y
    · -- `a = b`: the box is that one point
      refine ⟨0, le_rfl, zero_le_one, ?_⟩
      rw [Point.ext_iff']
      simp only [← hx, ← hy, min_self, max_self] at hx₁ hx₂ hy₁ hy₂
      constructor <;> simp <;> linarith
    · -- the fraction along `y`, and `x` is then that of `a`
      obtain ⟨t, ht0, ht1, hty⟩ := exists_fraction_between hy₁ hy₂
      refine ⟨t, ht0, ht1, ?_⟩
      have hline : (b.y - a.y) * (c.x - (a.x + t * (b.x - a.x))) = 0 := by
        rw [hty] at hc
        linear_combination -hc
      rw [Point.ext_iff']
      refine ⟨?_, hty⟩
      have := (mul_eq_zero.1 hline).resolve_left (sub_ne_zero.2 (Ne.symm hy))
      simp only [Point.lerp_x]
      linarith
  · -- the fraction along `x`, and `y` is then that of the line
    obtain ⟨t, ht0, ht1, htx⟩ := exists_fraction_between hx₁ hx₂
    refine ⟨t, ht0, ht1, ?_⟩
    have hline : (b.x - a.x) * (c.y - (a.y + t * (b.y - a.y))) = 0 := by
      rw [htx] at hc
      linear_combination hc
    rw [Point.ext_iff']
    refine ⟨htx, ?_⟩
    have := (mul_eq_zero.1 hline).resolve_left (sub_ne_zero.2 (Ne.symm hx))
    simp only [Point.lerp_y]
    linarith

/-- Two values of strictly opposite signs: the first is a fraction in `[0, 1]` of their
difference. -/
theorem fraction_of_opposite {x y : ℝ} (h : opposite x y = true) :
    0 ≤ x / (x - y) ∧ x / (x - y) ≤ 1 := by
  rw [opposite_iff] at h
  rcases h with ⟨hx, hy⟩ | ⟨hx, hy⟩
  · have hd : 0 < x - y := by linarith
    exact ⟨div_nonneg hx.le hd.le, (div_le_one hd).2 (by linarith)⟩
  · have hd : x - y < 0 := by linarith
    exact ⟨div_nonneg_of_nonpos hx.le hd.le, (div_le_one_of_neg hd).2 (by linarith)⟩

/-- Where the lines `ab` and `cd` cross, as a fraction of each segment: the orientations of
the ends of one segment against the other's line give the fractions. -/
theorem lerp_eq_lerp_of_opposite {a b c d : Point ℝ} (h : orient a b c - orient a b d ≠ 0) :
    Point.lerp a b (orient c d a / (orient c d a - orient c d b)) =
      Point.lerp c d (orient a b c / (orient a b c - orient a b d)) := by
  -- the two differences of orientations are opposite
  have hdiff : orient c d a - orient c d b = -(orient a b c - orient a b d) := by
    simp only [orient]
    ring
  have h' : orient c d a - orient c d b ≠ 0 := by rw [hdiff]; exact neg_ne_zero.2 h
  rw [Point.ext_iff']
  simp only [Point.lerp_x, Point.lerp_y]
  constructor
  · field_simp
    simp only [orient]
    ring
  · field_simp
    simp only [orient]
    ring

/-! ### Two segments without tolerance -/

theorem eq_zero_of_nearZero {u : ℝ} (h : nearZero 0 u = true) : u = 0 := by
  simpa [nearZero] using h

/-- Two segments accepted by the test at tolerance zero share a point. -/
theorem exists_common_point {a b c d : Point ℝ} (h : segmentsMeet 0 a b c d = true) :
    ∃ t u, 0 ≤ t ∧ t ≤ 1 ∧ 0 ≤ u ∧ u ≤ 1 ∧ Point.lerp a b t = Point.lerp c d u := by
  simp only [segmentsMeet, Bool.or_eq_true, Bool.and_eq_true] at h
  rcases h with (((⟨hcd, hab⟩ | ⟨hc, hcbox⟩) | ⟨hd, hdbox⟩) | ⟨ha, habox⟩) | ⟨hb, hbbox⟩
  · -- a proper crossing: the lines cross inside both segments
    have hne : orient a b c - orient a b d ≠ 0 := by
      rw [opposite_iff] at hcd
      rcases hcd with ⟨h₁, h₂⟩ | ⟨h₁, h₂⟩ <;> linarith
    obtain ⟨ht0, ht1⟩ := fraction_of_opposite hab
    obtain ⟨hu0, hu1⟩ := fraction_of_opposite hcd
    exact ⟨_, _, ht0, ht1, hu0, hu1, lerp_eq_lerp_of_opposite hne⟩
  · obtain ⟨t, ht0, ht1, hct⟩ := exists_lerp_of_on_line (eq_zero_of_nearZero hc) hcbox
    exact ⟨t, 0, ht0, ht1, le_rfl, zero_le_one, by rw [Point.lerp_zero, hct]⟩
  · obtain ⟨t, ht0, ht1, hdt⟩ := exists_lerp_of_on_line (eq_zero_of_nearZero hd) hdbox
    exact ⟨t, 1, ht0, ht1, zero_le_one, le_rfl, by rw [Point.lerp_one, hdt]⟩
  · obtain ⟨u, hu0, hu1, hau⟩ := exists_lerp_of_on_line (eq_zero_of_nearZero ha) habox
    exact ⟨0, u, le_rfl, zero_le_one, hu0, hu1, by rw [Point.lerp_zero, hau]⟩
  · obtain ⟨u, hu0, hu1, hbu⟩ := exists_lerp_of_on_line (eq_zero_of_nearZero hb) hbbox
    exact ⟨1, u, zero_le_one, le_rfl, hu0, hu1, by rw [Point.lerp_one, hbu]⟩

/-! ### The sides of a rectangle lie in it -/

namespace Rect

variable (r : Rect ℝ)

/-- A closed rectangle holds the segment between two of its points. -/
theorem contains_lerp {c d : Point ℝ} (hc : r.contains c = true) (hd : r.contains d = true)
    {u : ℝ} (h0 : 0 ≤ u) (h1 : u ≤ 1) : r.contains (Point.lerp c d u) = true := by
  rw [contains_iff] at hc hd ⊢
  have hx := between_of_fraction (a := c.x) (b := d.x) h0 h1
  have hy := between_of_fraction (a := c.y) (b := d.y) h0 h1
  simp only [Point.lerp_x, Point.lerp_y]
  refine ⟨?_, ?_, ?_, ?_⟩
  · exact le_trans (le_min hc.1 hd.1) hx.1
  · exact le_trans hx.2 (max_le hc.2.1 hd.2.1)
  · exact le_trans (le_min hc.2.2.1 hd.2.2.1) hy.1
  · exact le_trans hy.2 (max_le hc.2.2.2 hd.2.2.2)

/-- A rectangle of non-negative size holds the ends of its sides, its corners. -/
theorem contains_side_ends (hw : 0 ≤ r.width) (hh : 0 ≤ r.height) :
    ∀ S ∈ r.sides, r.contains S.c = true ∧ r.contains S.d = true := by
  simp only [sides, List.mem_cons, List.not_mem_nil, or_false, forall_eq_or_imp, forall_eq,
    top, rightSide, bottomSide, left, contains_iff]
  refine ⟨⟨?_, ?_⟩, ⟨?_, ?_⟩, ⟨?_, ?_⟩, ⟨?_, ?_⟩⟩ <;>
    refine ⟨?_, ?_, ?_, ?_⟩ <;> linarith

end Rect

/-! ### A segment and a rectangle -/

/-- At tolerance zero the test accepts only segments with a point in the rectangle. -/
theorem touches_of_segmentMeetsRectWithin_zero {a b : Point ℝ} {r : Rect ℝ} (hw : 0 ≤ r.width)
    (hh : 0 ≤ r.height) (h : segmentMeetsRectWithin 0 a b r = true) :
    ∃ t, 0 ≤ t ∧ t ≤ 1 ∧ r.contains (Point.lerp a b t) = true := by
  unfold segmentMeetsRectWithin at h
  dsimp only at h
  split_ifs at h with hbox hend
  · -- an end inside
    rcases Bool.or_eq_true_iff.1 hend with ha | hb
    · exact ⟨0, le_rfl, zero_le_one, by rw [Point.lerp_zero]; exact ha⟩
    · exact ⟨1, zero_le_one, le_rfl, by rw [Point.lerp_one]; exact hb⟩
  · -- a side met: the common point lies on the side, so in the rectangle
    rw [sideTests_eq, List.any_eq_true] at h
    obtain ⟨S, hS, hmeet⟩ := h
    obtain ⟨t, u, ht0, ht1, hu0, hu1, hpt⟩ := exists_common_point hmeet
    obtain ⟨hc, hd⟩ := r.contains_side_ends hw hh S hS
    exact ⟨t, ht0, ht1, by rw [hpt]; exact r.contains_lerp hc hd hu0 hu1⟩

/-- Read over exact numbers, for every segment `ab` and every rectangle `r` of non-negative
width and height: a point of the closed segment in the closed rectangle makes the drawing's test
accept, and with its tolerances taken as zero the test accepts exactly such segments. -/
theorem segmentMeetsRect_detects_touching (a b : Point ℝ) (r : Rect ℝ) (hw : 0 ≤ r.width)
    (hh : 0 ≤ r.height) :
    ((∃ t, 0 ≤ t ∧ t ≤ 1 ∧ r.contains (Point.lerp a b t) = true) →
        segmentMeetsRect a b r = true) ∧
      (segmentMeetsRectWithin 0 a b r = true ↔
        ∃ t, 0 ≤ t ∧ t ≤ 1 ∧ r.contains (Point.lerp a b t) = true) := by
  refine ⟨fun ⟨t, h0, h1, hin⟩ => segmentMeetsRect_of_mem h0 h1 hin, ?_, ?_⟩
  · exact touches_of_segmentMeetsRectWithin_zero hw hh
  · rintro ⟨t, h0, h1, hin⟩
    exact segmentMeetsRectWithin_of_mem le_rfl h0 h1 hin

/-- The diagonal from `(-5, -5)` to `(15, 15)` through the square `[0, 10]²`, both ends
outside. -/
theorem diagonal_through_square_detected :
    (0 : ℝ) ≤ (⟨0, 0, 10, 10⟩ : Rect ℝ).width ∧ (0 : ℝ) ≤ (⟨0, 0, 10, 10⟩ : Rect ℝ).height ∧
      (((∃ t, 0 ≤ t ∧ t ≤ 1 ∧
          (⟨0, 0, 10, 10⟩ : Rect ℝ).contains (Point.lerp ⟨-5, -5⟩ ⟨15, 15⟩ t) = true) →
          segmentMeetsRect ⟨-5, -5⟩ ⟨15, 15⟩ (⟨0, 0, 10, 10⟩ : Rect ℝ) = true) ∧
        (segmentMeetsRectWithin 0 ⟨-5, -5⟩ ⟨15, 15⟩ (⟨0, 0, 10, 10⟩ : Rect ℝ) = true ↔
          ∃ t, 0 ≤ t ∧ t ≤ 1 ∧
            (⟨0, 0, 10, 10⟩ : Rect ℝ).contains (Point.lerp ⟨-5, -5⟩ ⟨15, 15⟩ t) = true)) :=
  ⟨by norm_num, by norm_num,
    segmentMeetsRect_detects_touching ⟨-5, -5⟩ ⟨15, 15⟩ ⟨0, 0, 10, 10⟩ (by norm_num) (by norm_num)⟩

end FlowLayout
