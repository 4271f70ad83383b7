import Mathlib.Analysis.SpecialFunctions.Complex.Arg
import FlowLayout.Geometry.Plane
/-!
# Exact scalars

The layout read over the real numbers: the field operations and the order of `ℝ`, the square
root, the hypotenuse `√(x² + y²)`, the angle of the point `(x, y)` as the argument of the
complex number `x + y i`, and a sign transfer that keeps the magnitude and takes the sign of the
second operand (there is no negative zero). Every value is finite, `max` and `min` are those of
the order, and `totalCompare` is the order.

Over these scalars the model's comparisons say what they mean: two values are the same exactly
when they are equal (`Scalar.same_real`, `Point.same_iff`), and a rectangle holds a point
exactly when the point lies within its four lines (`Rect.contains_iff`).
-/

namespace FlowLayout

noncomputable instance Scalar.real : Scalar ℝ where
  toAdd := inferInstance
  toSub := inferInstance
  toMul := inferInstance
  toDiv := inferInstance
  toNeg := inferInstance
  toLT := inferInstance
  toLE := inferInstance
  toOfScientific := inferInstance
  ofNat n := n
  abs x := |x|
  sqrt := Real.sqrt
  hypot x y := Real.sqrt (x * x + y * y)
  atan2 y x := Complex.arg ⟨x, y⟩
  cos := Real.cos
  sin := Real.sin
  copySign m s := if s < 0 then -|m| else |m|
  max a b := Max.max a b
  min a b := Min.min a b
  isFinite _ := true
  totalCompare := compare
  decLt := Real.decidableLT
  decLe := Real.decidableLE

namespace Scalar

@[simp] theorem max_real (a b : ℝ) : Scalar.max a b = Max.max a b := rfl

@[simp] theorem min_real (a b : ℝ) : Scalar.min a b = Min.min a b := rfl

@[simp] theorem abs_real (a : ℝ) : Scalar.abs a = |a| := rfl

@[simp] theorem ofNat_real (n : Nat) : (Scalar.ofNat n : ℝ) = n := rfl

@[simp] theorem isFinite_real (a : ℝ) : Scalar.isFinite a = true := rfl

@[simp] theorem same_real (a b : ℝ) : Scalar.same a b = decide (a = b) := by
  rw [Scalar.same, Bool.eq_iff_iff]
  simp [le_antisymm_iff]

end Scalar

/-- The literal `2.0` of the layout's formulas is the number two. -/
@[simp] theorem ofScientific_two_real : (2.0 : ℝ) = 2 := by norm_num

theorem Point.ext_iff' {p q : Point ℝ} : p = q ↔ p.x = q.x ∧ p.y = q.y := by
  cases p
  cases q
  simp

theorem Point.same_iff (p q : Point ℝ) : p.same q = true ↔ p = q := by
  simp [Point.same, Point.ext_iff']

namespace Rect

variable (r : Rect ℝ)

@[simp] theorem contains_iff (p : Point ℝ) :
    r.contains p = true ↔
      r.x ≤ p.x ∧ p.x ≤ r.x + r.width ∧ r.y ≤ p.y ∧ p.y ≤ r.y + r.height := by
  simp [Rect.contains, and_assoc]

@[simp] theorem fromCenter_x (c : Point ℝ) (w h : ℝ) : (fromCenter c w h).x = c.x - w / 2 := by
  simp only [fromCenter]
  norm_num

@[simp] theorem fromCenter_y (c : Point ℝ) (w h : ℝ) : (fromCenter c w h).y = c.y - h / 2 := by
  simp only [fromCenter]
  norm_num

@[simp] theorem fromCenter_width (c : Point ℝ) (w h : ℝ) : (fromCenter c w h).width = w := rfl

@[simp] theorem fromCenter_height (c : Point ℝ) (w h : ℝ) : (fromCenter c w h).height = h := rfl

/-- A rectangle placed around a centre has that centre. -/
@[simp] theorem center_fromCenter (c : Point ℝ) (w h : ℝ) : (fromCenter c w h).center = c := by
  rw [Point.ext_iff']
  simp only [center, fromCenter_x, fromCenter_y, fromCenter_width, fromCenter_height]
  constructor <;> norm_num

@[simp] theorem padded_x (p : ℝ) : (r.padded p).x = r.x - p := rfl

@[simp] theorem padded_y (p : ℝ) : (r.padded p).y = r.y - p := rfl

@[simp] theorem padded_width (p : ℝ) : (r.padded p).width = r.width + 2 * p := by
  simp only [padded]
  norm_num

@[simp] theorem padded_height (p : ℝ) : (r.padded p).height = r.height + 2 * p := by
  simp only [padded]
  norm_num

end Rect

end FlowLayout
