
/-!
# Scalars of a drawing

The layout computes with one number type throughout, given by a `Scalar` instance: the field
operations, comparisons, literals written as decimals, the square root, the hypotenuse, the
polar angle and its cosine and sine, a sign transfer, maximum and minimum that skip an
undefined operand, a finiteness test and a total order for sorting. Drawings are computed with
binary32 numbers (the instance below, `Scalar Float32`); the same definitions read over exact
numbers state what the computation aims at.
-/

namespace FlowLayout

/-- The number operations a layout uses. `atan2 y x` is the angle of the point `(x, y)`;
`copySign m s` is `m` with the sign of `s`; `max` and `min` return the other operand when one
is undefined; `totalCompare` orders all values, undefined ones included. -/
class Scalar (α : Type) extends Add α, Sub α, Mul α, Div α, Neg α, LT α, LE α,
    OfScientific α where
  ofNat : Nat → α
  abs : α → α
  sqrt : α → α
  hypot : α → α → α
  atan2 : α → α → α
  cos : α → α
  sin : α → α
  copySign : α → α → α
  max : α → α → α
  min : α → α → α
  isFinite : α → Bool
  totalCompare : α → α → Ordering
  decLt : DecidableRel (α := α) (· < ·)
  decLe : DecidableRel (α := α) (· ≤ ·)

namespace Scalar

variable {α : Type} [Scalar α]

instance instDecidableLt : DecidableRel (α := α) (· < ·) := Scalar.decLt

instance instDecidableLe : DecidableRel (α := α) (· ≤ ·) := Scalar.decLe

/-- The largest finite value of binary32. -/
def largest : α := 3.4028235e38

/-- Equality as comparisons see it: each is at most the other. -/
def same (a b : α) : Bool := decide (a ≤ b) && decide (b ≤ a)

/-- `x` kept within `[lo, hi]`. -/
def clamp (x lo hi : α) : α := if x < lo then lo else if hi < x then hi else x

/-- The sum of a list, added from the left to a start of negative zero. -/
def sum (xs : List α) : α := xs.foldl (· + ·) (-(0.0 : α))

/-- The list sorted by the total order; stable. -/
def sortTotal (xs : List α) : List α :=
  xs.mergeSort fun a b => totalCompare a b != .gt

end Scalar

end FlowLayout

/-!
## Binary32 scalars

Drawings are computed in IEEE 754 binary32. The operations round once, as the hardware does;
the square root is correctly rounded; the hypotenuse is computed from binary64 squares and
rounded to binary32 at the end; the angle, cosine and sine are those of the C library.
`max` and `min` return the other operand when one is NaN. The total order puts negative NaNs
first, then negative numbers, `-0`, `+0`, positive numbers and positive NaNs.
-/

namespace FlowLayout

/-- The sign bit of a binary32 value. -/
def Float32.signBit (x : Float32) : Bool := x.toBits >>> 31 == 1

/-- A key whose integer order is the total order of binary32 values. -/
def Float32.totalKey (x : Float32) : Int :=
  let magnitude : Int := (x.toBits &&& 0x7fffffff).toNat
  if Float32.signBit x then -magnitude - 1 else magnitude

/-- `m` with the sign bit of `s`. -/
def Float32.withSignOf (m s : Float32) : Float32 :=
  Float32.ofBits ((m.toBits &&& 0x7fffffff) ||| (s.toBits &&& 0x80000000))

/-- `√(x² + y²)`, with the squares and their sum in binary64. -/
def Float32.hypotenuse (x y : Float32) : Float32 :=
  if x.isInf || y.isInf then Float32.ofBits 0x7f800000
  else if x.isNaN || y.isNaN then x + y
  else
    let a := x.toFloat
    let b := y.toFloat
    (a * a + b * b).sqrt.toFloat32

/-- The larger operand; the other one when one is NaN. -/
def Float32.maxNum (a b : Float32) : Float32 :=
  if a.isNaN then b else if b.isNaN then a else if a < b then b else a

/-- The smaller operand; the other one when one is NaN. -/
def Float32.minNum (a b : Float32) : Float32 :=
  if a.isNaN then b else if b.isNaN then a else if b < a then b else a

instance : Scalar Float32 where
  toAdd := inferInstance
  toSub := inferInstance
  toMul := inferInstance
  toDiv := inferInstance
  toNeg := inferInstance
  toLT := inferInstance
  toLE := inferInstance
  toOfScientific := inferInstance
  ofNat := Float32.ofNat
  abs := Float32.abs
  sqrt := Float32.sqrt
  hypot := Float32.hypotenuse
  atan2 := Float32.atan2
  cos := Float32.cos
  sin := Float32.sin
  copySign := Float32.withSignOf
  max := Float32.maxNum
  min := Float32.minNum
  isFinite x := x.isFinite
  totalCompare a b := compare (Float32.totalKey a) (Float32.totalKey b)
  decLt := Float32.decLt
  decLe := Float32.decLe

end FlowLayout
