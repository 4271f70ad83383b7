import FlowLayout.Geometry.Scalar
/-!
# Layout settings

Nine settings steer a layout: two caps on crossing reduction (passes and transpose rounds),
the target canvas width, the margin, the padding around obstacles, the step and the number of
attempts of detours, the bend of direct curves and the length of detour stubs.

`LayoutConfig.check` reports the first setting out of range, in the order counts
(`crossing_passes`, `transpose_rounds`, `detour_attempts`), positive numbers (`target_width`,
`detour_step`), non-negative numbers (`margin`, `obstacle_padding`, `curve_factor`,
`stub_length`). A count must lie between 1 and 1000; a positive number must be finite and
above zero; a non-negative number finite and at least zero. `LayoutConfig.sanitized` repairs
each setting on its own: a zero count becomes its default, a larger count is capped at 1000,
and any other rejected number becomes its default.
-/

namespace FlowLayout

/-- The nine settings, in the order data formats list them. -/
inductive ConfigField where
  | crossingPasses
  | transposeRounds
  | targetWidth
  | margin
  | obstaclePadding
  | detourStep
  | detourAttempts
  | curveFactor
  | stubLength
  deriving DecidableEq, Repr

namespace ConfigField

/-- Every setting, in data order. -/
def all : List ConfigField :=
  [.crossingPasses, .transposeRounds, .targetWidth, .margin, .obstaclePadding, .detourStep,
    .detourAttempts, .curveFactor, .stubLength]

/-- The name a data format uses. -/
def key : ConfigField → String
  | .crossingPasses => "crossing_passes"
  | .transposeRounds => "transpose_rounds"
  | .targetWidth => "target_width"
  | .margin => "margin"
  | .obstaclePadding => "obstacle_padding"
  | .detourStep => "detour_step"
  | .detourAttempts => "detour_attempts"
  | .curveFactor => "curve_factor"
  | .stubLength => "stub_length"

/-- The setting with a data name. -/
def ofKey? (k : String) : Option ConfigField := all.find? (·.key == k)

/-- Whether the setting is a count (the others are numbers of the drawing). -/
def isCount : ConfigField → Bool
  | .crossingPasses | .transposeRounds | .detourAttempts => true
  | _ => false

end ConfigField

/-- The largest count a setting may hold. -/
def maxIterationCap : Nat := 1000

/-- Layout settings over the drawing's number type. -/
structure LayoutConfig (α : Type) where
  crossingPasses : Nat
  transposeRounds : Nat
  targetWidth : α
  margin : α
  obstaclePadding : α
  detourStep : α
  detourAttempts : Nat
  curveFactor : α
  stubLength : α

/-- What a setting must be. -/
inductive Requirement where
  | count
  | positive
  | nonNegative
  deriving DecidableEq, Repr

/-- The wording of a requirement. -/
def Requirement.text : Requirement → String
  | .count => "between 1 and 1000"
  | .positive => "a finite number above zero"
  | .nonNegative => "a finite non-negative number"

/-- A setting's value: a count or a number. -/
inductive SettingValue (α : Type) where
  | count (n : Nat)
  | number (x : α)

/-- A setting out of range. -/
structure OutOfRange (α : Type) where
  field : ConfigField
  requirement : Requirement
  value : SettingValue α

namespace LayoutConfig

variable {α : Type} [Scalar α]

/-- The default settings: 8 passes, 10 rounds, width 640, margin 24, padding 8, detour
step 20, 24 attempts, curve factor 0.12 and stubs of 16. -/
def default : LayoutConfig α where
  crossingPasses := 8
  transposeRounds := 10
  targetWidth := 640.0
  margin := 24.0
  obstaclePadding := 8.0
  detourStep := 20.0
  detourAttempts := 24
  curveFactor := 0.12
  stubLength := 16.0

/-- A count in range. -/
def countOk (n : Nat) : Bool := n != 0 && n ≤ maxIterationCap

/-- A finite number above zero. -/
def positiveOk (x : α) : Bool := Scalar.isFinite x && decide ((0.0 : α) < x)

/-- A finite number at least zero. -/
def nonNegativeOk (x : α) : Bool := Scalar.isFinite x && decide ((0.0 : α) ≤ x)

/-- The first setting out of range, if any. -/
def check (c : LayoutConfig α) : Option (OutOfRange α) :=
  let counts : List (ConfigField × Nat) :=
    [(.crossingPasses, c.crossingPasses), (.transposeRounds, c.transposeRounds),
      (.detourAttempts, c.detourAttempts)]
  let positives : List (ConfigField × α) :=
    [(.targetWidth, c.targetWidth), (.detourStep, c.detourStep)]
  let nonNegatives : List (ConfigField × α) :=
    [(.margin, c.margin), (.obstaclePadding, c.obstaclePadding),
      (.curveFactor, c.curveFactor), (.stubLength, c.stubLength)]
  ((counts.find? (!countOk ·.2)).map fun (f, n) => ⟨f, .count, .count n⟩) <|>
  ((positives.find? (!positiveOk ·.2)).map fun (f, x) => ⟨f, .positive, .number x⟩) <|>
  ((nonNegatives.find? (!nonNegativeOk ·.2)).map fun (f, x) => ⟨f, .nonNegative, .number x⟩)

/-- A count repaired: zero becomes the default, more than the cap becomes the cap. -/
def repairCount (n fallback : Nat) : Nat := if n == 0 then fallback else min n maxIterationCap

/-- Settings with every rejected value repaired. -/
def sanitized (c : LayoutConfig α) : LayoutConfig α :=
  let d : LayoutConfig α := default
  { crossingPasses := repairCount c.crossingPasses d.crossingPasses
    transposeRounds := repairCount c.transposeRounds d.transposeRounds
    detourAttempts := repairCount c.detourAttempts d.detourAttempts
    targetWidth := if positiveOk c.targetWidth then c.targetWidth else d.targetWidth
    detourStep := if positiveOk c.detourStep then c.detourStep else d.detourStep
    margin := if nonNegativeOk c.margin then c.margin else d.margin
    obstaclePadding :=
      if nonNegativeOk c.obstaclePadding then c.obstaclePadding else d.obstaclePadding
    curveFactor := if nonNegativeOk c.curveFactor then c.curveFactor else d.curveFactor
    stubLength := if nonNegativeOk c.stubLength then c.stubLength else d.stubLength }

end LayoutConfig

end FlowLayout
