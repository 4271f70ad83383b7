import FlowLayout.Layout.Config
import FlowLayout.Proofs.Exact
/-!
# The range check and the repair of settings agree

`LayoutConfig.check` reports the first setting out of range; `LayoutConfig.sanitized` repairs
every setting out of range. Read setting by setting (`LayoutConfig.value`), both hold each
setting to one requirement (`ConfigField.requirement`):

* the check passes exactly when every setting meets its requirement (`check_eq_none_iff`);
* the repair keeps a setting that meets its requirement, caps a count above the cap and puts
  the default in place of anything else (`sanitized_value`).

So repaired settings pass the check, repairing twice is repairing once, and settings pass the
check exactly when the repair leaves them as they are, whether "as they are" means the same
values or values that compare equal (`sanitized_agrees_with_check`).

Nothing here asks which values the number type has: NaN, the infinities, the two zeros and the
subnormals of binary32 are values like the others. What the argument uses of the numbers is
stated once, in `RangeLaws`: the default numbers meet their requirements, and comparisons
behave as binary32 comparisons do on the values that pass.
-/

namespace FlowLayout

variable {α : Type} [Scalar α]

namespace LayoutConfig

/-- The value of one setting. -/
def value (c : LayoutConfig α) : ConfigField → SettingValue α
  | .crossingPasses => .count c.crossingPasses
  | .transposeRounds => .count c.transposeRounds
  | .targetWidth => .number c.targetWidth
  | .margin => .number c.margin
  | .obstaclePadding => .number c.obstaclePadding
  | .detourStep => .number c.detourStep
  | .detourAttempts => .count c.detourAttempts
  | .curveFactor => .number c.curveFactor
  | .stubLength => .number c.stubLength

omit [Scalar α] in
/-- Settings are determined by their values. -/
theorem ext_value {c d : LayoutConfig α} (h : ∀ f, c.value f = d.value f) : c = d := by
  have h₁ := h .crossingPasses
  have h₂ := h .transposeRounds
  have h₃ := h .targetWidth
  have h₄ := h .margin
  have h₅ := h .obstaclePadding
  have h₆ := h .detourStep
  have h₇ := h .detourAttempts
  have h₈ := h .curveFactor
  have h₉ := h .stubLength
  cases c
  cases d
  simp_all [value]

end LayoutConfig

/-- The requirement the check holds a setting to. -/
def ConfigField.requirement : ConfigField → Requirement
  | .crossingPasses | .transposeRounds | .detourAttempts => .count
  | .targetWidth | .detourStep => .positive
  | .margin | .obstaclePadding | .curveFactor | .stubLength => .nonNegative

/-- Whether a value meets a requirement. -/
def Requirement.accepts : Requirement → SettingValue α → Bool
  | .count, .count n => LayoutConfig.countOk n
  | .positive, .number x => LayoutConfig.positiveOk x
  | .nonNegative, .number x => LayoutConfig.nonNegativeOk x
  | _, _ => false

/-- Whether a value is a count above the cap. -/
def SettingValue.aboveCap : SettingValue α → Bool
  | .count n => decide (maxIterationCap < n)
  | .number _ => false

/-- Equal values as comparisons see them: equal counts, or numbers each at most the other. So
NaN equals nothing, not even itself, and the two zeros are equal. -/
def SettingValue.same : SettingValue α → SettingValue α → Bool
  | .count m, .count n => m == n
  | .number x, .number y => Scalar.same x y
  | _, _ => false

/-- Settings equal as the program compares them: setting by setting, as values compare. -/
def LayoutConfig.same (c d : LayoutConfig α) : Bool :=
  ConfigField.all.all fun f => (c.value f).same (d.value f)

/-- What the range checks rely on of the number type, all of it true of binary32 and of the
real numbers: the default numbers meet their requirements, a finite number is at most itself,
a number at least a positive (a non-negative) one is positive (non-negative), and a number that
compares equal to a finite one is finite. -/
structure RangeLaws (α : Type) [Scalar α] : Prop where
  defaults_accepted : ∀ f : ConfigField, f.isCount = false →
    f.requirement.accepts ((LayoutConfig.default : LayoutConfig α).value f) = true
  le_refl_of_finite : ∀ x : α, Scalar.isFinite x = true → x ≤ x
  lt_of_lt_of_le : ∀ x y z : α, x < y → y ≤ z → x < z
  le_trans : ∀ x y z : α, x ≤ y → y ≤ z → x ≤ z
  finite_of_same : ∀ x y : α, Scalar.same x y = true → Scalar.isFinite x = true →
    Scalar.isFinite y = true

namespace LayoutConfig

/-! ### The check -/

/-- The check passes exactly when every setting meets its requirement. -/
theorem check_eq_none_iff (c : LayoutConfig α) :
    c.check = none ↔ ∀ f : ConfigField, f.requirement.accepts (c.value f) = true := by
  simp only [check, Option.orElse_eq_none, Option.map_eq_none_iff, List.find?_eq_none,
    List.mem_cons, List.not_mem_nil, or_false, forall_eq_or_imp, forall_eq, Bool.not_eq_true',
    Bool.not_eq_false]
  constructor
  · rintro ⟨⟨h₁, h₂, h₃⟩, ⟨h₄, h₅⟩, h₆, h₇, h₈, h₉⟩ f
    cases f <;> assumption
  · intro h
    exact ⟨⟨h .crossingPasses, h .transposeRounds, h .detourAttempts⟩,
      ⟨h .targetWidth, h .detourStep⟩, h .margin, h .obstaclePadding, h .curveFactor,
      h .stubLength⟩

/-! ### The repair -/

/-- A count repaired: kept when in range, capped when above the cap, the fallback when zero. -/
theorem repairCount_eq (n fallback : Nat) :
    repairCount n fallback =
      if countOk n then n else if maxIterationCap < n then maxIterationCap else fallback := by
  unfold repairCount countOk maxIterationCap
  by_cases h0 : n = 0
  · simp [h0]
  · by_cases hcap : n ≤ 1000
    · simp [h0, hcap]
    · have hlt : 1000 < n := Nat.lt_of_not_le hcap
      simp [h0, hcap, hlt, Nat.min_eq_right hlt.le]

/-- The repair, setting by setting: a value that meets its requirement stays, a count above the
cap becomes the cap, and any other value becomes the default. -/
theorem sanitized_value (c : LayoutConfig α) (f : ConfigField) :
    c.sanitized.value f =
      if f.requirement.accepts (c.value f) then c.value f
      else if (c.value f).aboveCap then .count maxIterationCap
      else (default : LayoutConfig α).value f := by
  -- a count is repaired by `repairCount`, a number by its test
  cases f <;>
    simp only [sanitized, value, ConfigField.requirement, Requirement.accepts,
      SettingValue.aboveCap, repairCount_eq, decide_eq_true_eq, Bool.false_eq_true,
      if_false] <;>
    split_ifs <;> rfl

variable (h : RangeLaws α)
include h

/-- The default settings meet their requirements. -/
theorem accepts_default (f : ConfigField) :
    f.requirement.accepts ((default : LayoutConfig α).value f) = true := by
  cases hf : f.isCount
  · exact h.defaults_accepted f hf
  · -- the default counts are 8, 10 and 24
    cases f <;> simp_all [ConfigField.isCount, ConfigField.requirement, Requirement.accepts,
      value, default, countOk, maxIterationCap]

/-- A repaired setting meets its requirement. -/
theorem accepts_sanitized (c : LayoutConfig α) (f : ConfigField) :
    f.requirement.accepts (c.sanitized.value f) = true := by
  rw [sanitized_value]
  split_ifs with hacc hcap
  · exact hacc
  · -- only a count can be above the cap, and the cap is a count in range
    cases f <;> simp_all [value, ConfigField.requirement, Requirement.accepts,
      SettingValue.aboveCap, countOk, maxIterationCap]
  · exact accepts_default h f

/-- The repair keeps a setting exactly when it meets its requirement: what it puts in place of
a value out of range is in range, so differs from it. -/
theorem sanitized_value_eq_iff (c : LayoutConfig α) (f : ConfigField) :
    c.sanitized.value f = c.value f ↔ f.requirement.accepts (c.value f) = true := by
  constructor
  · intro heq
    rw [← heq]
    exact accepts_sanitized h c f
  · intro hacc
    rw [sanitized_value, if_pos hacc]

/-- A value in range compares equal to itself. -/
theorem same_self_of_accepts {r : Requirement} {v : SettingValue α} (hv : r.accepts v = true) :
    v.same v = true := by
  cases r <;> cases v <;>
    simp_all [Requirement.accepts, SettingValue.same, Scalar.same, positiveOk, nonNegativeOk,
      h.le_refl_of_finite]

/-- A value comparing equal to a value in range is in range. -/
theorem accepts_of_same {r : Requirement} {v w : SettingValue α} (hv : r.accepts v = true)
    (hvw : v.same w = true) : r.accepts w = true := by
  cases v with
  | count m =>
    cases w with
    | count n =>
      obtain rfl : m = n := beq_iff_eq.1 hvw
      exact hv
    | number y => simp [SettingValue.same] at hvw
  | number x =>
    cases w with
    | count n => simp [SettingValue.same] at hvw
    | number y =>
      have hsame : Scalar.same x y = true := hvw
      have hxy : x ≤ y := by
        simp only [Scalar.same, Bool.and_eq_true, decide_eq_true_eq] at hsame
        exact hsame.1
      -- finiteness passes along equal comparisons, the sign along `x ≤ y`
      cases r with
      | count => simp [Requirement.accepts] at hv
      | positive =>
        simp only [Requirement.accepts, positiveOk, Bool.and_eq_true, decide_eq_true_eq] at hv ⊢
        exact ⟨h.finite_of_same x y hsame hv.1, h.lt_of_lt_of_le _ _ _ hv.2 hxy⟩
      | nonNegative =>
        simp only [Requirement.accepts, nonNegativeOk, Bool.and_eq_true, decide_eq_true_eq] at hv ⊢
        exact ⟨h.finite_of_same x y hsame hv.1, h.le_trans _ _ _ hv.2 hxy⟩

/-- The repair leaves a value comparing equal to it exactly when the value is in range. -/
theorem same_sanitized_iff (c : LayoutConfig α) (f : ConfigField) :
    (c.sanitized.value f).same (c.value f) = true ↔
      f.requirement.accepts (c.value f) = true := by
  constructor
  · exact accepts_of_same h (accepts_sanitized h c f)
  · intro hacc
    rw [(sanitized_value_eq_iff h c f).2 hacc]
    exact same_self_of_accepts h hacc

end LayoutConfig

theorem ConfigField.mem_all (f : ConfigField) : f ∈ ConfigField.all := by
  cases f <;> simp [all]

theorem LayoutConfig.same_iff (c d : LayoutConfig α) :
    c.same d = true ↔ ∀ f : ConfigField, (c.value f).same (d.value f) = true := by
  simp only [LayoutConfig.same, List.all_eq_true]
  exact ⟨fun hall f => hall f (ConfigField.mem_all f), fun hall f _ => hall f⟩

namespace LayoutConfig

/-- What the repair does to settings `c`, as the check sees it. -/
structure RepairAgrees (c : LayoutConfig α) : Prop where
  /-- repaired settings pass the check -/
  sanitized_passes : c.sanitized.check = none
  /-- repairing twice is repairing once -/
  idempotent : c.sanitized.sanitized = c.sanitized
  /-- the settings pass the check exactly when the repair leaves them comparing equal -/
  passes_iff_same : c.check = none ↔ c.sanitized.same c = true
  /-- and exactly when the repair leaves them as they are -/
  passes_iff_fixed : c.check = none ↔ c.sanitized = c
  /-- setting by setting, the repair keeps exactly the values the check accepts -/
  keeps_iff : ∀ f : ConfigField,
    c.sanitized.value f = c.value f ↔ f.requirement.accepts (c.value f) = true
  /-- and puts the cap in place of a count above it, the default in place of any other value
  out of range -/
  replaces : ∀ f : ConfigField, f.requirement.accepts (c.value f) = false →
    c.sanitized.value f =
      if (c.value f).aboveCap then .count maxIterationCap else (default : LayoutConfig α).value f

/-- For every number type with the laws binary32 has, and every settings value, with any
counts and any numbers (NaN, infinities and signed zeros of binary32 included): the repaired
settings pass the check, the repair is idempotent, and the check passes exactly when the repair
changes nothing, because the check and the repair accept the same values setting by setting. -/
theorem sanitized_agrees_with_check (h : RangeLaws α) (c : LayoutConfig α) : c.RepairAgrees where
  sanitized_passes := (check_eq_none_iff _).2 (accepts_sanitized h c)
  idempotent := ext_value fun f => (sanitized_value_eq_iff h _ f).2 (accepts_sanitized h c f)
  passes_iff_same := by
    rw [check_eq_none_iff, same_iff]
    exact forall_congr' fun f => (same_sanitized_iff h c f).symm
  passes_iff_fixed := by
    rw [check_eq_none_iff]
    constructor
    · intro hacc
      exact ext_value fun f => (sanitized_value_eq_iff h c f).2 (hacc f)
    · intro hfixed f
      exact (sanitized_value_eq_iff h c f).1 (by rw [hfixed])
  keeps_iff := sanitized_value_eq_iff h c
  replaces f hrej := by
    rw [sanitized_value, hrej]
    rfl

end LayoutConfig

/-- The real numbers have the laws the range checks rely on. -/
theorem RangeLaws.real : RangeLaws ℝ where
  defaults_accepted f hf := by
    cases f <;> simp_all [ConfigField.isCount, ConfigField.requirement, Requirement.accepts,
      LayoutConfig.value, LayoutConfig.default, LayoutConfig.positiveOk,
      LayoutConfig.nonNegativeOk] <;> norm_num
  le_refl_of_finite x _ := le_refl x
  lt_of_lt_of_le _ _ _ hxy hyz := hxy.trans_le hyz
  le_trans _ _ _ hxy hyz := hxy.trans hyz
  finite_of_same _ _ _ _ := rfl

/-- Settings with a zero count, a count far above the cap and a negative width. -/
noncomputable def unrulySettings : LayoutConfig ℝ :=
  { LayoutConfig.default with crossingPasses := 0, detourAttempts := 5000, targetWidth := -1 }

theorem unrulySettings_repair_agrees : RangeLaws ℝ ∧ unrulySettings.RepairAgrees :=
  ⟨RangeLaws.real, LayoutConfig.sanitized_agrees_with_check RangeLaws.real unrulySettings⟩

end FlowLayout
