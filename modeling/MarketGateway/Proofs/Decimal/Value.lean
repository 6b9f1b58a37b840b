import Mathlib.Algebra.Order.Field.Rat
import Mathlib.Tactic.Linarith
import Mathlib.Tactic.Positivity
import MarketGateway.Number.Decimal.Literal

/-!
# Values of decimals

`Decimal.value` is the rational number that a decimal stands for. The order, the equality and the
tests of a decimal are those of its value:

* `compare_eq_lt_iff`, `compare_eq_eq_iff`, `compare_eq_gt_iff`, `sameValue_iff`;
* `isPositive_iff`, `isZero_iff`, `value_neg_of_negative`.
-/

namespace MarketGateway.Decimal

/-- The number that a decimal stands for. -/
def value (d : Decimal) : ℚ := (d.signed : ℚ) / (Nat.pow 10 d.scale : ℕ)

theorem scale_pos (d : Decimal) : (0 : ℚ) < (Nat.pow 10 d.scale : ℕ) := by
  have h : 0 < Nat.pow 10 d.scale := Nat.pow_pos (by decide)
  exact_mod_cast h

/-- Comparing values is comparing the cross products of mantissas and scales. -/
theorem value_lt_value_iff {a b : Decimal} :
    a.value < b.value ↔
      a.signed * (Nat.pow 10 b.scale : ℕ) < b.signed * (Nat.pow 10 a.scale : ℕ) := by
  unfold value
  rw [div_lt_div_iff₀ a.scale_pos b.scale_pos]
  exact_mod_cast Iff.rfl

theorem value_eq_value_iff {a b : Decimal} :
    a.value = b.value ↔
      a.signed * (Nat.pow 10 b.scale : ℕ) = b.signed * (Nat.pow 10 a.scale : ℕ) := by
  unfold value
  rw [div_eq_div_iff a.scale_pos.ne' b.scale_pos.ne']
  exact_mod_cast Iff.rfl

theorem value_ofParts (n k : Nat) :
    (ofParts false n k).value = (n : ℚ) / (Nat.pow 10 k : ℕ) := by
  simp [value, signed, ofParts]

/-! ## Order -/

theorem compare_eq_lt_iff {a b : Decimal} : a.compare b = .lt ↔ a.value < b.value := by
  rw [value_lt_value_iff]
  exact compare_lt_iff_lt

theorem compare_eq_eq_iff {a b : Decimal} : a.compare b = .eq ↔ a.value = b.value := by
  rw [value_eq_value_iff]
  exact compare_eq_iff_eq

theorem compare_eq_gt_iff {a b : Decimal} : a.compare b = .gt ↔ b.value < a.value := by
  rw [value_lt_value_iff]
  exact compare_gt_iff_gt

theorem sameValue_iff {a b : Decimal} : a.sameValue b = true ↔ a.value = b.value := by
  rw [value_eq_value_iff]
  exact beq_iff_eq

/-! ## Sign -/

theorem value_of_nonneg {d : Decimal} (h : d.negative = false) :
    d.value = (d.mantissa : ℚ) / (Nat.pow 10 d.scale : ℕ) := by
  simp [value, signed, h]

theorem value_of_negative {d : Decimal} (h : d.negative = true) :
    d.value = -((d.mantissa : ℚ) / (Nat.pow 10 d.scale : ℕ)) := by
  simp [value, signed, h, neg_div]

theorem isZero_iff {d : Decimal} : d.isZero = true ↔ d.value = 0 := by
  cases h : d.negative with
  | false => simp [isZero, value_of_nonneg h]
  | true => simp [isZero, value_of_negative h]

theorem value_neg_of_negative {d : Decimal} (hSign : d.negative = true) (hZero : d.value ≠ 0) :
    d.value < 0 := by
  rw [value_of_negative hSign] at hZero ⊢
  have : (0 : ℚ) ≤ (d.mantissa : ℚ) / (Nat.pow 10 d.scale : ℕ) := by
    have := d.scale_pos
    positivity
  exact lt_of_le_of_ne (by linarith) hZero

theorem isPositive_iff {d : Decimal} : d.isPositive = true ↔ 0 < d.value := by
  have hZero := isZero_iff (d := d)
  have hScale := d.scale_pos
  cases h : d.negative with
  | false =>
    rw [value_of_nonneg h]
    simp only [isPositive, h, Bool.not_false, Bool.true_and, bne_iff_ne]
    constructor
    · intro hMantissa
      have : (0 : ℚ) < d.mantissa := by exact_mod_cast Nat.pos_of_ne_zero hMantissa
      positivity
    · intro hValue hMantissa
      simp [hMantissa] at hValue
  | true =>
    simp only [isPositive, h, Bool.not_true, Bool.false_and, Bool.false_eq_true, false_iff, not_lt]
    by_cases hValue : d.value = 0
    · exact hValue.le
    · exact (value_neg_of_negative h hValue).le

end MarketGateway.Decimal
