import Mathlib.Algebra.Order.Ring.Nat
import Mathlib.Tactic.Ring
import MarketGateway.Number.Binary64

/-!
# Rounding to doubles

A finite double has `Representable` units: at most 53 binary digits before the zeros at the end.
Rounding keeps to the side of every representable number on which the exact result lies
(`le_roundUnits`, `roundUnits_le`), leaves representable numbers alone
(`roundUnits_of_representable`) and gives nothing else (`representable_roundUnits`). Natural numbers
below `2 ^ 53` are doubles, and the double nearest to any natural number is a whole number again.
-/

namespace MarketGateway.Binary64

variable {num den step units value n : Nat}

/-! ## Multiples of a step -/

theorem le_roundToMultiple_floor (num den step : Nat) :
    num / (den * step) * step ≤ roundToMultiple num den step := by
  unfold roundToMultiple
  dsimp only
  split
  · exact Nat.le_refl _
  · split
    · exact Nat.mul_le_mul_right step (Nat.le_succ _)
    · exact Nat.mul_le_mul_right step (Nat.le_add_right _ _)

theorem roundToMultiple_le_ceil (num den step : Nat) :
    roundToMultiple num den step ≤ (num / (den * step) + 1) * step := by
  unfold roundToMultiple
  dsimp only
  split
  · exact Nat.mul_le_mul_right step (Nat.le_succ _)
  · split
    · exact Nat.le_refl _
    · exact Nat.mul_le_mul_right step (by omega)

theorem dvd_roundToMultiple (num den step : Nat) : step ∣ roundToMultiple num den step := by
  unfold roundToMultiple
  dsimp only
  split
  · exact Nat.dvd_mul_left _ _
  · split <;> exact Nat.dvd_mul_left _ _

/-- A multiple below the exact quotient stays below the rounded one. -/
theorem le_roundToMultiple (hDen : 0 < den) (hStep : 0 < step) (hMultiple : step ∣ value)
    (hLe : value * den ≤ num) : value ≤ roundToMultiple num den step := by
  obtain ⟨k, rfl⟩ := hMultiple
  refine Nat.le_trans ?_ (le_roundToMultiple_floor num den step)
  rw [Nat.mul_comm step k]
  refine Nat.mul_le_mul_right step ?_
  rw [Nat.le_div_iff_mul_le (Nat.mul_pos hDen hStep)]
  calc k * (den * step) = step * k * den := by ring
    _ ≤ num := hLe

/-- A multiple above the exact quotient stays above the rounded one. -/
theorem roundToMultiple_le (hDen : 0 < den) (hStep : 0 < step) (hMultiple : step ∣ value)
    (hLe : num ≤ value * den) : roundToMultiple num den step ≤ value := by
  obtain ⟨k, rfl⟩ := hMultiple
  have hBound : num ≤ den * step * k := by
    calc num ≤ step * k * den := hLe
      _ = den * step * k := by ring
  rcases Nat.eq_or_lt_of_le hBound with hExact | hBelow
  · -- Here the quotient is the multiple itself, and nothing is left to round.
    have hWhole : num / (den * step) = k := by
      rw [hExact, Nat.mul_div_cancel_left _ (Nat.mul_pos hDen hStep)]
    have hRest : num % (den * step) = 0 := by rw [hExact, Nat.mul_mod_right]
    have hPos : 2 * 0 < den * step := by simpa using Nat.mul_pos hDen hStep
    simp only [roundToMultiple, hWhole, hRest, if_pos hPos]
    exact Nat.le_of_eq (Nat.mul_comm _ _)
  · have hWhole : num / (den * step) < k := Nat.div_lt_of_lt_mul hBelow
    refine Nat.le_trans (roundToMultiple_le_ceil num den step) ?_
    rw [Nat.mul_comm step k]
    exact Nat.mul_le_mul_right step hWhole

/-! ## Representable numbers of units -/

/-- The number of units has at most 53 binary digits before the zeros at its end. -/
def Representable (units : Nat) : Prop := spacing units ∣ units

theorem spacing_eq (units : Nat) : spacing units = 2 ^ (Nat.log2 units + 1 - 53) := rfl

theorem spacing_pos (units : Nat) : 0 < spacing units := Nat.pow_pos (by decide)

theorem spacing_dvd_of_log2_le (hLog : Nat.log2 units ≤ Nat.log2 value) :
    spacing units ∣ spacing value := by
  rw [spacing_eq, spacing_eq]
  exact Nat.pow_dvd_pow 2 (by omega)

theorem spacing_dvd_pow (units : Nat) : spacing units ∣ 2 ^ Nat.log2 units := by
  rw [spacing_eq]
  exact Nat.pow_dvd_pow 2 (by omega)

theorem lt_two_pow_log2_succ (n : Nat) : n < 2 ^ (Nat.log2 n + 1) := Nat.lt_log2_self

theorem log2_mono (hLe : units ≤ value) : Nat.log2 units ≤ Nat.log2 value := by
  by_cases hZero : units = 0
  · simp [hZero]
  · have hValue : value ≠ 0 := by omega
    exact (Nat.le_log2 hValue).mpr (Nat.le_trans (Nat.log2_self_le hZero) hLe)

/-- What lies below the exact result lies below the rounded one. -/
theorem le_roundUnits (hDen : 0 < den) (hValue : Representable value) (hLe : value * den ≤ num) :
    value ≤ roundUnits num den := by
  have hQuotient : value ≤ num / den := (Nat.le_div_iff_mul_le hDen).mpr hLe
  have hLog := log2_mono hQuotient
  rcases Nat.eq_or_lt_of_le hLog with hSame | hLess
  · refine le_roundToMultiple hDen (spacing_pos _) ?_ hLe
    exact Nat.dvd_trans (spacing_dvd_of_log2_le (Nat.le_of_eq hSame.symm)) hValue
  · -- Otherwise a power of two lies between the number and the result, which cannot pass it.
    have hPositive : num / den ≠ 0 := by
      intro hZero
      simp [hZero] at hLess
    have hPower : 2 ^ Nat.log2 (num / den) ≤ roundUnits num den := by
      refine le_roundToMultiple hDen (spacing_pos _) (spacing_dvd_pow _) ?_
      rw [← Nat.le_div_iff_mul_le hDen]
      exact Nat.log2_self_le hPositive
    calc value ≤ 2 ^ (Nat.log2 value + 1) := Nat.le_of_lt (lt_two_pow_log2_succ value)
      _ ≤ 2 ^ Nat.log2 (num / den) := Nat.pow_le_pow_right (by decide) hLess
      _ ≤ roundUnits num den := hPower

/-- What lies above the exact result lies above the rounded one. -/
theorem roundUnits_le (hDen : 0 < den) (hValue : Representable value) (hLe : num ≤ value * den) :
    roundUnits num den ≤ value := by
  have hQuotient : num / den ≤ value := Nat.div_le_of_le_mul (by rwa [Nat.mul_comm])
  refine roundToMultiple_le hDen (spacing_pos _) ?_ hLe
  exact Nat.dvd_trans (spacing_dvd_of_log2_le (log2_mono hQuotient)) hValue

theorem roundUnits_of_representable (hDen : 0 < den) (hValue : Representable value) :
    roundUnits (value * den) den = value :=
  Nat.le_antisymm (roundUnits_le hDen hValue (Nat.le_refl _))
    (le_roundUnits hDen hValue (Nat.le_refl _))

theorem representable_two_pow (k : Nat) : Representable (2 ^ k) := by
  have hLog : Nat.log2 (2 ^ k) = k := Nat.log2_two_pow
  rw [Representable, spacing_eq, hLog]
  exact Nat.pow_dvd_pow 2 (by omega)

/-- Rounding gives a representable number: it may reach the next power of two, but not pass it. -/
theorem representable_roundUnits (hDen : 0 < den) : Representable (roundUnits num den) := by
  have hMultiple : spacing (num / den) ∣ roundUnits num den := dvd_roundToMultiple _ _ _
  have hNext : roundUnits num den ≤ 2 ^ (Nat.log2 (num / den) + 1) := by
    refine roundUnits_le hDen (representable_two_pow _) ?_
    exact Nat.le_of_lt ((Nat.div_lt_iff_lt_mul hDen).mp (lt_two_pow_log2_succ _))
  rcases Nat.eq_or_lt_of_le hNext with hReached | hBelow
  · rw [hReached]
    exact representable_two_pow _
  · refine Nat.dvd_trans (spacing_dvd_of_log2_le ?_) hMultiple
    by_cases hZero : roundUnits num den = 0
    · simp [hZero]
    · exact Nat.lt_succ_iff.mp ((Nat.log2_lt hZero).mpr hBelow)

/-! ## Natural numbers -/

/-- The number of binary digits of the units in one behind the first. -/
def unitDigits : Nat := 1074

theorem one_eq : one = 2 ^ unitDigits := by decide +kernel

theorem one_units_pos : 0 < one := one_eq ▸ Nat.two_pow_pos unitDigits

theorem log2_mul_one (hPos : n ≠ 0) : Nat.log2 (n * one) = Nat.log2 n + unitDigits := by
  rw [Nat.log2_eq_iff (Nat.mul_ne_zero hPos one_units_pos.ne'), one_eq]
  constructor
  · rw [Nat.pow_add]
    exact Nat.mul_le_mul_right _ (Nat.log2_self_le hPos)
  · calc n * 2 ^ unitDigits < 2 ^ (Nat.log2 n + 1) * 2 ^ unitDigits :=
          Nat.mul_lt_mul_of_pos_right (lt_two_pow_log2_succ n) (Nat.two_pow_pos _)
      _ = 2 ^ (Nat.log2 n + unitDigits + 1) := by rw [← Nat.pow_add, Nat.add_right_comm]

/-- Whole numbers of at most 53 binary digits are doubles. -/
theorem representable_mul_one (hSmall : n < 2 ^ 53) : Representable (n * one) := by
  by_cases hZero : n = 0
  · simp [hZero, Representable]
  · have hLog : Nat.log2 n < 53 := (Nat.log2_lt hZero).mpr hSmall
    rw [Representable, spacing_eq, log2_mul_one hZero, one_eq]
    exact Nat.dvd_trans (Nat.pow_dvd_pow 2 (by omega)) (Nat.dvd_mul_left _ n)

/-- The double nearest to a natural number is a whole number. -/
theorem one_dvd_roundUnits (n : Nat) : one ∣ roundUnits (n * one) 1 := by
  by_cases hSmall : n < 2 ^ 53
  · have hExact := roundUnits_of_representable Nat.one_pos (representable_mul_one hSmall)
    rw [Nat.mul_one] at hExact
    rw [hExact]
    exact Nat.dvd_mul_left one n
  · have hPos : n ≠ 0 := by
      rintro rfl
      exact hSmall (by decide)
    have hLog : 53 ≤ Nat.log2 n := (Nat.le_log2 hPos).mpr (Nat.le_of_not_lt hSmall)
    refine Nat.dvd_trans ?_ (dvd_roundToMultiple _ _ _)
    rw [Nat.div_one, spacing_eq, log2_mul_one hPos, one_eq]
    exact Nat.pow_dvd_pow 2 (by omega)

end MarketGateway.Binary64
