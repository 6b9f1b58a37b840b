import Mathlib.Data.Nat.Digits.Defs
import MarketGateway.Proofs.Decimal.Numeral

/-!
# Decimals read back from their text

A decimal that fits its mantissa and its scale (`Decimal.Fits`) is read back from its text digit by
digit, zeros at the end of the fraction included: `ofText?_toText`. Only the sign of a zero is lost
(`Decimal.reread`), which does not change the value (`sameValue_reread`).
-/

namespace MarketGateway

/-- A mantissa of at most 96 bits and at most 28 fractional digits. -/
structure Decimal.Fits (d : Decimal) : Prop where
  mantissa : d.mantissa < mantissaLimit
  scale : d.scale ≤ maxScale

instance (d : Decimal) : Decidable d.Fits :=
  decidable_of_iff (d.mantissa < Decimal.mantissaLimit ∧ d.scale ≤ Decimal.maxScale)
    ⟨fun h => ⟨h.1, h.2⟩, fun h => ⟨h.mantissa, h.scale⟩⟩

namespace Decimal

open Text

/-- What the text of a decimal is read as: a zero has no sign. -/
def reread (d : Decimal) : Decimal := ofParts d.negative d.mantissa d.scale

theorem signed_reread (d : Decimal) : d.reread.signed = d.signed := by
  cases hNegative : d.negative with
  | false => simp [reread, ofParts, signed, hNegative]
  | true =>
    by_cases hZero : d.mantissa = 0 <;> simp [reread, ofParts, signed, hNegative, hZero]

/-- **A decimal keeps its value when it is read back.** -/
theorem sameValue_reread (d : Decimal) : d.reread.sameValue d = true := by
  simp only [sameValue, signed_reread, beq_iff_eq]
  rfl

/-- Optional decimals that are both missing or have the same value. -/
def SameOptional : Option Decimal → Option Decimal → Prop :=
  Option.Rel fun a b => a.sameValue b = true

theorem sameOptional_reread (o : Option Decimal) : SameOptional (o.map reread) o := by
  cases o with
  | none => exact .none
  | some d => exact .some d.sameValue_reread

/-- Only a zero with a sign is read back as something else. -/
theorem reread_eq {d : Decimal} (h : d.negative = true → d.mantissa ≠ 0) : d.reread = d := by
  obtain ⟨negative, mantissa, scale⟩ := d
  cases negative with
  | false => rfl
  | true => simpa [reread, ofParts] using h

/-! ## Digits -/

/-- The digits of the mantissa, zeros in front included, are those of its value. -/
theorem digitsValue?_paddedDigits (d : Decimal) :
    digitsValue? 0 d.paddedDigits = some d.mantissa := by
  have hDigit : ∀ c ∈ d.paddedDigits, c.isDigit = true := by
    intro c hc
    rcases List.mem_append.mp hc with hc | hc
    · rw [(List.mem_replicate.mp hc).2]
      rfl
    · exact Nat.isDigit_of_mem_toDigits (by decide) (by decide) hc
  refine digitsValue?_eq_some_iff.mpr ⟨hDigit, ?_⟩
  rw [paddedDigits, Nat.ofDigitChars_append, Nat.ofDigitChars_replicate_zero, Nat.mul_zero,
    Nat.ofDigitChars_toDigits (by decide) (by decide)]

theorem scale_lt_length_paddedDigits (d : Decimal) : d.scale < d.paddedDigits.length := by
  simp only [paddedDigits, List.length_append, List.length_replicate]
  omega

/-! ## Texts -/

/-- A text is a sign, at least one digit and what follows, and behind the sign it is read as the
parts of the decimal. -/
theorem toChars_eq {d : Decimal} (hFits : d.Fits) :
    ∃ whole rest, d.toChars = (if d.negative then ['-'] else []) ++ (whole ++ rest) ∧
      whole ≠ [] ∧ (∀ c ∈ whole, '0' ≤ c ∧ c ≤ '9') ∧
      ∀ negative, scan negative {} (whole ++ rest) =
        some (ofParts negative d.mantissa d.scale) := by
  have hValue := digitsValue?_paddedDigits d
  have hLength := scale_lt_length_paddedDigits d
  unfold toChars
  generalize d.paddedDigits = digits at hValue hLength
  have hDigit := digit_of_digitsValue? hValue
  have hSome : digits.take (digits.length - d.scale) ≠ [] := by
    rw [List.ne_nil_iff_length_pos, List.length_take]
    omega
  refine ⟨digits.take (digits.length - d.scale),
    if d.scale = 0 then [] else '.' :: digits.drop (digits.length - d.scale), ?_, hSome,
    fun c hc => hDigit c (List.mem_of_mem_take hc), fun negative => ?_⟩
  · by_cases hScale : d.scale = 0 <;> simp [hScale]
  · split
    · next hScale =>
      rw [hScale, Nat.sub_zero, List.take_length, List.append_nil]
      exact scan_whole negative (List.ne_nil_of_length_pos (by omega)) hValue hFits.mantissa
    · have hFraction : (digits.drop (digits.length - d.scale)).length = d.scale := by
        rw [List.length_drop]
        omega
      rw [scan_fraction negative hSome (by rwa [List.take_append_drop]) hFits.mantissa
        (by rw [hFraction]; exact hFits.scale), hFraction]

/-- **A decimal is read back from its text**, but for the sign of a zero. -/
theorem ofText?_toText {d : Decimal} (hFits : d.Fits) : ofText? d.toText = some d.reread := by
  obtain ⟨whole, rest, hText, hSome, hDigit, hScan⟩ := toChars_eq hFits
  have hPlain : plainChars? d.toChars = some d.reread := by
    rw [hText, reread]
    cases d.negative with
    | false => exact (plainChars?_of_digits rest hSome hDigit).trans (hScan false)
    | true => exact hScan true
  simp [ofText?, plain?, toText, hPlain]

example : ofText? (toText ⟨true, 0, 2⟩) = some ⟨false, 0, 2⟩ := by decide

end Decimal

end MarketGateway
