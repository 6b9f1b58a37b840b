import Mathlib.Data.List.TakeWhile
import Mathlib.Tactic.Ring
import MarketGateway.Proofs.Decimal.Text

/-!
# One text for one value

`Decimal.normalize` keeps the value and leaves a decimal in normal form (`IsNormal`). A value has one
normal form (`IsNormal.eq_of_value`) and a text belongs to one decimal (`toText_injective`), so
decimals are written alike in normal form exactly if they have the same value:
`toText_normalize_eq_iff`.
-/

namespace MarketGateway.Decimal

/-! ## Normal forms -/

/-- The fraction does not end in a zero, and zero has no sign. -/
structure IsNormal (d : Decimal) : Prop where
  fraction : d.scale = 0 ∨ d.mantissa % 10 ≠ 0
  sign : d.mantissa = 0 → d.negative = false

/-- Zeros are dropped until none ends the fraction, and the quotient stays. -/
theorem dropZeros_spec (mantissa scale : Nat) :
    (dropZeros mantissa scale).1 * Nat.pow 10 scale =
      mantissa * Nat.pow 10 (dropZeros mantissa scale).2 ∧
    ((dropZeros mantissa scale).2 = 0 ∨ (dropZeros mantissa scale).1 % 10 ≠ 0) := by
  induction scale generalizing mantissa with
  | zero => exact ⟨rfl, .inl rfl⟩
  | succ scale ih =>
    rw [dropZeros]
    split
    · next hZero =>
      obtain ⟨hQuotient, hLast⟩ := ih (mantissa / 10)
      refine ⟨?_, hLast⟩
      have hTens : mantissa = mantissa / 10 * 10 := by omega
      calc (dropZeros (mantissa / 10) scale).1 * (Nat.pow 10 scale * 10)
          = (dropZeros (mantissa / 10) scale).1 * Nat.pow 10 scale * 10 := by ring
        _ = mantissa / 10 * 10 * Nat.pow 10 (dropZeros (mantissa / 10) scale).2 := by
            rw [hQuotient]
            ring
        _ = mantissa * Nat.pow 10 (dropZeros (mantissa / 10) scale).2 := by rw [← hTens]
    · next hLast => exact ⟨rfl, .inr hLast⟩

theorem normalize_of_ne_zero {d : Decimal} (hZero : d.mantissa ≠ 0) :
    d.normalize =
      ⟨d.negative, (dropZeros d.mantissa d.scale).1, (dropZeros d.mantissa d.scale).2⟩ :=
  if_neg hZero

theorem dropZeros_ne_zero {mantissa : Nat} (hZero : mantissa ≠ 0) (scale : Nat) :
    (dropZeros mantissa scale).1 ≠ 0 := by
  intro hDropped
  have hQuotient := (dropZeros_spec mantissa scale).1
  have hPower : Nat.pow 10 (dropZeros mantissa scale).2 ≠ 0 := (Nat.pow_pos (by decide)).ne'
  rw [hDropped, Nat.zero_mul] at hQuotient
  exact mul_ne_zero hZero hPower hQuotient.symm

theorem isNormal_normalize (d : Decimal) : d.normalize.IsNormal := by
  by_cases hZero : d.mantissa = 0
  · rw [normalize, if_pos hZero]
    exact ⟨.inl rfl, fun _ => rfl⟩
  · rw [normalize_of_ne_zero hZero]
    exact ⟨(dropZeros_spec _ _).2, fun hDropped => absurd hDropped (dropZeros_ne_zero hZero _)⟩

@[simp]
theorem value_normalize (d : Decimal) : d.normalize.value = d.value := by
  by_cases hZero : d.mantissa = 0
  · have hValue : d.value = 0 := isZero_iff.mp (beq_iff_eq.mpr hZero)
    rw [normalize, if_pos hZero, hValue]
    exact isZero_iff.mp rfl
  · have hQuotient := (dropZeros_spec d.mantissa d.scale).1
    have hQuotient : ((dropZeros d.mantissa d.scale).1 : ℤ) * (Nat.pow 10 d.scale : ℕ) =
        d.mantissa * (Nat.pow 10 (dropZeros d.mantissa d.scale).2 : ℕ) := by exact_mod_cast hQuotient
    rw [normalize_of_ne_zero hZero, value_eq_value_iff]
    cases hSign : d.negative with
    | false => simpa [signed, hSign] using hQuotient
    | true => simpa [signed, hSign] using hQuotient

/-- A fraction that does not end in a zero is as short as any with the same quotient. -/
theorem IsNormal.scale_le {a b : Decimal} (hNormal : a.IsNormal)
    (hQuotient : a.mantissa * Nat.pow 10 b.scale = b.mantissa * Nat.pow 10 a.scale) :
    a.scale ≤ b.scale := by
  by_contra hLonger
  obtain ⟨k, hScale⟩ := Nat.exists_eq_add_of_lt (Nat.lt_of_not_le hLonger)
  have hPower : 0 < Nat.pow 10 b.scale := Nat.pow_pos (by decide)
  have hTens : a.mantissa = b.mantissa * Nat.pow 10 k * 10 := by
    apply Nat.eq_of_mul_eq_mul_right hPower
    calc a.mantissa * Nat.pow 10 b.scale = b.mantissa * Nat.pow 10 (b.scale + k + 1) := by
          rw [hQuotient, hScale]
      _ = b.mantissa * Nat.pow 10 k * 10 * Nat.pow 10 b.scale := by
          simp only [Nat.pow_eq, pow_add, pow_one]
          ring
  rcases hNormal.fraction with hNone | hLast
  · omega
  · exact hLast (by rw [hTens]; exact Nat.mul_mod_left _ _)

/-- **A value has one normal form.** -/
theorem IsNormal.eq_of_value {a b : Decimal} (ha : a.IsNormal) (hb : b.IsNormal)
    (hValue : a.value = b.value) : a = b := by
  have hCross := value_eq_value_iff.mp hValue
  have hQuotient : a.mantissa * Nat.pow 10 b.scale = b.mantissa * Nat.pow 10 a.scale := by
    have hAbs := congrArg Int.natAbs hCross
    rw [Int.natAbs_mul, Int.natAbs_mul, Int.natAbs_natCast, Int.natAbs_natCast] at hAbs
    have hSigned (d : Decimal) : d.signed.natAbs = d.mantissa := by
      cases hSign : d.negative <;> simp [signed, hSign]
    rwa [hSigned, hSigned] at hAbs
  have hScale : a.scale = b.scale :=
    Nat.le_antisymm (ha.scale_le hQuotient) (hb.scale_le hQuotient.symm)
  have hPower : 0 < Nat.pow 10 b.scale := Nat.pow_pos (by decide)
  have hMantissa : a.mantissa = b.mantissa := by
    rw [hScale] at hQuotient
    exact Nat.eq_of_mul_eq_mul_right hPower hQuotient
  have hSign : a.negative = b.negative := by
    by_cases hZero : b.mantissa = 0
    · rw [ha.sign (hMantissa.trans hZero), hb.sign hZero]
    · rw [hScale] at hCross
      have hSigned : a.signed = b.signed := by
        refine Int.eq_of_mul_eq_mul_right ?_ hCross
        exact_mod_cast hPower.ne'
      cases hA : a.negative <;> cases hB : b.negative <;>
        simp only [signed, hA, hB, hMantissa, if_true, if_false, Bool.false_eq_true] at hSigned ⊢ <;>
        omega
  obtain ⟨negative, mantissa, scale⟩ := a
  subst hSign hMantissa hScale
  rfl

/-! ## Texts -/

theorem isDigit_of_mem_paddedDigits {d : Decimal} {c : Char} (hc : c ∈ d.paddedDigits) :
    '0' ≤ c ∧ c ≤ '9' :=
  digit_of_digitsValue? d.digitsValue?_paddedDigits c hc

/-- The text behind the sign: digits, and behind a point those of the fraction. -/
def body (d : Decimal) : List Char :=
  let whole := d.paddedDigits.take (d.paddedDigits.length - d.scale)
  if d.scale = 0 then whole else whole ++ '.' :: d.paddedDigits.drop (d.paddedDigits.length - d.scale)

theorem toChars_eq_body (d : Decimal) : d.toChars = (if d.negative then ['-'] else []) ++ d.body :=
  rfl

/-- The text behind the sign begins with a digit. -/
theorem body_eq_cons (d : Decimal) : ∃ c rest, d.body = c :: rest ∧ '0' ≤ c := by
  have hLength := d.scale_lt_length_paddedDigits
  obtain ⟨c, rest, hWhole⟩ : ∃ c rest,
      d.paddedDigits.take (d.paddedDigits.length - d.scale) = c :: rest := by
    apply List.exists_cons_of_ne_nil
    rw [List.ne_nil_iff_length_pos, List.length_take]
    omega
  have hDigit : '0' ≤ c :=
    (isDigit_of_mem_paddedDigits (List.mem_of_mem_take (hWhole ▸ List.mem_cons_self))).1
  unfold body
  split
  · exact ⟨c, rest, hWhole, hDigit⟩
  · exact ⟨c, rest ++ _, by rw [hWhole, List.cons_append], hDigit⟩

/-- The digits and the length of the fraction, as the text behind the sign has them. -/
theorem body_spec (d : Decimal) :
    d.body.filter (· != '.') = d.paddedDigits ∧
      ((d.body.dropWhile (· != '.')).drop 1).length = d.scale := by
  have hLength := d.scale_lt_length_paddedDigits
  have hDigit (c : Char) (hc : c ∈ d.paddedDigits) : (c != '.') = true := by
    have hLow := (isDigit_of_mem_paddedDigits hc).1
    rw [bne_iff_ne]
    rintro rfl
    exact absurd hLow (by decide)
  have hWhole : ∀ c ∈ d.paddedDigits.take (d.paddedDigits.length - d.scale), (c != '.') = true :=
    fun c hc => hDigit c (List.mem_of_mem_take hc)
  have hFraction : ∀ c ∈ d.paddedDigits.drop (d.paddedDigits.length - d.scale), (c != '.') = true :=
    fun c hc => hDigit c (List.mem_of_mem_drop hc)
  unfold body
  split
  · next hScale =>
    rw [hScale, Nat.sub_zero, List.take_length]
    have hAll := List.dropWhile_eq_nil_iff.mpr hDigit
    exact ⟨List.filter_eq_self.mpr hDigit, by rw [hAll]; rfl⟩
  · constructor
    · rw [List.filter_append, List.filter_cons_of_neg (by simp), List.filter_eq_self.mpr hWhole,
        List.filter_eq_self.mpr hFraction, List.take_append_drop]
    · rw [List.dropWhile_append_of_pos hWhole, List.dropWhile_cons_of_neg (by simp),
        List.drop_one, List.tail_cons, List.length_drop]
      omega

/-- **A text is the text of one decimal.** -/
theorem toText_injective : Function.Injective toText := by
  intro a b hText
  have hChars : a.toChars = b.toChars := String.ofList_injective hText
  have hMinus : ¬ '0' ≤ '-' := by decide
  obtain ⟨hSign, hBody⟩ : a.negative = b.negative ∧ a.body = b.body := by
    obtain ⟨c, cs, hA, hc⟩ := a.body_eq_cons
    obtain ⟨e, es, hB, he⟩ := b.body_eq_cons
    rw [toChars_eq_body, toChars_eq_body] at hChars
    cases hNegA : a.negative <;> cases hNegB : b.negative <;>
      simp only [hNegA, hNegB, hA, hB, if_true, if_false, Bool.false_eq_true, List.nil_append,
        List.cons_append, List.cons.injEq, true_and] at hChars ⊢
    · exact hChars
    · exact absurd (hChars.1 ▸ hc) hMinus
    · exact absurd (hChars.1.symm ▸ he) hMinus
    · exact hChars
  have hScale : a.scale = b.scale := by
    rw [← a.body_spec.2, hBody, b.body_spec.2]
  have hDigits : a.paddedDigits = b.paddedDigits := by
    rw [← a.body_spec.1, hBody, b.body_spec.1]
  have hMantissa : a.mantissa = b.mantissa := by
    have hValue := a.digitsValue?_paddedDigits
    rw [hDigits, b.digitsValue?_paddedDigits] at hValue
    exact (Option.some.inj hValue).symm
  obtain ⟨negative, mantissa, scale⟩ := a
  subst hSign hMantissa hScale
  rfl

theorem toText_ne_empty (d : Decimal) : d.toText ≠ "" := by
  intro hEmpty
  obtain ⟨c, rest, hBody, -⟩ := d.body_eq_cons
  have hChars := congrArg String.toList hEmpty
  rw [toText, String.toList_ofList, toChars_eq_body, hBody] at hChars
  simp at hChars

/-- **Decimals are written alike in normal form exactly if they have the same value.** -/
theorem toText_normalize_eq_iff {a b : Decimal} :
    a.normalize.toText = b.normalize.toText ↔ a.value = b.value := by
  constructor
  · intro hText
    rw [← a.value_normalize, toText_injective hText, b.value_normalize]
  · intro hValue
    have hNormal : a.normalize.value = b.normalize.value := by simpa using hValue
    rw [a.isNormal_normalize.eq_of_value b.isNormal_normalize hNormal]

example : (normalize ⟨true, 1200, 3⟩).toText = "-1.2" := by decide

end MarketGateway.Decimal
