import MarketGateway.Proofs.Decimal.Value
import MarketGateway.Text.Blank

/-!
# Exact reading of plain numerals

A plain numeral is a run of digits, with or without a point in it. It is read without rounding as
soon as its digits fit the mantissa and those behind the point fit the scale
(`ofText?_whole`, `ofText?_fraction`).
-/

namespace MarketGateway.Decimal

open Text

theorem le_of_digitsValue? {digits : List Char} {acc n : Nat}
    (h : digitsValue? acc digits = some n) : acc ≤ n := by
  induction digits generalizing acc with
  | nil =>
    cases h
    exact Nat.le_refl _
  | cons c rest ih =>
    obtain ⟨d, -, hRest⟩ := Option.bind_eq_some_iff.mp h
    have := ih hRest
    omega

theorem digitsValue?_append {front back : List Char} {acc n : Nat} :
    digitsValue? acc (front ++ back) = some n ↔
      ∃ m, digitsValue? acc front = some m ∧ digitsValue? m back = some n := by
  induction front generalizing acc with
  | nil => simp [digitsValue?]
  | cons c rest ih =>
    cases hDigit : digitValue? c with
    | none => simp [digitsValue?, hDigit]
    | some d => simpa [digitsValue?, hDigit] using ih

/-- Digits that fit go into the mantissa one after another. -/
theorem scan_digits {negative : Bool} {digits rest : List Char} (st : Scan) {n : Nat}
    (hValue : digitsValue? st.mantissa digits = some n) (hFit : n < mantissaLimit)
    (hScale : st.seenPoint = true → st.scale + digits.length ≤ maxScale) :
    scan negative st (digits ++ rest) =
      scan negative
        { mantissa := n
          scale := if st.seenPoint then st.scale + digits.length else st.scale
          seenPoint := st.seenPoint
          seenDigit := st.seenDigit || !digits.isEmpty } rest := by
  induction digits generalizing st with
  | nil =>
    cases hValue
    simp
  | cons c digits ih =>
    obtain ⟨d, hDigit, hRest⟩ := Option.bind_eq_some_iff.mp hValue
    have hFull : st.isFull = false := by
      unfold Scan.isFull
      cases hPoint : st.seenPoint with
      | false => rfl
      | true =>
        have := hScale hPoint
        simp only [List.length_cons] at this
        simp only [Bool.true_and, decide_eq_false_iff_not]
        omega
    have hMantissa : st.mantissa * 10 + d < mantissaLimit :=
      Nat.lt_of_le_of_lt (le_of_digitsValue? hRest) hFit
    rw [List.cons_append, scan]
    simp only [hDigit, hFull, Bool.false_eq_true, if_false, hMantissa, if_true]
    rw [ih { st with
      mantissa := st.mantissa * 10 + d
      scale := if st.seenPoint then st.scale + 1 else st.scale
      seenDigit := true } hRest]
    · congr 2
      · cases st.seenPoint with
        | false => rfl
        | true =>
          simp only [if_true, List.length_cons]
          omega
      · simp
    · intro hPoint
      have := hScale hPoint
      simp only [List.length_cons] at this
      simp only [show st.seenPoint = true from hPoint, if_true]
      omega

theorem digit_of_digitsValue? {digits : List Char} {acc n : Nat}
    (h : digitsValue? acc digits = some n) : ∀ c ∈ digits, '0' ≤ c ∧ c ≤ '9' :=
  fun c hc => isDigit_iff.mp ((digitsValue?_eq_some_iff.mp h).1 c hc)

theorem plainChars?_of_digit_head {c : Char} {cs : List Char} (h : c ≠ '-' ∧ c ≠ '+') :
    plainChars? (c :: cs) = scan false {} (c :: cs) := by
  unfold plainChars?
  split
  · exact absurd (List.cons.inj ‹_›).1 h.1
  · exact absurd (List.cons.inj ‹_›).1 h.2
  · rfl

theorem not_blank_of_digit {c : Char} (h : '0' ≤ c ∧ c ≤ '9') : isBlank c = false := by
  have hLow : 48 ≤ c.toNat := h.1
  have hHigh : c.toNat ≤ 57 := h.2
  simp only [isBlank, Bool.or_eq_false_iff, Bool.and_eq_false_iff, decide_eq_false_iff_not,
    beq_eq_false_iff_ne]
  omega

theorem ofText?_of_plainChars? {cs : List Char} {d : Decimal}
    (hBlank : ∀ c ∈ cs, isBlank c = false) (h : plainChars? cs = some d) :
    ofText? (trim (String.ofList cs)) = some d := by
  simp [ofText?, plain?, trim, trimChars_of_not_blank hBlank, h]

/-! ## The two shapes of a plain numeral -/

variable {whole fraction : List Char} {n : Nat}

theorem scan_whole (negative : Bool) (hSome : whole ≠ [])
    (hValue : digitsValue? 0 whole = some n) (hFit : n < mantissaLimit) :
    scan negative {} whole = some (ofParts negative n 0) := by
  have hDigits : whole.isEmpty = false := by simpa using hSome
  rw [← List.append_nil whole, scan_digits {} hValue hFit (fun h => absurd h Bool.false_ne_true)]
  simp [scan, hDigits]

theorem scan_fraction (negative : Bool) (hSome : whole ≠ [])
    (hValue : digitsValue? 0 (whole ++ fraction) = some n) (hFit : n < mantissaLimit)
    (hScale : fraction.length ≤ maxScale) :
    scan negative {} (whole ++ '.' :: fraction) = some (ofParts negative n fraction.length) := by
  obtain ⟨m, hWhole, hFraction⟩ := digitsValue?_append.mp hValue
  have hLe : m ≤ n := le_of_digitsValue? hFraction
  have hDigits : whole.isEmpty = false := by simpa using hSome
  rw [scan_digits {} hWhole (Nat.lt_of_le_of_lt hLe hFit) (fun h => absurd h Bool.false_ne_true),
    scan]
  have hPoint : digitValue? '.' = none := by decide
  simp only [hPoint, true_and, if_true]
  rw [← List.append_nil fraction, scan_digits _ hFraction hFit (by simpa using hScale)]
  simp [scan, hDigits]

/-- A numeral that begins with a digit has no sign to look for. -/
theorem plainChars?_of_digits (rest : List Char) (hSome : whole ≠ [])
    (hDigit : ∀ c ∈ whole, '0' ≤ c ∧ c ≤ '9') :
    plainChars? (whole ++ rest) = scan false {} (whole ++ rest) := by
  obtain ⟨c, cs, rfl⟩ := List.exists_cons_of_ne_nil hSome
  have := (hDigit c List.mem_cons_self).1
  apply plainChars?_of_digit_head
  constructor <;> rintro rfl <;> exact absurd this (by decide)

theorem ofText?_whole (hSome : whole ≠ []) (hValue : digitsValue? 0 whole = some n)
    (hFit : n < mantissaLimit) :
    ofText? (trim (String.ofList whole)) = some (ofParts false n 0) := by
  have hDigit := digit_of_digitsValue? hValue
  apply ofText?_of_plainChars? (fun c hc => not_blank_of_digit (hDigit c hc))
  have hPlain := plainChars?_of_digits [] hSome hDigit
  rw [List.append_nil] at hPlain
  rw [hPlain, scan_whole false hSome hValue hFit]

theorem ofText?_fraction (hSome : whole ≠ []) (hValue : digitsValue? 0 (whole ++ fraction) = some n)
    (hFit : n < mantissaLimit) (hScale : fraction.length ≤ maxScale) :
    ofText? (trim (String.ofList (whole ++ '.' :: fraction))) =
      some (ofParts false n fraction.length) := by
  have hDigit := digit_of_digitsValue? hValue
  apply ofText?_of_plainChars?
  · intro c hc
    rcases List.mem_append.mp hc with hc | hc
    · exact not_blank_of_digit (hDigit c (List.mem_append_left _ hc))
    · rcases List.mem_cons.mp hc with rfl | hc
      · rfl
      · exact not_blank_of_digit (hDigit c (List.mem_append_right _ hc))
  rw [plainChars?_of_digits _ hSome fun c hc => hDigit c (List.mem_append_left _ hc),
    scan_fraction false hSome hValue hFit hScale]

end MarketGateway.Decimal
