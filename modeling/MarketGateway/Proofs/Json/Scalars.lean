import Mathlib.Data.Nat.Digits.Defs
import MarketGateway.Json.Printer
import MarketGateway.Json.Reader

/-!
# Reading the pieces that were written

A value is written without blanks, and behind it comes the end of the text, a comma or a closing
bracket (`Closes`). Up to there a reader takes back exactly what the printer wrote, and passing over
a value passes over exactly that:

* any text, whatever has to be escaped in it: `stringRest_escaped`, `skipString_escaped`;
* whole numbers of 64 bits, with or without a sign: `readNumber_toDigits`, `skipNumber_toDigits`.
-/

namespace MarketGateway.Json

/-- What may follow a value that was written: nothing, a comma or a closing bracket. -/
def Closes (rest : List Char) : Prop := ∀ c ∈ rest.head?, c = ',' ∨ c = ']' ∨ c = '\x7d'

theorem closes_nil : Closes [] := nofun

theorem closes_comma (rest : List Char) : Closes (',' :: rest) := by simp [Closes]

theorem closes_bracket (rest : List Char) : Closes (']' :: rest) := by simp [Closes]

theorem closes_brace (rest : List Char) : Closes ('\x7d' :: rest) := by simp [Closes]

@[simp]
theorem skipBlank_cons {c : Char} (h : isBlank c = false) (rest : List Char) :
    skipBlank (c :: rest) = c :: rest := by
  simp [skipBlank, h]

/-! ## Words -/

@[simp]
theorem expectWord_append (word rest : List Char) : expectWord word (word ++ rest) = .ok rest := by
  induction word with
  | nil => rfl
  | cons c word ih => simpa [expectWord] using ih

/-! ## Strings -/

theorem hexValue?_hexDigit : ∀ d < 16, hexValue? (hexDigit d) = some d := by decide

/-- A control character is given by two hexadecimal digits. -/
theorem hexValue?_control {c : Char} (h : c.toNat < 32) :
    hexValue? (hexDigit (c.toNat / 16)) = some (c.toNat / 16) ∧
      hexValue? (hexDigit (c.toNat % 16)) = some (c.toNat % 16) :=
  ⟨hexValue?_hexDigit _ (by omega), hexValue?_hexDigit _ (by omega)⟩

theorem eq_of_toNat_eq {c : Char} {n : Nat} (h : c.toNat = n) : c = Char.ofNat n := by
  rw [← h, Char.ofNat_toNat]

/-- The forms that a character takes inside a string. -/
theorem escapedChar_cases (c : Char) :
    (∃ d, escapedChar c = ['\\', d] ∧ d ≠ 'u' ∧ escapeLetter? d = some c) ∨
      (c.toNat < 32 ∧ escapedChar c =
        ['\\', 'u', '0', '0', hexDigit (c.toNat / 16), hexDigit (c.toNat % 16)]) ∨
      (escapedChar c = [c] ∧ c ≠ '"' ∧ c ≠ '\\' ∧ ¬c.toNat < 32) := by
  unfold escapedChar
  split_ifs with h1 h2 h3 h4 h5 h6 h7 h8
  · exact .inl ⟨'"', rfl, by decide, by rw [h1]; decide⟩
  · exact .inl ⟨'\\', rfl, by decide, by rw [h2]; decide⟩
  · exact .inl ⟨'b', rfl, by decide, by rw [eq_of_toNat_eq h3]; decide⟩
  · exact .inl ⟨'t', rfl, by decide, by rw [eq_of_toNat_eq h4]; decide⟩
  · exact .inl ⟨'n', rfl, by decide, by rw [eq_of_toNat_eq h5]; decide⟩
  · exact .inl ⟨'f', rfl, by decide, by rw [eq_of_toNat_eq h6]; decide⟩
  · exact .inl ⟨'r', rfl, by decide, by rw [eq_of_toNat_eq h7]; decide⟩
  · exact .inr (.inl ⟨h8, rfl⟩)
  · exact .inr (.inr ⟨rfl, h1, h2, h8⟩)

theorem readString_escapedChar (c : Char) (acc rest : List Char) :
    readString .plain acc (escapedChar c ++ rest) = readString .plain (c :: acc) rest := by
  rcases escapedChar_cases c with ⟨d, hForm, hUnit, hLetter⟩ | ⟨hLow, hForm⟩ |
    ⟨hForm, hQuote, hBackslash, hLow⟩
  · simp [hForm, readString, hUnit, hLetter]
  · obtain ⟨hHigh, hRest⟩ := hexValue?_control hLow
    have hZero : hexValue? '0' = some 0 := by decide
    have hValue : c.toNat / 16 * 16 + c.toNat % 16 = c.toNat := by omega
    have hPlain : ¬(0xdc00 ≤ c.toNat ∧ c.toNat ≤ 0xdfff) ∧
      ¬(0xd800 ≤ c.toNat ∧ c.toNat ≤ 0xdbff) := by omega
    simp [hForm, readString, hZero, hHigh, hRest, hValue, hPlain]
  · simp [hForm, readString, hQuote, hBackslash, hLow]

theorem skipString_escapedChar (c : Char) (rest : List Char) :
    skipString .plain (escapedChar c ++ rest) = skipString .plain rest := by
  rcases escapedChar_cases c with ⟨d, hForm, hUnit, hLetter⟩ | ⟨hLow, hForm⟩ |
    ⟨hForm, hQuote, hBackslash, hLow⟩
  · simp [hForm, skipString, hUnit, hLetter]
  · obtain ⟨hHigh, hRest⟩ := hexValue?_control hLow
    have hZero : hexValue? '0' = some 0 := by decide
    simp [hForm, skipString, hZero, hHigh, hRest]
  · simp [hForm, skipString, hQuote, hBackslash, hLow]

theorem readString_escaped (cs acc rest : List Char) :
    readString .plain acc (cs.flatMap escapedChar ++ '"' :: rest) =
      .ok (String.ofList (acc.reverse ++ cs), rest) := by
  induction cs generalizing acc with
  | nil => simp [readString]
  | cons c cs ih => simp [readString_escapedChar, ih]

/-- **A text is read back as it was written**, up to its closing quote. -/
@[simp]
theorem stringRest_escaped (s : String) (rest : List Char) :
    stringRest (s.toList.flatMap escapedChar ++ '"' :: rest) = .ok (s, rest) := by
  simp [stringRest, readString_escaped]

@[simp]
theorem skipString_escaped (cs rest : List Char) :
    skipString .plain (cs.flatMap escapedChar ++ '"' :: rest) = .ok rest := by
  induction cs with
  | nil => simp [skipString]
  | cons c cs ih => simpa [skipString_escapedChar] using ih

theorem renderString_append (s : String) (rest : List Char) :
    renderString s ++ rest = '"' :: (s.toList.flatMap escapedChar ++ '"' :: rest) := by
  simp [renderString]

/-! ## Runs of digits -/

theorem digit?_of_isDigit {c : Char} (h : c.isDigit = true) :
    digit? c = some (c.toNat - '0'.toNat) := by
  simp only [Char.isDigit, Bool.and_eq_true, decide_eq_true_eq] at h
  exact if_pos ⟨h.1, h.2⟩

theorem isDigit_of_mem_toDigits {n : Nat} {c : Char} (h : c ∈ Nat.toDigits 10 n) :
    c.isDigit = true :=
  Nat.isDigit_of_mem_toDigits (by decide) (by decide) h

theorem le_ofDigitChars (cs : List Char) (n : Nat) : n ≤ Nat.ofDigitChars 10 cs n := by
  rw [Nat.ofDigitChars_eq_ofDigitChars_zero]
  have : n ≤ 10 ^ cs.length * n := Nat.le_mul_of_pos_left n (Nat.pow_pos (by decide))
  omega

theorem skipDigits_append {ds rest : List Char} (hDigits : ∀ c ∈ ds, c.isDigit = true)
    (hEnd : startsWithDigit rest = false) : skipDigits (ds ++ rest) = rest := by
  induction ds with
  | nil =>
    cases rest with
    | nil => rfl
    | cons c rest =>
      have hc : digit? c = none := by simpa [startsWithDigit] using hEnd
      simp [skipDigits, hc]
  | cons c ds ih =>
    obtain ⟨hc, hDigits⟩ := List.forall_mem_cons.mp hDigits
    simpa [skipDigits, digit?_of_isDigit hc] using ih hDigits

theorem readDigits_append {ds rest : List Char} (significand count : Nat)
    (hDigits : ∀ c ∈ ds, c.isDigit = true) (hEnd : startsWithDigit rest = false)
    (hFit : Nat.ofDigitChars 10 ds significand < significandLimit) :
    readDigits significand count (ds ++ rest) =
      (Nat.ofDigitChars 10 ds significand, count + ds.length, rest) := by
  induction ds generalizing significand count with
  | nil =>
    cases rest with
    | nil => simp [readDigits]
    | cons c rest =>
      have hc : digit? c = none := by simpa [startsWithDigit] using hEnd
      simp [readDigits, hc]
  | cons c ds ih =>
    obtain ⟨hc, hDigits⟩ := List.forall_mem_cons.mp hDigits
    rw [Nat.ofDigitChars_cons, Nat.mul_comm] at hFit ⊢
    have hHead : significand * 10 + (c.toNat - '0'.toNat) < significandLimit :=
      Nat.lt_of_le_of_lt (le_ofDigitChars ds _) hFit
    rw [List.cons_append, readDigits]
    simp only [digit?_of_isDigit hc, hHead, if_true]
    rw [ih _ _ hDigits hFit, List.length_cons]
    congr 2
    omega

/-- Only zero is written with a zero in front. -/
theorem eq_nil_of_toDigits {n : Nat} {cs : List Char} (h : Nat.toDigits 10 n = '0' :: cs) :
    cs = [] := by
  induction n using Nat.strong_induction_on generalizing cs with
  | _ n ih =>
    rw [Nat.toDigits_eq_if (by decide)] at h
    split at h
    · exact (List.cons.inj h).2.symm
    · rename_i hLarge
      obtain ⟨c, front, hFront⟩ := List.exists_cons_of_ne_nil
        (Nat.toDigits_ne_nil (n := n / 10) (b := 10))
      rw [hFront, List.cons_append] at h
      obtain ⟨rfl, rfl⟩ := List.cons.inj h
      obtain rfl := ih (n / 10) (by omega) hFront
      -- A zero alone is zero, so the number lies below ten.
      have hZero : n / 10 = 0 := by
        rw [← Nat.ofDigitChars_toDigits (n := n / 10) (show 1 < 10 by decide) (by decide), hFront]
        rfl
      omega

/-! ## Whole numbers -/

/-- A number that fits 64 bits, with or without a sign. -/
def IsWord (n : Int) : Prop := -0x8000000000000000 ≤ n ∧ n < 0x10000000000000000

theorem startsWithDigit_of_closes {rest : List Char} (h : Closes rest) :
    startsWithDigit rest = false := by
  cases rest with
  | nil => rfl
  | cons c rest => rcases h c rfl with rfl | rfl | rfl <;> rfl

/-- What closes a value is neither a point nor an exponent. -/
theorem plain_of_closes {c : Char} {rest : List Char} (h : Closes (c :: rest)) :
    c ≠ '.' ∧ isExponentMark c = false := by
  rcases h c rfl with rfl | rfl | rfl <;> decide

/-- The digits of a number: the first of them, and that no zero is in front of others. -/
theorem toDigits_head (n : Nat) :
    ∃ c cs, Nat.toDigits 10 n = c :: cs ∧ (digit? c).isSome ∧ ¬(c = '0' ∧ startsWithDigit cs) := by
  obtain ⟨c, cs, hDigits⟩ := List.exists_cons_of_ne_nil (Nat.toDigits_ne_nil (n := n) (b := 10))
  have hc := isDigit_of_mem_toDigits (hDigits ▸ List.mem_cons_self)
  refine ⟨c, cs, hDigits, by simp [digit?_of_isDigit hc], ?_⟩
  rintro ⟨rfl, hMore⟩
  simp [eq_nil_of_toDigits hDigits, startsWithDigit] at hMore

theorem startsWithDigit_append {cs rest : List Char} (h : Closes rest) :
    startsWithDigit (cs ++ rest) = startsWithDigit cs := by
  cases cs with
  | nil => exact startsWithDigit_of_closes h
  | cons c cs => rfl

theorem readNumber_toDigits (negative : Bool) {n : Nat} {rest : List Char}
    (hFit : n < significandLimit) (hRest : Closes rest) :
    readNumber negative (Nat.toDigits 10 n ++ rest) = .ok (wholeNumber negative n, rest) := by
  have hValue : Nat.ofDigitChars 10 (Nat.toDigits 10 n) 0 = n :=
    Nat.ofDigitChars_toDigits (by decide) (by decide)
  have hRead : readDigits 0 0 (Nat.toDigits 10 n ++ rest) = _ :=
    readDigits_append 0 0 (fun _ h => isDigit_of_mem_toDigits h)
      (startsWithDigit_of_closes hRest) (by rwa [hValue])
  rw [hValue] at hRead
  obtain ⟨c, cs, hDigits, hDigit, hZero⟩ := toDigits_head n
  rw [hDigits, List.cons_append] at hRead ⊢
  rw [readNumber]
  simp only [Option.isNone_eq_false_iff.mpr hDigit, startsWithDigit_append hRest, hZero, hRead,
    startsWithDigit_of_closes hRest, Bool.false_eq_true, if_false]
  cases rest with
  | nil => rfl
  | cons d rest =>
    obtain ⟨hPoint, hMark⟩ := plain_of_closes hRest
    split <;> simp_all

theorem skipNumber_toDigits (n : Nat) {rest : List Char} (hRest : Closes rest) :
    skipNumber (Nat.toDigits 10 n ++ rest) = .ok rest := by
  have hSkip : skipDigits (Nat.toDigits 10 n ++ rest) = rest :=
    skipDigits_append (fun _ h => isDigit_of_mem_toDigits h) (startsWithDigit_of_closes hRest)
  obtain ⟨c, cs, hDigits, hDigit, hZero⟩ := toDigits_head n
  rw [hDigits, List.cons_append] at hSkip ⊢
  have hStart : startsWithDigit (c :: (cs ++ rest)) = true := hDigit
  rw [skipNumber]
  simp only [hStart, List.head?_cons, Option.some.injEq, List.tail_cons,
    startsWithDigit_append hRest, hZero, hSkip, Bool.not_true, Bool.false_eq_true, if_false]
  cases rest with
  | nil => rfl
  | cons d rest =>
    obtain ⟨hPoint, hMark⟩ := plain_of_closes hRest
    split <;> simp_all

/-- The two forms of a whole number, and how each is read. -/
theorem integer_cases {n : Int} (hWord : IsWord n) {rest : List Char} (hRest : Closes rest) :
    (∃ cs, renderNumber (.whole n) ++ rest = '-' :: cs ∧
      readNumber true cs = .ok (.whole n, rest) ∧ skipNumber cs = .ok rest) ∨
    (∃ c cs, renderNumber (.whole n) ++ rest = c :: cs ∧ (digit? c).isSome ∧
      readNumber false (c :: cs) = .ok (.whole n, rest) ∧ skipNumber (c :: cs) = .ok rest) := by
  obtain ⟨hLow, hHigh⟩ := hWord
  have hFit : n.natAbs < significandLimit := by
    simp only [significandLimit, Nat.pow_eq]
    omega
  by_cases hSign : n < 0
  · left
    refine ⟨Nat.toDigits 10 n.natAbs ++ rest, ?_, ?_, skipNumber_toDigits _ hRest⟩
    · simp [renderNumber, Text.integer, hSign]
    · rw [readNumber_toDigits true hFit hRest]
      have hSmall : ¬(n.natAbs = 0 ∨ Nat.pow 2 63 < n.natAbs) := by
        simp only [Nat.pow_eq]
        omega
      have hValue : -(n.natAbs : Int) = n := by omega
      simp only [wholeNumber, hSmall, hValue, if_true, if_false]
  · right
    obtain ⟨c, cs, hDigits, hDigit, -⟩ := toDigits_head n.natAbs
    have hText : c :: (cs ++ rest) = Nat.toDigits 10 n.natAbs ++ rest := by
      rw [hDigits, List.cons_append]
    refine ⟨c, cs ++ rest, ?_, hDigit, ?_, ?_⟩
    · simp [renderNumber, Text.integer, Text.natural, hSign, hText]
    · rw [hText, readNumber_toDigits false hFit hRest]
      have hValue : (n.natAbs : Int) = n := by omega
      simp [wholeNumber, hValue]
    · rw [hText, skipNumber_toDigits _ hRest]

end MarketGateway.Json
