import Mathlib.Data.String.Basic
import MarketGateway.Text.Utf8

/-!
# UTF-8 is read back

The lenient reader gives back every text from its UTF-8 form (`lossy_bytes`): a leading byte
announces the bytes that follow it and holds the first bits (`lead?_two`, `lead?_three`,
`lead?_four`), and each byte behind it adds six bits (`lossyChars_more`, `lossyChars_last`). The
ranges that the reader allows for the first of them leave out long forms and surrogates, which no
character has.
-/

namespace MarketGateway.Text.Utf8

variable {b : UInt8} {rest : List UInt8} {c : Char}

/-! ## Single bytes -/

theorem lead?_two : ∀ n < 32, 2 ≤ n → lead? (UInt8.ofNat (n + 192)) = some ⟨1, 0x80, 0xbf, n⟩ := by
  decide

theorem lead?_three : ∀ n < 16, lead? (UInt8.ofNat (n + 224)) =
    some ⟨2, if n = 0 then 0xa0 else 0x80, if n = 0xd then 0x9f else 0xbf, n⟩ := by
  decide

theorem lead?_four : ∀ n < 5, lead? (UInt8.ofNat (n + 240)) =
    some ⟨3, if n = 0 then 0x90 else 0x80, if n = 4 then 0x8f else 0xbf, n⟩ := by
  decide

theorem lossyChars_ascii (hAscii : b.toNat < 0x80) :
    lossyChars none (b :: rest) = Char.ofNat b.toNat :: lossyChars none rest := by
  rw [lossyChars, if_pos hAscii]

theorem lossyChars_lead {p : Pending} (hLead : lead? b = some p) :
    lossyChars none (b :: rest) = lossyChars (some p) rest := by
  have hByte : ¬ b.toNat < 0x80 := by
    intro hAscii
    have hNone : lead? b = none := by
      simp only [lead?]
      repeat rw [if_neg (by omega)]
    cases hNone.symm.trans hLead
  rw [lossyChars, if_neg hByte, hLead]

theorem lossyChars_more {missing low high value : Nat} (hMissing : 1 < missing)
    (hLow : low ≤ b.toNat) (hHigh : b.toNat ≤ high) :
    lossyChars (some ⟨missing, low, high, value⟩) (b :: rest) =
      lossyChars (some ⟨missing - 1, 0x80, 0xbf, value * 64 + (b.toNat - 0x80)⟩) rest := by
  rw [lossyChars, if_pos ⟨hLow, hHigh⟩]
  exact if_neg (Nat.not_le.mpr hMissing)

theorem lossyChars_last {low high value : Nat} (hLow : low ≤ b.toNat) (hHigh : b.toNat ≤ high) :
    lossyChars (some ⟨1, low, high, value⟩) (b :: rest) =
      Char.ofNat (value * 64 + (b.toNat - 0x80)) :: lossyChars none rest := by
  rw [lossyChars, if_pos ⟨hLow, hHigh⟩]
  exact if_pos (Nat.le_refl 1)

/-! ## Characters -/

/-- No character is a surrogate. -/
theorem toNat_valid (c : Char) : c.toNat < 0xd800 ∨ (0xdfff < c.toNat ∧ c.toNat < 0x110000) :=
  c.valid

/-- A following byte holds six bits. -/
theorem toNat_following {n : Nat} (hBits : n < 64) :
    (UInt8.ofNat (n + 128)).toNat = n + 128 := by
  have hSize : UInt8.size = 256 := rfl
  exact UInt8.toNat_ofNat_of_lt' (by omega)

theorem toNat_ascii (hAscii : c.toNat < 0x80) : (UInt8.ofNat c.toNat).toNat = c.toNat := by
  have hSize : UInt8.size = 256 := rfl
  exact UInt8.toNat_ofNat_of_lt' (by omega)

theorem utf8EncodeChar_of_ascii (hAscii : c.toNat < 0x80) :
    String.utf8EncodeChar c = [UInt8.ofNat c.toNat] := by
  have hSmall : c.val.toNat ≤ 127 := Nat.le_of_lt_succ hAscii
  simp only [String.utf8EncodeChar, if_pos hSmall]
  rfl

/-- By cases on the number of bytes of the character. -/
theorem lossyChars_utf8EncodeChar (c : Char) (rest : List UInt8) :
    lossyChars none (String.utf8EncodeChar c ++ rest) = c :: lossyChars none rest := by
  have hValid := toNat_valid c
  have hChar : Char.ofNat c.toNat = c := Char.ofNat_toNat c
  have hCode : c.val.toNat = c.toNat := rfl
  simp only [String.utf8EncodeChar, hCode]
  split
  · next hOne =>
    have hByte := toNat_ascii (c := c) (by omega)
    rw [List.singleton_append, lossyChars_ascii (by omega), hByte, hChar]
  split
  · next hTwo =>
    have hLast := toNat_following (n := c.toNat % 64) (by omega)
    have hBits : c.toNat / 64 % 32 * 64 + (c.toNat % 64 + 128 - 0x80) = c.toNat := by omega
    simp only [List.cons_append, List.nil_append]
    rw [lossyChars_lead (lead?_two _ (by omega) (by omega)), lossyChars_last (by omega) (by omega),
      hLast, hBits, hChar]
  split
  · next hThree =>
    have hMore := toNat_following (n := c.toNat / 64 % 64) (by omega)
    have hLast := toNat_following (n := c.toNat % 64) (by omega)
    have hBits : (c.toNat / 4096 % 16 * 64 + (c.toNat / 64 % 64 + 128 - 0x80)) * 64 +
        (c.toNat % 64 + 128 - 0x80) = c.toNat := by omega
    simp only [List.cons_append, List.nil_append]
    -- The first byte narrows the range of the second where it holds no bits, or a surrogate's.
    rw [lossyChars_lead (lead?_three _ (by omega)), lossyChars_more (by omega)
      (by split <;> omega) (by split <;> omega), lossyChars_last (by omega) (by omega),
      hMore, hLast, hBits, hChar]
  · next hFour =>
    have hSecond := toNat_following (n := c.toNat / 4096 % 64) (by omega)
    have hThird := toNat_following (n := c.toNat / 64 % 64) (by omega)
    have hLast := toNat_following (n := c.toNat % 64) (by omega)
    have hBits : ((c.toNat / 262144 % 8 * 64 + (c.toNat / 4096 % 64 + 128 - 0x80)) * 64 +
        (c.toNat / 64 % 64 + 128 - 0x80)) * 64 + (c.toNat % 64 + 128 - 0x80) = c.toNat := by omega
    simp only [List.cons_append, List.nil_append]
    rw [lossyChars_lead (lead?_four _ (by omega)), lossyChars_more (by omega)
      (by split <;> omega) (by split <;> omega), lossyChars_more (by omega) (by omega) (by omega),
      lossyChars_last (by omega) (by omega), hSecond, hThird, hLast, hBits, hChar]

/-! ## Texts -/

theorem lossyChars_bytes (cs : List Char) :
    lossyChars none (cs.flatMap String.utf8EncodeChar) = cs := by
  induction cs with
  | nil => rfl
  | cons c rest ih => rw [List.flatMap_cons, lossyChars_utf8EncodeChar, ih]

/-- The lenient reader gives every text back. -/
theorem lossy_bytes (s : String) : lossy (bytes s) = s := by
  rw [lossy, bytes, lossyChars_bytes, String.ofList_toList]

/-- The bytes of an ASCII text are the codes of its characters. -/
theorem bytes_ofList_of_ascii {cs : List Char} (hAscii : ∀ c ∈ cs, c.toNat < 0x80) :
    bytes (String.ofList cs) = cs.map fun c => UInt8.ofNat c.toNat := by
  rw [bytes, String.toList_ofList]
  induction cs with
  | nil => rfl
  | cons c rest ih =>
    rw [List.flatMap_cons, utf8EncodeChar_of_ascii (hAscii c List.mem_cons_self),
      ih (fun d hd => hAscii d (List.mem_cons_of_mem _ hd))]
    rfl

end MarketGateway.Text.Utf8
