import Mathlib.Logic.Function.Basic
import MarketGateway.Proofs.Text.Utf8
import MarketGateway.Text.FormEncoding

/-!
# Form-encoded lines are read back

Reading a form-encoded line gives the pairs that were written (`decode_encode`), whatever their
texts hold. A byte is written in characters that are neither of the two separators
(`isHarmless_of_mem_encodeByte`) and is read back from them, whatever follows
(`decodeBytes_encodeByte`). So the ampersands of a line are those between items, and the first
equals sign of an item is the one behind the name.
-/

namespace MarketGateway.Text.FormEncoding

/-- The codes of ASCII characters. -/
def codes (cs : List Char) : List UInt8 := cs.map fun c => UInt8.ofNat c.toNat

theorem codes_append (cs ds : List Char) : codes (cs ++ ds) = codes cs ++ codes ds :=
  List.map_append

theorem codes_cons (c : Char) (cs : List Char) :
    codes (c :: cs) = UInt8.ofNat c.toNat :: codes cs := rfl

/-! ## Bytes -/

/-- An ASCII character that separates neither items nor the sides of an item. -/
structure IsHarmless (c : Char) : Prop where
  ascii : c.toNat < 0x80
  code_ne_amp : UInt8.ofNat c.toNat ≠ 0x26
  code_ne_equals : UInt8.ofNat c.toNat ≠ 0x3d

theorem toNat_char (b : UInt8) : (Char.ofNat b.toNat).toNat = b.toNat := by
  have hSmall := b.toNat_lt
  rw [Char.ofNat, dif_pos (.inl (by omega))]
  rfl

theorem code_char (b : UInt8) : UInt8.ofNat (Char.ofNat b.toNat).toNat = b := by
  rw [toNat_char, UInt8.ofNat_toNat]

theorem toNat_of_plain {b : UInt8} (hPlain : isPlain b = true) : b.toNat < 0x80 := by
  simp only [isPlain, Bool.or_eq_true, Bool.and_eq_true, decide_eq_true_eq, beq_iff_eq] at hPlain
  omega

theorem ne_of_plain {b other : UInt8} (hPlain : isPlain b = true) (hOther : isPlain other = false) :
    b ≠ other := by
  rintro rfl
  cases hPlain.symm.trans hOther

theorem isHarmless_hexDigit (n : Nat) (hDigit : n < 16) : IsHarmless (hexDigit n) := by
  have hAll : ∀ n < 16, (hexDigit n).toNat < 0x80 ∧ UInt8.ofNat (hexDigit n).toNat ≠ 0x26 ∧
      UInt8.ofNat (hexDigit n).toNat ≠ 0x3d := by decide
  obtain ⟨hAscii, hAmp, hEquals⟩ := hAll n hDigit
  exact ⟨hAscii, hAmp, hEquals⟩

/-- A written byte holds no separator. -/
theorem isHarmless_of_mem_encodeByte {b : UInt8} {c : Char} (hc : c ∈ encodeByte b) :
    IsHarmless c := by
  unfold encodeByte at hc
  split at hc
  · next hPlain =>
    obtain rfl := List.mem_singleton.mp hc
    refine ⟨?_, ?_, ?_⟩
    · rw [toNat_char]
      exact toNat_of_plain hPlain
    · rw [code_char]
      exact ne_of_plain hPlain (by decide)
    · rw [code_char]
      exact ne_of_plain hPlain (by decide)
  split at hc
  · obtain rfl := List.mem_singleton.mp hc
    exact ⟨by decide, by decide, by decide⟩
  · have hByte := b.toNat_lt
    simp only [List.mem_cons, List.not_mem_nil, or_false] at hc
    rcases hc with rfl | rfl | rfl
    · exact ⟨by decide, by decide, by decide⟩
    · exact isHarmless_hexDigit _ (by omega)
    · exact isHarmless_hexDigit _ (by omega)

theorem hexValue?_hexDigit :
    ∀ n < 16, hexValue? (UInt8.ofNat (hexDigit n).toNat) = some n := by
  decide

theorem decodeBytes_cons {b : UInt8} (hPercent : b ≠ 0x25) (rest : List UInt8) :
    decodeBytes (b :: rest) = (if b = 0x2b then 0x20 else b) :: decodeBytes rest := by
  match rest with
  | [] => by_cases hPlus : b = 0x2b <;> simp [decodeBytes, hPlus]
  | [c] => rfl
  | high :: low :: rest =>
    rw [decodeBytes]
    by_cases hPlus : b = 0x2b
    · rw [if_pos hPlus, if_pos hPlus]
    · rw [if_neg hPlus, if_neg hPercent, if_neg hPlus]

theorem decodeBytes_percent {high low : UInt8} {h l : Nat} (hHigh : hexValue? high = some h)
    (hLow : hexValue? low = some l) (rest : List UInt8) :
    decodeBytes (0x25 :: high :: low :: rest) = UInt8.ofNat (h * 16 + l) :: decodeBytes rest := by
  rw [decodeBytes, if_neg (by decide), if_pos rfl, hHigh, hLow]

/-- A written byte is read back, by cases on how it was written. -/
theorem decodeBytes_encodeByte (b : UInt8) (rest : List UInt8) :
    decodeBytes (codes (encodeByte b) ++ rest) = b :: decodeBytes rest := by
  unfold encodeByte
  split
  · next hPlain =>
    have hPercent : b ≠ 0x25 := ne_of_plain hPlain (by decide)
    have hPlus : b ≠ 0x2b := ne_of_plain hPlain (by decide)
    rw [codes_cons, code_char, List.cons_append, decodeBytes_cons hPercent, if_neg hPlus]
    rfl
  split
  · next hSpace =>
    have hByte : b = 0x20 := UInt8.toNat_inj.mp hSpace
    rw [hByte]
    exact decodeBytes_cons (by decide) rest
  · have hHigh := hexValue?_hexDigit (b.toNat / 16) (by have := b.toNat_lt; omega)
    have hLow := hexValue?_hexDigit (b.toNat % 16) (by omega)
    have hByte : UInt8.ofNat (b.toNat / 16 * 16 + b.toNat % 16) = b := by
      rw [Nat.div_add_mod', UInt8.ofNat_toNat]
    calc decodeBytes (codes ['%', hexDigit (b.toNat / 16), hexDigit (b.toNat % 16)] ++ rest)
        = UInt8.ofNat (b.toNat / 16 * 16 + b.toNat % 16) :: decodeBytes rest :=
          decodeBytes_percent hHigh hLow rest
      _ = b :: decodeBytes rest := by rw [hByte]

/-! ## Texts -/

theorem isHarmless_of_mem_encodeText {s : String} {c : Char} (hc : c ∈ encodeText s) :
    IsHarmless c := by
  obtain ⟨b, -, hByte⟩ := List.mem_flatMap.mp hc
  exact isHarmless_of_mem_encodeByte hByte

theorem decodeBytes_encodeText (s : String) :
    decodeBytes (codes (encodeText s)) = Utf8.bytes s := by
  unfold encodeText
  induction Utf8.bytes s with
  | nil => rfl
  | cons b rest ih => rw [List.flatMap_cons, codes_append, decodeBytes_encodeByte, ih]

theorem lossy_decodeBytes_encodeText (s : String) :
    Utf8.lossy (decodeBytes (codes (encodeText s))) = s := by
  rw [decodeBytes_encodeText, Utf8.lossy_bytes]

/-! ## Items -/

theorem codes_encodePair (pair : String × String) :
    codes (encodePair pair) =
      codes (encodeText pair.1) ++ 0x3d :: codes (encodeText pair.2) := by
  rw [encodePair, codes_append, codes_cons]
  rfl

theorem splitPair_append {name value : List UInt8} (hName : 0x3d ∉ name) :
    splitPair (name ++ 0x3d :: value) = (name, value) := by
  have hPass : ∀ b ∈ name, (b != 0x3d) = true := by
    intro b hb
    rw [bne_iff_ne]
    rintro rfl
    exact hName hb
  rw [splitPair, List.takeWhile_append_of_pos hPass, List.dropWhile_append_of_pos hPass]
  simp

theorem decodePair_encodePair (pair : String × String) :
    decodePair (codes (encodePair pair)) = pair := by
  have hName : 0x3d ∉ codes (encodeText pair.1) := by
    intro hMem
    obtain ⟨c, hc, hCode⟩ := List.mem_map.mp hMem
    exact (isHarmless_of_mem_encodeText hc).code_ne_equals hCode
  rw [codes_encodePair, decodePair, splitPair_append hName]
  simp only [lossy_decodeBytes_encodeText]

theorem amp_not_mem_encodePair (pair : String × String) : 0x26 ∉ codes (encodePair pair) := by
  have hText : ∀ s, 0x26 ∉ codes (encodeText s) := by
    intro s hMem
    obtain ⟨c, hc, hCode⟩ := List.mem_map.mp hMem
    exact (isHarmless_of_mem_encodeText hc).code_ne_amp hCode
  rw [codes_encodePair, List.mem_append, List.mem_cons]
  rintro (hMem | hMem | hMem)
  · exact hText _ hMem
  · cases hMem
  · exact hText _ hMem

/-! ## Lines -/

theorem encodePairs_ascii (pairs : List (String × String)) :
    ∀ c ∈ encodePairs pairs, c.toNat < 0x80 := by
  have hPair : ∀ pair, ∀ c ∈ encodePair pair, c.toNat < 0x80 := by
    intro pair c hc
    rcases List.mem_append.mp hc with hName | hRest
    · exact (isHarmless_of_mem_encodeText hName).ascii
    · rcases List.mem_cons.mp hRest with rfl | hValue
      · decide
      · exact (isHarmless_of_mem_encodeText hValue).ascii
  fun_induction encodePairs pairs with
  | case1 => simp
  | case2 pair => exact hPair pair
  | case3 pair rest _ ih =>
    intro c hc
    rcases List.mem_append.mp hc with hFirst | hRest
    · exact hPair pair c hFirst
    · rcases List.mem_cons.mp hRest with rfl | hLater
      · decide
      · exact ih c hLater

/-- The line is the items with ampersands between them. -/
theorem codes_encodePairs (pairs : List (String × String)) :
    codes (encodePairs pairs) =
      [0x26].intercalate (pairs.map fun pair => codes (encodePair pair)) := by
  fun_induction encodePairs pairs with
  | case1 => rfl
  | case2 pair => simp
  | case3 pair rest hMore ih =>
    obtain ⟨second, others, rfl⟩ := List.exists_cons_of_ne_nil hMore
    rw [codes_append, codes_cons, ih]
    simp [List.intercalate_cons_cons]

theorem items_codes (pairs : List (String × String)) :
    items (codes (encodePairs pairs)) = pairs.map fun pair => codes (encodePair pair) := by
  cases pairs with
  | nil => rfl
  | cons pair rest =>
    have hSplit : (codes (encodePairs (pair :: rest))).splitOn 0x26 =
        (pair :: rest).map fun pair => codes (encodePair pair) := by
      rw [codes_encodePairs]
      refine List.splitOn_intercalate _ ?_ (by simp)
      intro item hItem
      obtain ⟨other, -, rfl⟩ := List.mem_map.mp hItem
      exact amp_not_mem_encodePair other
    rw [items, hSplit, List.filter_eq_self]
    intro item hItem
    obtain ⟨other, -, rfl⟩ := List.mem_map.mp hItem
    simp [codes_encodePair]

/-- Reading a written line gives the pairs back, in their order. -/
theorem decode_encode (pairs : List (String × String)) : decode (encode pairs) = pairs := by
  have hBytes : Utf8.bytes (encode pairs) = codes (encodePairs pairs) :=
    Utf8.bytes_ofList_of_ascii (encodePairs_ascii pairs)
  rw [decode, hBytes, items_codes, List.map_map]
  calc pairs.map (decodePair ∘ fun pair => codes (encodePair pair))
      = pairs.map id := List.map_congr_left fun pair _ => decodePair_encodePair pair
    _ = pairs := List.map_id pairs

/-- A line may be cut at any ampersand. -/
theorem decode_amp (first second : String) :
    decode (first ++ "&" ++ second) = decode first ++ decode second := by
  have hBytes : Utf8.bytes (first ++ "&" ++ second) =
      Utf8.bytes first ++ 0x26 :: Utf8.bytes second := by
    simp only [Utf8.bytes, String.toList_append, List.flatMap_append, List.append_assoc]
    rfl
  rw [decode, hBytes, items, List.splitOn_append_cons_self, List.filter_append, List.map_append]
  rfl

/-- A text whose characters stand for themselves is written as it is. -/
theorem encodeText_of_plain {s : String}
    (hPlain : ∀ c ∈ s.toList, (String.utf8EncodeChar c).flatMap encodeByte = [c]) :
    encodeText s = s.toList := by
  rw [encodeText, Utf8.bytes, List.flatMap_assoc]
  calc s.toList.flatMap (fun c => (String.utf8EncodeChar c).flatMap encodeByte)
      = s.toList.flatMap (fun c => [c]) := List.flatMap_congr hPlain
    _ = s.toList := List.flatMap_singleton' _

theorem encode_injective : Function.Injective encode :=
  Function.LeftInverse.injective decode_encode

end MarketGateway.Text.FormEncoding
