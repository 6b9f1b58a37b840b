import MarketGateway.Proofs.Decimal.Spelling
import MarketGateway.Proofs.Trade.Params
import MarketGateway.Trade.Signing

/-!
# Only what is left is signed

A sequence of settings leaves one value under a name, the last one (`finalValue?`), and one text or
none (`finalText?`). The entries are exactly those values (`mem_ofSettings`), and the pairs that are
signed exactly those texts (`mem_signable`), by name. So sequences that leave the same texts are
signed alike (`signature_of_final_texts`), and decimals of the same value leave the same text
(`ParamValue.render_decimal_eq_iff`).
-/

namespace MarketGateway.Trade

/-! ## Texts of values -/

namespace ParamValue

theorem natural_ne_empty (n : Nat) : Text.natural n ≠ "" := by
  intro hEmpty
  have hDigits := congrArg String.toList hEmpty
  rw [Text.natural, String.toList_ofList] at hDigits
  exact Nat.toDigits_ne_nil hDigits

theorem integer_ne_empty (n : Int) : Text.integer n ≠ "" := by
  unfold Text.integer
  split
  · intro hEmpty
    have hChars := congrArg String.toList hEmpty
    rw [String.toList_ofList] at hChars
    cases hChars
  · exact natural_ne_empty _

theorem render_ne_empty {value : ParamValue} {rendered : String}
    (hRender : value.render = some rendered) : rendered ≠ "" := by
  cases value with
  | text s =>
    obtain ⟨hSome, hText⟩ := Option.ite_none_left_eq_some.mp hRender
    exact Option.some.inj hText ▸ hSome
  | int n =>
    obtain ⟨-, hText⟩ := Option.ite_none_left_eq_some.mp hRender
    exact Option.some.inj hText ▸ integer_ne_empty _
  | uint n =>
    obtain ⟨-, hText⟩ := Option.ite_none_left_eq_some.mp hRender
    exact Option.some.inj hText ▸ natural_ne_empty _
  | decimal d =>
    obtain ⟨-, hText⟩ := Option.ite_none_left_eq_some.mp hRender
    exact Option.some.inj hText ▸ Decimal.toText_ne_empty _
  | flag b =>
    obtain ⟨-, hText⟩ := Option.ite_none_right_eq_some.mp hRender
    exact Option.some.inj hText ▸ by decide

/-- **Decimals are rendered alike exactly if they have the same value.** -/
theorem render_decimal_eq_iff {a b : Decimal} :
    (decimal a).render = (decimal b).render ↔ a.sameValue b = true := by
  rw [Decimal.sameValue_iff, render, render]
  by_cases hA : a.isZero = true
  · rw [if_pos hA, Decimal.isZero_iff.mp hA]
    by_cases hB : b.isZero = true
    · simp [hB, Decimal.isZero_iff.mp hB]
    · have hValue := mt Decimal.isZero_iff.mpr hB
      simp [hB, Ne.symm hValue]
  · have hValue := mt Decimal.isZero_iff.mpr hA
    by_cases hB : b.isZero = true
    · simp [hA, hB, Decimal.isZero_iff.mp hB, hValue]
    · rw [if_neg hA, if_neg hB, Option.some.injEq, Decimal.toText_normalize_eq_iff]

end ParamValue

namespace Params

variable {settings : List (String × ParamValue)} {key : String} {value : ParamValue}

/-! ## Final values -/

/-- The value that settings leave under a name: the last one set. -/
def finalValue? (settings : List (String × ParamValue)) (key : String) : Option ParamValue :=
  (settings.filter (·.1 == key)).getLast?.map (·.2)

/-- The text that settings leave under a name; none when the last value is zero or empty. -/
def finalText? (settings : List (String × ParamValue)) (key : String) : Option String :=
  (finalValue? settings key).bind ParamValue.render

theorem finalValue?_snoc (settings : List (String × ParamValue)) (setting : String × ParamValue)
    (key : String) :
    finalValue? (settings ++ [setting]) key =
      if setting.1 = key then some setting.2 else finalValue? settings key := by
  by_cases hKey : setting.1 = key <;> simp [finalValue?, List.filter_append, hKey]

theorem mem_setEntry_iff {entries : List (String × ParamValue)} {entry : String × ParamValue}
    (hKeys : (entries.map Prod.fst).Nodup) :
    entry ∈ setEntry key value entries ↔ entry = (key, value) ∨ entry.1 ≠ key ∧ entry ∈ entries := by
  induction entries with
  | nil => simp [setEntry]
  | cons first rest ih =>
    obtain ⟨k, v⟩ := first
    obtain ⟨hHead, hRest⟩ := List.nodup_cons.mp hKeys
    rw [setEntry]
    split
    · next hEq =>
      subst hEq
      have hApart : entry ∈ rest → entry.1 ≠ k := by
        intro hMem hKey
        exact hHead (List.mem_map.mpr ⟨entry, hMem, hKey⟩)
      grind
    · next hNe => grind

/-- **The entries are the values that are left.** -/
theorem mem_ofSettings :
    (key, value) ∈ (ofSettings settings).entries ↔ finalValue? settings key = some value := by
  induction settings using List.reverseRecOn with
  | nil => simp [ofSettings, finalValue?]
  | append_singleton settings setting ih =>
    have hLast : (ofSettings (settings ++ [setting])).entries =
        setEntry setting.1 setting.2 (ofSettings settings).entries := by
      rw [ofSettings, List.foldl_append]
      rfl
    rw [hLast, mem_setEntry_iff (nodup_ofSettings settings), finalValue?_snoc, ih]
    grind

/-! ## Final texts -/

/-- **The pairs that are signed are the texts that are left**, but for the signature. -/
theorem mem_signable {text : String} :
    (key, text) ∈ (ofSettings settings).signable ↔
      key ≠ signatureName ∧ finalText? settings key = some text := by
  rw [signable_eq, (sortPairs_spec _).1.mem_iff, List.mem_filterMap]
  constructor
  · rintro ⟨⟨name, value⟩, hEntry, hPair⟩
    obtain ⟨hKey, hText⟩ := Option.ite_none_left_eq_some.mp hPair
    obtain ⟨rendered, hRender, hEq⟩ := Option.map_eq_some_iff.mp hText
    cases hEq
    exact ⟨hKey, by rw [finalText?, mem_ofSettings.mp hEntry]; exact hRender⟩
  · rintro ⟨hKey, hText⟩
    obtain ⟨value, hValue, hRender⟩ := Option.bind_eq_some_iff.mp hText
    exact ⟨(key, value), mem_ofSettings.mpr hValue, by simp [signedPair?, hKey, hRender]⟩

theorem nodup_signable (settings : List (String × ParamValue)) :
    ((ofSettings settings).signable.map Prod.fst).Nodup := by
  rw [signable_eq, ((sortPairs_spec _).1.map Prod.fst).nodup_iff]
  exact (sublist_names (fun _ _ => name_of_signedPair) _).nodup (nodup_ofSettings settings)

/-- The names are in strictly increasing order. -/
theorem increasing_signable (settings : List (String × ParamValue)) :
    (ofSettings settings).signable.Pairwise fun p q => p.1 < q.1 := by
  have hSorted : SortedByName (ofSettings settings).signable := by
    rw [signable_eq]
    exact (sortPairs_spec _).2
  have hApart := List.pairwise_map.mp (nodup_signable settings)
  exact (hSorted.and hApart).imp fun hLe => lt_of_le_of_ne hLe.1 hLe.2

/-- Pairs with strictly increasing names are determined by what they hold. -/
theorem eq_of_increasing {pairs others : List (String × String)}
    (hPairs : pairs.Pairwise fun p q => p.1 < q.1) (hOthers : others.Pairwise fun p q => p.1 < q.1)
    (hMem : ∀ pair, pair ∈ pairs ↔ pair ∈ others) : pairs = others := by
  have hNodup {list : List (String × String)} (hList : list.Pairwise fun p q => p.1 < q.1) :
      list.Nodup := hList.imp fun hLt hEq => hLt.ne (congrArg Prod.fst hEq)
  have hPerm := (List.perm_ext_iff_of_nodup (hNodup hPairs) (hNodup hOthers)).mpr hMem
  exact hPerm.eq_of_pairwise (fun _ _ _ _ hLt hGt => absurd hGt hLt.asymm) hPairs hOthers

/-- Sequences that leave the same texts under the names that are kept leave the same signed pairs
under these names. -/
theorem filter_signable_eq {first second : List (String × ParamValue)} (keep : String → Bool)
    (hTexts : ∀ key, keep key = true → key ≠ signatureName →
      finalText? first key = finalText? second key) :
    (ofSettings first).signable.filter (fun pair => keep pair.1) =
      (ofSettings second).signable.filter (fun pair => keep pair.1) := by
  refine eq_of_increasing ((increasing_signable first).filter _)
    ((increasing_signable second).filter _) fun pair => ?_
  rw [List.mem_filter, List.mem_filter]
  refine and_congr_left fun hKeep => ?_
  rw [mem_signable, mem_signable]
  exact and_congr_right fun hKey => by rw [hTexts pair.1 hKeep hKey]

theorem signable_eq_of_final {first second : List (String × ParamValue)}
    (hTexts : ∀ key, key ≠ signatureName → finalText? first key = finalText? second key) :
    (ofSettings first).signable = (ofSettings second).signable := by
  simpa using filter_signable_eq (fun _ => true) fun key _ => hTexts key

/-- **A signature depends only on the texts that are left.** If two sequences of settings leave the
same text, or none, under every name but that of the signature, then the same pairs are signed, in
the same line, with the same signature by any signer. The pairs have strictly increasing names, none
of them the signature's, and are exactly the texts that are left, none of them empty; decimals leave
the same text exactly if they have the same value. -/
theorem signature_of_final_texts {first second : List (String × ParamValue)}
    (hTexts : ∀ key, key ≠ signatureName → finalText? first key = finalText? second key) :
    (ofSettings first).signable = (ofSettings second).signable ∧
    (ofSettings first).canonicalQuery = (ofSettings second).canonicalQuery ∧
    (∀ signer : Signer, signer.sign (ofSettings first) = signer.sign (ofSettings second)) ∧
    (∀ settings, (ofSettings settings).signable.Pairwise (fun p q => p.1 < q.1) ∧
      ∀ key text, (key, text) ∈ (ofSettings settings).signable ↔
        key ≠ signatureName ∧ text ≠ "" ∧ finalText? settings key = some text) ∧
    ∀ a b, (ParamValue.decimal a).render = (ParamValue.decimal b).render ↔ a.sameValue b = true := by
  have hPairs := signable_eq_of_final hTexts
  have hLine : (ofSettings first).canonicalQuery = (ofSettings second).canonicalQuery :=
    congrArg Text.FormEncoding.encode hPairs
  refine ⟨hPairs, hLine, fun signer => congrArg signer.mac hLine, ?_,
    fun _ _ => ParamValue.render_decimal_eq_iff⟩
  intro settings
  refine ⟨increasing_signable settings, fun key text => ?_⟩
  rw [mem_signable]
  refine and_congr_right fun _ => ⟨fun hText => ⟨?_, hText⟩, And.right⟩
  obtain ⟨value, -, hRender⟩ := Option.bind_eq_some_iff.mp hText
  exact ParamValue.render_ne_empty hRender

def plainSettings : List (String × ParamValue) :=
  [("symbol", .text "BTC&USDT"), ("price", .decimal ⟨false, 15, 1⟩)]

/-- What is left is the same: other values come first and are replaced, the price is spelled with
more digits, and the rest is empty, zero or set as the signature. -/
def busySettings : List (String × ParamValue) :=
  [("price", .int (-7)), ("note", .text "old"), ("signature", .text "forged"),
    ("symbol", .text "ETHUSDT"), ("size", .uint 0), ("price", .decimal ⟨false, 1500, 3⟩),
    ("symbol", .text "BTC&USDT"), ("note", .text "")]

theorem signature_of_final_texts_of_busySettings :
    (∀ key, key ≠ signatureName → finalText? busySettings key = finalText? plainSettings key) ∧
    (ofSettings busySettings).signable = [("price", "1.5"), ("symbol", "BTC&USDT")] ∧
    (ofSettings busySettings).signable = (ofSettings plainSettings).signable := by
  have hTexts (key : String) (hKey : key ≠ signatureName) :
      finalText? busySettings key = finalText? plainSettings key := by
    by_cases hSymbol : key = "symbol"
    · subst hSymbol
      decide
    by_cases hPrice : key = "price"
    · subst hPrice
      decide
    by_cases hNote : key = "note"
    · subst hNote
      decide
    by_cases hSize : key = "size"
    · subst hSize
      decide
    have hSignature : key ≠ "signature" := hKey
    simp [finalText?, finalValue?, busySettings, plainSettings, Ne.symm hSymbol, Ne.symm hPrice,
      Ne.symm hNote, Ne.symm hSize, hSignature.symm]
  exact ⟨hTexts, by decide, (signature_of_final_texts hTexts).1⟩

end Params

end MarketGateway.Trade
