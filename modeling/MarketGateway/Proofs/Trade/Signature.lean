import MarketGateway.Proofs.Trade.Params
import MarketGateway.Trade.Signing

/-!
# What is sent is what was signed

A signature covers a line of text. Over a socket the line is not sent, but an object: `sentPairs`
reads the line's pairs back from its members, whole numbers in decimal and all sorted by name. Over
HTTP the line is the query before the last mark of the signature (`splitLast?`).

The digest is any function from a secret and a message to 32 bytes (`Signer.keyed`). That it has
bytes at all matters: an empty signature would count as absent and not be sent.
-/

namespace MarketGateway

/-! ## Texts of digests -/

theorem Digest.amp_not_mem_hexByte (b : UInt8) : '&' ∉ hexByte b := by
  have hAll : ∀ n < 256, '&' ∉ hexByte (UInt8.ofNat n) := by decide +kernel
  have hByte := hAll b.toNat b.toNat_lt
  rwa [UInt8.ofNat_toNat] at hByte

theorem Digest.amp_not_mem_hex (bytes : List UInt8) : '&' ∉ (hex bytes).toList := by
  rw [hex, String.toList_ofList, List.mem_flatMap]
  rintro ⟨b, -, hMem⟩
  exact amp_not_mem_hexByte b hMem

theorem Digest.hex_ne_empty {bytes : List UInt8} (hBytes : bytes ≠ []) : hex bytes ≠ "" := by
  obtain ⟨b, rest, rfl⟩ := List.exists_cons_of_ne_nil hBytes
  intro hEmpty
  have hChars := congrArg String.toList hEmpty
  rw [hex, String.toList_ofList, List.flatMap_cons] at hChars
  cases hChars

theorem Digest.length_hmacSha256 (key message : List UInt8) :
    (hmacSha256 key message).length = 32 := by
  simp [hmacSha256, sha256, wordBytes]

namespace Trade

open Text Params

/-- A digest of a text under a secret, in hexadecimal. -/
def hexDigest (digest : List UInt8 → List UInt8 → Vector UInt8 32) (secret message : String) :
    String :=
  Digest.hex (digest (Utf8.bytes secret) (Utf8.bytes message)).toList

theorem hexDigest_ne_empty (digest : List UInt8 → List UInt8 → Vector UInt8 32)
    (secret message : String) : hexDigest digest secret message ≠ "" := by
  refine Digest.hex_ne_empty ?_
  intro hNil
  have hLength := congrArg List.length hNil
  rw [Vector.length_toList] at hLength
  cases hLength

/-- The signer of an account under a keyed digest. -/
def Signer.keyed (digest : List UInt8 → List UInt8 → Vector UInt8 32) (apiKey secret : String) :
    Signer :=
  ⟨apiKey, hexDigest digest secret⟩

/-- HMAC-SHA256 as one of these digests. -/
def hmacDigest (key message : List UInt8) : Vector UInt8 32 :=
  ⟨⟨Digest.hmacSha256 key message⟩, Digest.length_hmacSha256 key message⟩

theorem Signer.hmac_eq_keyed (apiKey secret : String) :
    Signer.hmac apiKey secret = .keyed hmacDigest apiKey secret := rfl

/-! ## Reading an object back -/

/-- The text of a member's value: a string as it is, a whole number in decimal. -/
def sentText? : Json → Option String
  | .string s => some s
  | .number (.whole n) => some (Text.integer n)
  | _ => none

/-- The pair of a member; none for the signature. -/
def sentPair? (member : String × Json) : Option (String × String) :=
  if member.1 = signatureName then none else (sentText? member.2).map fun text => (member.1, text)

/-- The members of an object other than the signature as texts, sorted by name. -/
def sentPairs (members : List (String × Json)) : List (String × String) :=
  (members.filterMap sentPair?).mergeSort fun p q => p.1 ≤ q.1

theorem integer_natCast (n : Nat) : Text.integer n = Text.natural n := by
  simp [Text.integer]

/-- A value is rendered alike for the line and for the object. -/
theorem sentText?_toJson {value : ParamValue} {rendered : String}
    (hRender : value.render = some rendered) :
    sentText? (value.toJson rendered) = some rendered := by
  cases value with
  | text | decimal | flag => rfl
  | int n =>
    rw [ParamValue.render] at hRender
    split at hRender
    · cases hRender
    · exact hRender
  | uint n =>
    rw [ParamValue.render] at hRender
    split at hRender
    · cases hRender
    · rw [← hRender]
      exact congrArg some (integer_natCast n.toNat)

theorem sentMember?_bind (entry : String × ParamValue) :
    (sentMember? entry).bind sentPair? = signedPair? entry := by
  obtain ⟨key, value⟩ := entry
  cases hRender : value.render with
  | none => simp [sentMember?, signedPair?, hRender]
  | some rendered =>
    by_cases hKey : key = signatureName
    · simp [sentMember?, sentPair?, signedPair?, hRender, hKey]
    · simp [sentMember?, sentPair?, signedPair?, hRender, hKey, sentText?_toJson hRender]

theorem sentPairs_spec (members : List (String × Json)) :
    (sentPairs members).Perm (members.filterMap sentPair?) ∧ SortedByName (sentPairs members) := by
  refine ⟨List.mergeSort_perm _ _, ?_⟩
  let before (first second : String × String) : Bool := decide (first.1 ≤ second.1)
  have hTrans (p q r : String × String) (hpq : before p q = true) (hqr : before q r = true) :
      before p r = true := by
    simpa [before] using (of_decide_eq_true hpq).trans (of_decide_eq_true hqr)
  have hTotal (p q : String × String) : (before p q || before q p) = true := by
    simpa [before] using le_total p.1 q.1
  have hSorted := List.pairwise_mergeSort hTrans hTotal (members.filterMap sentPair?)
  exact hSorted.imp of_decide_eq_true

/-- The object of some parameters names the pairs that are signable, each once. -/
theorem sentPairs_of_entries {entries : List (String × ParamValue)}
    (hKeys : (entries.map Prod.fst).Nodup) :
    sentPairs (Json.insertAll (entries.filterMap sentMember?)) =
      sortPairs (entries.filterMap signedPair?) := by
  obtain ⟨hSent, hSorted⟩ := sentPairs_spec (Json.insertAll (entries.filterMap sentMember?))
  obtain ⟨hSigned, hOrder⟩ := sortPairs_spec (entries.filterMap signedPair?)
  have hNames : ((entries.filterMap signedPair?).map Prod.fst).Nodup :=
    (sublist_names (fun _ _ => name_of_signedPair) entries).nodup hKeys
  have hRead : (Json.insertAll (entries.filterMap sentMember?)).filterMap sentPair? |>.Perm
      (entries.filterMap signedPair?) := by
    have hMembers := (perm_members hKeys).filterMap sentPair?
    rwa [List.filterMap_filterMap, funext sentMember?_bind] at hMembers
  have hSame := hSigned.trans (hSent.trans hRead).symm
  exact (eq_of_sorted_of_perm ((hSigned.map Prod.fst).nodup_iff.mpr hNames) hOrder hSorted
    hSame).symm

/-! ## Reading a query back -/

/-- What stands before and behind the last occurrence of a mark. -/
def splitLast? (mark : List Char) : List Char → Option (List Char × List Char)
  | [] => none
  | c :: rest =>
    match splitLast? mark rest with
    | some (before, after) => some (c :: before, after)
    | none => if mark.isPrefixOf (c :: rest) then some ([], (c :: rest).drop mark.length) else none

variable {c : Char} {name after : List Char}

theorem splitLast?_of_absent {text : List Char} (hAbsent : c ∉ text) :
    splitLast? (c :: name) text = none := by
  induction text with
  | nil => rfl
  | cons first rest ih =>
    rw [List.mem_cons, not_or] at hAbsent
    obtain ⟨hNe, hRest⟩ := hAbsent
    simp [splitLast?, ih hRest, hNe]

/-- The mark is the last one if its first letter occurs neither in the rest of it nor behind it. -/
theorem splitLast?_append (before : List Char) (hName : c ∉ name) (hAfter : c ∉ after) :
    splitLast? (c :: name) (before ++ (c :: name) ++ after) = some (before, after) := by
  induction before with
  | nil =>
    have hAbsent : c ∉ name ++ after := by simp [hName, hAfter]
    have hPrefix : (c :: name).isPrefixOf (c :: (name ++ after)) = true := by
      simp [List.isPrefixOf_iff_prefix]
    rw [List.nil_append, List.cons_append, splitLast?, splitLast?_of_absent hAbsent]
    simp [hPrefix]
  | cons first rest ih =>
    simp only [List.cons_append] at ih ⊢
    rw [splitLast?, ih]

/-! ## Signed requests -/

/-- Parameters with a signature that counts as present: the object has it as a member, and the
other members are the pairs that were signable before. -/
theorem sent_of_signature {params : Params} {signature : String}
    (hKeys : (params.entries.map Prod.fst).Nodup) (hPresent : signature ≠ "") :
    ∃ members, (params.set signatureName (.text signature)).toJson = .object members ∧
      (members.map Prod.fst).Nodup ∧ (∀ member ∈ members, (sentText? member.2).isSome) ∧
      Json.lookup members signatureName = some (.string signature) ∧
      sentPairs members = params.signable := by
  have hSet : ((setEntry signatureName (.text signature) params.entries).map Prod.fst).Nodup :=
    nodup_setEntry hKeys
  have hMembers := perm_members hSet
  have hNames := (sublist_names (fun _ _ => name_of_sentMember) _).nodup hSet
  have hUnique := (hMembers.map Prod.fst).nodup_iff.mpr hNames
  refine ⟨_, toJson_eq _, hUnique, ?_, ?_, ?_⟩
  · intro member hMember
    obtain ⟨entry, -, hSent⟩ := List.mem_filterMap.mp (hMembers.mem_iff.mp hMember)
    obtain ⟨rendered, hRender, rfl⟩ := Option.map_eq_some_iff.mp hSent
    simp [sentText?_toJson hRender]
  · have hSent : sentMember? (signatureName, .text signature) =
        some (signatureName, .string signature) := by
      simp [sentMember?, ParamValue.render, ParamValue.toJson, hPresent]
    refine Json.lookup_of_mem hUnique (hMembers.mem_iff.mpr ?_)
    exact List.mem_filterMap.mpr ⟨_, mem_setEntry _ _ _, hSent⟩
  · have hIgnored : ∀ value, signedPair? (signatureName, value) = none := fun _ => if_pos rfl
    rw [Params.set, sentPairs_of_entries hSet, filterMap_setEntry hIgnored, signable_eq]

/-- **What is sent is what was signed.** Whatever the parameters, with values replaced, absent or
under the name of the signature, and whatever the digest: the members of the signed object other
than the signature, written as texts, sorted by name and form-encoded, are the line whose digest is
the signature in the object; and the text before the last mark of a signed query is the line whose
digest follows the mark. -/
theorem sent_is_signed (digest : List UInt8 → List UInt8 → Vector UInt8 32)
    (settings : List (String × ParamValue)) (apiKey secret : String) (timestamp : Int64) :
    (∃ members,
      ((Signer.keyed digest apiKey secret).signParams (ofSettings settings) timestamp).toJson =
        .object members ∧
      (members.map Prod.fst).Nodup ∧ (∀ member ∈ members, (sentText? member.2).isSome) ∧
      Json.lookup members signatureName =
        some (.string (hexDigest digest secret (FormEncoding.encode (sentPairs members))))) ∧
    ∃ line : String,
      splitLast? "&signature=".toList
        ((Signer.keyed digest apiKey secret).signedQuery (ofSettings settings) timestamp).toList =
      some (line.toList, (hexDigest digest secret line).toList) := by
  have hSettings := nodup_ofSettings settings
  constructor
  · let unsigned :=
      ((ofSettings settings).set "apiKey" (.text apiKey)).set "timestamp" (.int timestamp)
    have hKeys : (unsigned.entries.map Prod.fst).Nodup := nodup_setEntry (nodup_setEntry hSettings)
    have hPresent : (Signer.keyed digest apiKey secret).sign unsigned ≠ "" :=
      hexDigest_ne_empty digest secret _
    obtain ⟨members, hJson, hUnique, hTexts, hSignature, hPairs⟩ := sent_of_signature hKeys hPresent
    refine ⟨members, hJson, hUnique, hTexts, ?_⟩
    rw [hSignature, hPairs]
    rfl
  · refine ⟨((ofSettings settings).set "timestamp" (.int timestamp)).canonicalQuery, ?_⟩
    have hName : '&' ∉ "signature=".toList := by decide
    rw [Signer.signedQuery, String.toList_append, String.toList_append]
    exact splitLast?_append _ hName (Digest.amp_not_mem_hex _)

/-- A forged signature, a name set twice, absent values and a name with letters beyond ASCII. -/
def oddSettings : List (String × ParamValue) :=
  [("signature", .text "forged"), ("symbol", .text "ETHUSDT"), ("größe", .int (-5)),
    ("orderId", .uint 18446744073709551615), ("note", .text ""), ("symbol", .text "BTC&USDT"),
    ("reduceOnly", .flag true), ("price", .decimal ⟨false, 0, 2⟩)]

/-- Under HMAC-SHA256 the odd settings are signed by the line that is sent in front of it. -/
theorem sent_is_signed_of_oddSettings :
    Signer.hmac "key" "secret" = .keyed hmacDigest "key" "secret" ∧
    (ofSettings oddSettings).canonicalQuery =
      "gr%C3%B6%C3%9Fe=-5&orderId=18446744073709551615&reduceOnly=true&symbol=BTC%26USDT" ∧
    ∃ line : String,
      splitLast? "&signature=".toList
        ((Signer.keyed hmacDigest "key" "secret").signedQuery (ofSettings oddSettings) 0).toList =
      some (line.toList, (hexDigest hmacDigest "secret" line).toList) :=
  ⟨rfl, by decide +kernel, (sent_is_signed hmacDigest oddSettings "key" "secret" 0).2⟩

end Trade

end MarketGateway
