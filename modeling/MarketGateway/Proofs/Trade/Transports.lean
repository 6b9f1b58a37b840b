import MarketGateway.Proofs.Trade.CommandParams
import MarketGateway.Proofs.Trade.Signature
import MarketGateway.Rest.Client
import MarketGateway.Rpc.Client

/-!
# A command over either transport

A command goes out over the trading socket as the members of an object, over REST as a query. Either
way the other side reads the same pairs, the signable ones of the command, beside those of signing
(`sentPairs_command`, `queryPairs_command`), and these pairs with the method or the route tell what
the command was (`commands_told_apart`).
-/

namespace MarketGateway

open Text Trade Params

/-! ## The pairs of a signed query -/

theorem Digest.mem_hexByte {b : UInt8} {c : Char} (hMem : c ∈ hexByte b) :
    ∃ n < 16, c = if n < 10 then Char.ofNat (0x30 + n) else Char.ofNat (0x61 + (n - 10)) := by
  have hLt := b.toNat_lt
  rcases List.mem_pair.mp hMem with rfl | rfl
  · exact ⟨b.toNat / 16, by omega, rfl⟩
  · exact ⟨b.toNat % 16, by omega, rfl⟩

/-- A hexadecimal digit stands for itself in a query. -/
theorem Digest.plain_hexByte {b : UInt8} {c : Char} (hMem : c ∈ hexByte b) :
    (String.utf8EncodeChar c).flatMap FormEncoding.encodeByte = [c] := by
  have hAll : ∀ n < 16, ∀ c, c = (if n < 10 then Char.ofNat (0x30 + n)
      else Char.ofNat (0x61 + (n - 10))) →
      (String.utf8EncodeChar c).flatMap FormEncoding.encodeByte = [c] := by
    simp only [forall_eq]
    decide +kernel
  obtain ⟨n, hDigit, hChar⟩ := mem_hexByte hMem
  exact hAll n hDigit c hChar

theorem Digest.encodeText_hex (bytes : List UInt8) :
    FormEncoding.encodeText (hex bytes) = (hex bytes).toList := by
  refine FormEncoding.encodeText_of_plain fun c hc => ?_
  rw [hex, String.toList_ofList, List.mem_flatMap] at hc
  obtain ⟨b, -, hMem⟩ := hc
  exact plain_hexByte hMem

namespace Trade

variable {digest : List UInt8 → List UInt8 → Vector UInt8 32} {apiKey secret : String}

/-- The mark and the signature that end a query are the item of one more pair. -/
theorem encode_signature (message : String) :
    FormEncoding.encode [(signatureName, hexDigest digest secret message)] =
      "signature=" ++ hexDigest digest secret message := by
  have hName : FormEncoding.encodeText signatureName ++ ['='] = "signature=".toList := by
    decide +kernel
  refine String.toList_injective ?_
  rw [FormEncoding.encode, String.toList_ofList, FormEncoding.encodePairs, FormEncoding.encodePair,
    hexDigest, Digest.encodeText_hex, String.toList_append, ← hName, List.append_assoc]
  rfl

theorem decode_signedQuery (params : Params) (timestamp : Int64) :
    FormEncoding.decode ((Signer.keyed digest apiKey secret).signedQuery params timestamp) =
      (params.set "timestamp" (.int timestamp)).signable ++
        [(signatureName, (Signer.keyed digest apiKey secret).sign
          (params.set "timestamp" (.int timestamp)))] := by
  have hMark : "&signature=" = "&" ++ "signature=" := by decide
  rw [Signer.signedQuery, hMark, ← String.append_assoc, String.append_assoc,
    Signer.sign, Signer.keyed]
  simp only
  rw [← encode_signature, FormEncoding.decode_amp, FormEncoding.decode_encode, canonicalQuery,
    FormEncoding.decode_encode]

end Trade

/-! ## The pairs of a command -/

namespace TradeCommand

/-- Pairs under names other than the given ones. -/
def without (names : List String) (pairs : List (String × String)) : List (String × String) :=
  pairs.filter fun pair => decide (pair.1 ∉ names)

/-- The pairs of signing do not change those of a command. -/
theorem without_signable (command : TradeCommand) {names : List String}
    (hNames : ∀ name ∈ names, name ∈ ["apiKey", "timestamp", "signature"])
    {more : List (String × ParamValue)} (hMore : ∀ setting ∈ more, setting.1 ∈ names) :
    without names (ofSettings (command.settings ++ more)).signable = command.params.signable := by
  have hSame : without names (ofSettings (command.settings ++ more)).signable =
      without names (ofSettings command.settings).signable := by
    refine filter_signable_eq (fun key => decide (key ∉ names)) fun key hKeep _ => ?_
    have hAbsent : more.filter (·.1 == key) = [] := by
      refine List.filter_eq_nil_iff.mpr fun setting hSetting hEq => ?_
      exact of_decide_eq_true hKeep (beq_iff_eq.mp hEq ▸ hMore setting hSetting)
    simp [finalText?, finalValue?, List.filter_append, hAbsent]
  rw [hSame, params_eq, without, List.filter_eq_self]
  rintro ⟨key, text⟩ hPair
  obtain ⟨-, hText⟩ := mem_signable.mp hPair
  obtain ⟨value, hValue, -⟩ := Option.bind_eq_some_iff.mp hText
  obtain ⟨setting, hLast, -⟩ := Option.map_eq_some_iff.mp hValue
  have hMem := List.mem_filter.mp (List.mem_of_getLast? hLast)
  have hKey : setting.1 = key := beq_iff_eq.mp hMem.2
  exact decide_eq_true fun hName =>
    name_of_mem_settings command setting hMem.1 (hKey ▸ hNames key hName)

/-- **Over the socket** the members other than those of signing are the pairs of the command. -/
theorem sentPairs_command (digest : List UInt8 → List UInt8 → Vector UInt8 32)
    (apiKey secret : String) (command : TradeCommand) (timestamp : Int64) :
    ∃ members, ((Signer.keyed digest apiKey secret).signParams command.params timestamp).toJson =
        .object members ∧
      (members.map Prod.fst).Nodup ∧ (∀ member ∈ members, (sentText? member.2).isSome) ∧
      without ["apiKey", "timestamp"] (sentPairs members) = command.params.signable := by
  let unsigned := (command.params.set "apiKey" (.text apiKey)).set "timestamp" (.int timestamp)
  have hSettings : unsigned = ofSettings (command.settings ++
      [("apiKey", .text apiKey), ("timestamp", .int timestamp)]) := by
    rw [ofSettings, List.foldl_append, ← ofSettings, ← params_eq]
    rfl
  have hKeys : (unsigned.entries.map Prod.fst).Nodup := hSettings ▸ nodup_ofSettings _
  have hPresent : (Signer.keyed digest apiKey secret).sign unsigned ≠ "" :=
    hexDigest_ne_empty digest secret _
  obtain ⟨members, hJson, hUnique, hTexts, -, hPairs⟩ := sent_of_signature hKeys hPresent
  refine ⟨members, hJson, hUnique, hTexts, ?_⟩
  rw [hPairs, hSettings]
  exact without_signable command (by simp) (by simp)

/-- **Over REST** the items of the query other than those of signing are the pairs of the command. -/
theorem queryPairs_command (digest : List UInt8 → List UInt8 → Vector UInt8 32)
    (apiKey secret : String) (command : TradeCommand) (timestamp : Int64) :
    without ["timestamp", signatureName] (FormEncoding.decode
        ((Signer.keyed digest apiKey secret).signedQuery command.params timestamp)) =
      command.params.signable := by
  have hSettings : command.params.set "timestamp" (.int timestamp) =
      ofSettings (command.settings ++ [("timestamp", .int timestamp)]) := by
    rw [ofSettings, List.foldl_append, ← ofSettings, ← params_eq]
    rfl
  have hOwn : without ["timestamp", signatureName]
      (ofSettings (command.settings ++ [("timestamp", .int timestamp)])).signable =
        command.params.signable :=
    without_signable command (by simp [signatureName]) (by simp)
  rw [decode_signedQuery, hSettings]
  simpa [without] using hOwn

/-- **No command is taken for another.** Commands in which nothing that is there counts as absent and
that leave the same signable pairs under the same method of the socket, or on the same route of REST,
are the same up to the spelling of decimals. And every command leaves the same pairs on both ways: the
frame of a client holds an object whose members, read as texts and without those of signing, are the
signable pairs, and so are the items of the query without those of signing. -/
theorem commands_told_apart {a b : TradeCommand} (ha : a.Explicit) (hb : b.Explicit) :
    (a.params.signable = b.params.signable →
      RpcMethod.ofCommand a = RpcMethod.ofCommand b ∨ Route.ofCommand a = Route.ofCommand b →
      a.Same b) ∧
    ∀ (command : TradeCommand) (digest : List UInt8 → List UInt8 → Vector UInt8 32)
      (apiKey secret : String) (client : Rpc.Client) (stamp : Rpc.Stamp) (timestamp : Int64),
      client.signer = .keyed digest apiKey secret →
      (∃ members, client.requestText (.ofCommand command) command.params stamp =
          (Rpc.RequestFrame.form.toJson
            ⟨stamp.requestId, (RpcMethod.ofCommand command).name, .object members⟩).render ∧
        (members.map Prod.fst).Nodup ∧ (∀ member ∈ members, (sentText? member.2).isSome) ∧
        without ["apiKey", "timestamp"] (sentPairs members) = command.params.signable) ∧
      without ["timestamp", signatureName]
          (FormEncoding.decode (Rest.commandRequest client.signer command timestamp).query) =
        command.params.signable := by
  constructor
  · intro hPairs hWay
    have hMethod := hWay.elim id method_eq_of_route
    exact same_of_texts ha hb hMethod (sameTexts_of_signable hPairs)
  · intro command digest apiKey secret client stamp timestamp hSigner
    obtain ⟨members, hJson, hUnique, hTexts, hOwn⟩ :=
      sentPairs_command digest apiKey secret command stamp.timestamp
    refine ⟨⟨members, ?_, hUnique, hTexts, hOwn⟩, ?_⟩
    · rw [Rpc.Client.requestText, hSigner, hJson]
    · rw [hSigner]
      exact queryPairs_command digest apiKey secret command timestamp

/-- An order with every part, at a price and for a quantity spelled as given. -/
def fullOrder (quantity price : Decimal) : OrderRequest :=
  ⟨"BTCUSDT", .sell, .stop, quantity, some price, some ⟨false, 490005, 1⟩, some .gtc, true,
    some "LONG", some "grid-7"⟩

/-- Two spellings of one order. -/
theorem commands_told_apart_of_spellings :
    (placeOrder (fullOrder ⟨false, 10, 3⟩ ⟨false, 50000, 0⟩)).Explicit ∧
    (placeOrder (fullOrder ⟨false, 1, 2⟩ ⟨false, 5000000, 2⟩)).Explicit ∧
    (placeOrder (fullOrder ⟨false, 10, 3⟩ ⟨false, 50000, 0⟩)).params.signable =
      (placeOrder (fullOrder ⟨false, 1, 2⟩ ⟨false, 5000000, 2⟩)).params.signable ∧
    (placeOrder (fullOrder ⟨false, 10, 3⟩ ⟨false, 50000, 0⟩)).Same
      (placeOrder (fullOrder ⟨false, 1, 2⟩ ⟨false, 5000000, 2⟩)) := by
  have hFirst : (placeOrder (fullOrder ⟨false, 10, 3⟩ ⟨false, 50000, 0⟩)).Explicit :=
    ⟨by decide, by decide, by decide, by decide⟩
  have hSecond : (placeOrder (fullOrder ⟨false, 1, 2⟩ ⟨false, 5000000, 2⟩)).Explicit :=
    ⟨by decide, by decide, by decide, by decide⟩
  have hPairs : (placeOrder (fullOrder ⟨false, 10, 3⟩ ⟨false, 50000, 0⟩)).params.signable =
      (placeOrder (fullOrder ⟨false, 1, 2⟩ ⟨false, 5000000, 2⟩)).params.signable := by
    decide +kernel
  exact ⟨hFirst, hSecond, hPairs, (commands_told_apart hFirst hSecond).1 hPairs (.inl rfl)⟩

end TradeCommand

end MarketGateway
