import MarketGateway.Market.Decode
import MarketGateway.Proofs.Wire.Payloads

/-!
# Frames of the market data stream

A frame is parsed as a whole before its kind is told, so its members come sorted by key. The
messages of each kind are taken from their sorted members (`DepthUpdate.ofJson_byKey`, ...), and
what tells the kind is where `classify` looks for it: `DepthUpdate.decode_render`,
`MarkPriceUpdate.decode_render`, `StreamError.decode_render` and `Acknowledgement.decode_render`.
-/

namespace MarketGateway.Market

open Json

variable {α : Type} {depth : Nat}

/-! ## Parsing an object -/

theorem trimChars_eq {c d : Char} (hFirst : Text.isBlank c = false) (hLast : Text.isBlank d = false)
    (cs : List Char) : Text.trimChars (c :: (cs ++ [d])) = c :: (cs ++ [d]) := by
  simp [Text.trimChars, hFirst, hLast]

theorem membersFrom_last (first : Bool) (members : List (String × Json)) :
    ∃ cs, membersFrom first members = cs ++ ['\x7d'] := by
  induction members generalizing first with
  | nil => exact ⟨[], rfl⟩
  | cons m members ih =>
    obtain ⟨k, v⟩ := m
    obtain ⟨cs, hRest⟩ := ih false
    exact ⟨lead first ++ (renderString k ++ ':' :: (renderChars v ++ cs)),
      by simp [membersFrom, hRest]⟩

/-- A written object has no blanks around it. -/
theorem trim_render (members : List (String × Json)) :
    Text.trim (render (object members)) = render (object members) := by
  obtain ⟨cs, hText⟩ := membersFrom_last true members
  simp only [Text.trim, render, renderChars, renderMembers_eq, hText, String.toList_ofList]
  rw [trimChars_eq (by decide) (by decide)]

/-- A frame that was written from a structure holds what the sorted members are classified as,
unless they wrap an event. -/
theorem decode_record {σ : Type} {record : Record σ α} {a : α} {byKey : List (String × Json)}
    (hWritable : Writable maxDepth (record.form.toJson a))
    (hSorted : sorted (record.form.toJson a) = object byKey)
    (hBare : lookup byKey "stream" = none) :
    decode (record.form.toJson a).render = classify (object byKey) := by
  rw [Form.toJson_record] at hWritable hSorted ⊢
  rw [decode, trim_render, parse_render hWritable, hSorted]
  simp [unwrap, isObject, Json.get?, hBare, bind, Except.bind]

theorem shaped_eq {form : Form α} {v : Json} {a : α} (h : form.ofJson v = some a) :
    shaped form v = .ok a := by
  rw [shaped, h]

/-! ## Diff events -/

namespace DepthUpdate

@[simp]
theorem ofJson_sideForm (levels : List Book.Level) :
    sideForm.ofJson (sideForm.toJson levels) = some levels := Book.ofJson_levelsForm levels

@[simp]
theorem writable_sideForm (levels : List Book.Level) :
    Writable (depth + 2) (sideForm.toJson levels) := Book.writable_levelsForm levels

@[simp]
theorem sorted_sideForm (levels : List Book.Level) :
    sorted (sideForm.toJson levels) = sideForm.toJson levels := Book.sorted_levelsForm levels

theorem writable_toJson (m : DepthUpdate) : Writable (depth + 3) (form.toJson m) :=
  .object (by simp [record])

/-- The members as they are parsed. -/
def byKey (m : DepthUpdate) : List (String × Json) :=
  [("E", Form.int64.toJson m.eventTime), ("U", Form.uint64.toJson m.firstUpdateId),
    ("a", sideForm.toJson m.asks), ("b", sideForm.toJson m.bids), ("e", .string m.eventType),
    ("pu", Form.uint64.toJson m.prevLastUpdateId), ("s", .string m.symbol),
    ("u", Form.uint64.toJson m.lastUpdateId)]

theorem sorted_toJson (m : DepthUpdate) : sorted (form.toJson m) = object m.byKey := by
  simp +decide [form, record, byKey, Json.insert]

theorem ofJson_byKey (m : DepthUpdate) : form.ofJson (object m.byKey) = some m := by
  simp [form, record, byKey, Form.resolve]

/-- **A diff event is read back as a diff event.** -/
theorem decode_render {m : DepthUpdate} (hType : m.eventType = "depthUpdate") :
    decode (form.toJson m).render = .ok (.depth m) := by
  have hKind : lookup m.byKey "e" = some (.string "depthUpdate") := by
    simp [lookup, byKey, hType]
  rw [form, decode_record m.writable_toJson m.sorted_toJson (by simp [lookup, byKey]), classify,
    Json.get?, hKind]
  simp [text?, shaped_eq m.ofJson_byKey, Except.map]

end DepthUpdate

/-! ## Mark price events -/

namespace MarkPriceUpdate

/-- The same event, with decimals of the same values. -/
structure Same (m n : MarkPriceUpdate) : Prop where
  price : m.price.sameValue n.price = true
  indexPrice : Decimal.SameOptional m.indexPrice n.indexPrice
  fundingRate : Decimal.SameOptional m.fundingRate n.fundingRate
  rest : { m with price := n.price, indexPrice := n.indexPrice, fundingRate := n.fundingRate } = n

/-- The decimals of an event. -/
def decimals (m : MarkPriceUpdate) : List Decimal :=
  m.price :: (m.indexPrice.toList ++ m.fundingRate.toList)

/-- The event as it is read back. -/
def reread (m : MarkPriceUpdate) : MarkPriceUpdate :=
  { m with
    price := m.price.reread
    indexPrice := m.indexPrice.map Decimal.reread
    fundingRate := m.fundingRate.map Decimal.reread }

theorem same_reread (m : MarkPriceUpdate) : m.reread.Same m where
  price := m.price.sameValue_reread
  indexPrice := Decimal.sameOptional_reread m.indexPrice
  fundingRate := Decimal.sameOptional_reread m.fundingRate
  rest := rfl

@[simp]
theorem ofJson_timeForm (o : Option Int64) : timeForm.ofJson (timeForm.toJson o) = some o :=
  Form.ofJson_optional_self (Form.whole_ne_null _ _) Form.ofJson_int64 o

@[simp]
theorem writable_timeForm (o : Option Int64) : Writable depth (timeForm.toJson o) :=
  Form.writable_optional Form.writable_int64 o

@[simp]
theorem sorted_timeForm (o : Option Int64) : sorted (timeForm.toJson o) = timeForm.toJson o :=
  Form.sorted_optional Form.sorted_int64 o

@[simp]
theorem absent_timeForm : timeForm.absent = some none := rfl

theorem writable_present {form : Form (Option α)} {o : Option α}
    (h : Writable depth (form.toJson o)) (name : String) :
    ∀ m ∈ present name form o, Writable depth m.2 := by
  unfold present
  split <;> simp [h]

theorem writable_toJson (m : MarkPriceUpdate) : Writable (depth + 1) (form.toJson m) := by
  refine .object ?_
  simp only [record, List.forall_mem_append]
  exact ⟨⟨⟨by simp, writable_present (by simp) _⟩, writable_present (by simp) _⟩,
    writable_present (by simp) _⟩

/-- The members as they are parsed. -/
def byKey (m : MarkPriceUpdate) : List (String × Json) :=
  ("E", Form.int64.toJson m.eventTime) :: (present "T" timeForm m.nextFundingTime ++
    ("e", .string m.eventType) :: (present "i" Form.optionalDecimalText m.indexPrice ++
      ("p", Form.decimalText.toJson m.price) ::
        (present "r" Form.optionalDecimalText m.fundingRate ++ [("s", .string m.symbol)])))

theorem sorted_toJson (m : MarkPriceUpdate) : sorted (form.toJson m) = object m.byKey := by
  obtain ⟨eventType, eventTime, symbol, price, indexPrice, fundingRate, nextFundingTime⟩ := m
  cases indexPrice <;> cases fundingRate <;> cases nextFundingTime <;>
    simp +decide [form, record, byKey, present, Json.insert]

theorem ofJson_byKey {m : MarkPriceUpdate} (hFits : ∀ d ∈ m.decimals, d.Fits) :
    form.ofJson (object m.byKey) = some m.reread := by
  simp only [decimals, List.forall_mem_cons, List.forall_mem_append, Option.mem_toList] at hFits
  obtain ⟨hPrice, hIndex, hRate⟩ := hFits
  have hPriceTaken := Form.ofJson_decimalText hPrice
  have hIndexTaken := Form.ofJson_optionalDecimalText hIndex
  have hRateTaken := Form.ofJson_optionalDecimalText hRate
  obtain ⟨eventType, eventTime, symbol, price, indexPrice, fundingRate, nextFundingTime⟩ := m
  cases indexPrice <;> cases fundingRate <;> cases nextFundingTime <;>
    simp [form, record, byKey, present, Form.resolve, reread, hPriceTaken, hIndexTaken, hRateTaken]

/-- **A mark price event is read back as a mark price event**, its decimals by value. -/
theorem decode_render {m : MarkPriceUpdate} (hType : m.eventType = "markPriceUpdate")
    (hFits : ∀ d ∈ m.decimals, d.Fits) :
    decode (form.toJson m).render = .ok (.markPrice m.reread) := by
  have hKind : lookup m.byKey "e" = some (.string "markPriceUpdate") := by
    rw [byKey, hType]
    cases m.nextFundingTime <;> simp [lookup, present]
  have hBare : lookup m.byKey "stream" = none := by
    rw [byKey]
    cases m.nextFundingTime <;> cases m.indexPrice <;> cases m.fundingRate <;>
      simp [lookup, present]
  rw [form, decode_record m.writable_toJson m.sorted_toJson hBare, classify, Json.get?, hKind]
  simp [text?, shaped_eq (ofJson_byKey hFits), Except.map]

end MarkPriceUpdate

/-! ## Errors and acknowledgements -/

end MarketGateway.Market

namespace MarketGateway.ExchangeError

open Json

@[simp]
theorem ofJson_toJson (e : ExchangeError) : form.ofJson (form.toJson e) = some e := by
  simp [form, record]

@[simp]
theorem writable_toJson {depth : Nat} (e : ExchangeError) : Writable (depth + 1) (form.toJson e) :=
  .object (by simp [record])

@[simp]
theorem sorted_toJson (e : ExchangeError) : sorted (form.toJson e) = form.toJson e := by
  simp +decide [form, record, Json.insert]

end MarketGateway.ExchangeError

namespace MarketGateway.Market

open Json

variable {depth : Nat}

namespace StreamError

@[simp]
theorem ofJson_idForm (o : Option UInt64) : idForm.ofJson (idForm.toJson o) = some o :=
  Form.ofJson_optional_self (Form.whole_ne_null _ _) Form.ofJson_uint64 o

@[simp]
theorem writable_idForm (o : Option UInt64) : Writable depth (idForm.toJson o) :=
  Form.writable_optional Form.writable_uint64 o

@[simp]
theorem sorted_idForm (o : Option UInt64) : sorted (idForm.toJson o) = idForm.toJson o :=
  Form.sorted_optional Form.sorted_uint64 o

theorem writable_toJson (e : StreamError) : Writable (depth + 2) (form.toJson e) :=
  .object (by simp [record])

theorem sorted_toJson (e : StreamError) : sorted (form.toJson e) = form.toJson e := by
  simp +decide [form, record, Json.insert]

theorem ofJson_toJson (e : StreamError) : form.ofJson (form.toJson e) = some e := by
  simp [form, record, Form.resolve]

/-- **An error is read back as an error.** -/
theorem decode_render (e : StreamError) : decode (form.toJson e).render = .ok (.error e) := by
  have hKind : lookup (record.members e) "e" = none := by simp [lookup, record]
  have hError : (lookup (record.members e) "error").isSome := by simp [lookup, record]
  have hTaken : shaped form (object (record.members e)) = .ok e := shaped_eq e.ofJson_toJson
  rw [form, decode_record e.writable_toJson e.sorted_toJson (by simp [lookup, record]), classify]
  simp [Json.get?, hKind, hError, hTaken, Except.map]

end StreamError

namespace Acknowledgement

/-- The answer to a request that is granted. -/
def granted (id : UInt64) : Acknowledgement := ⟨none, id⟩

@[simp]
theorem toJson_resultForm : resultForm.toJson none = null := rfl

@[simp]
theorem ofJson_resultForm : resultForm.ofJson null = some none := rfl

theorem writable_toJson (id : UInt64) : Writable (depth + 1) (form.toJson (granted id)) :=
  .object (by simp [record, granted])

/-- The members as they are parsed. -/
def byKey (id : UInt64) : List (String × Json) :=
  [("id", Form.uint64.toJson id), ("result", null)]

theorem sorted_toJson (id : UInt64) : sorted (form.toJson (granted id)) = object (byKey id) := by
  simp +decide [form, record, granted, byKey, Json.insert]

theorem ofJson_byKey (id : UInt64) : form.ofJson (object (byKey id)) = some (granted id) := by
  simp [form, record, byKey, Form.resolve, granted]

/-- **An acknowledgement without a result is read back as an acknowledgement.** -/
theorem decode_render (id : UInt64) :
    decode (form.toJson (granted id)).render = .ok (.ack (granted id)) := by
  have hKind : lookup (byKey id) "e" = none := by simp [lookup, byKey]
  have hError : lookup (byKey id) "error" = none := by simp [lookup, byKey]
  have hId : (lookup (byKey id) "id").isSome := by simp [lookup, byKey]
  rw [form, decode_record (writable_toJson id) (sorted_toJson id) (by simp [lookup, byKey]),
    classify]
  simp only [Json.get?, hKind, hError, hId, Option.bind_none, Option.isSome_none,
    Bool.false_eq_true, if_true, if_false]
  rw [shaped_eq (ofJson_byKey id)]
  rfl

end Acknowledgement

end MarketGateway.Market
