import MarketGateway.Proofs.Json.Objects
import MarketGateway.Proofs.Wire.Frames

/-!
# Frames with and without their stream

An event comes bare, or as the `data` of an object that names its stream (`Wrapping`). Blanks around
a frame do not matter (`trim_pad`), and the wrapping is read with the event in it
(`parse_objectText`), so both frames are classified by the same object: `decode_wrapping`.
-/

namespace MarketGateway

/-! ## Blanks around a text -/

/-- White space only. -/
def Text.Blank (text : String) : Prop := ∀ c ∈ text.toList, Text.isBlank c = true

instance (text : String) : Decidable (Text.Blank text) :=
  decidable_of_iff (text.toList.all Text.isBlank = true) List.all_eq_true

theorem Text.trim_pad {before after : String} (hBefore : Text.Blank before)
    (hAfter : Text.Blank after) (text : String) :
    trim (before ++ text ++ after) = trim text := by
  rw [trim, trim, String.toList_append, String.toList_append, trimChars_pad hBefore hAfter]

namespace Market

open Json

/-! ## Wrappings -/

/-- A text that wraps an event: an object with the name of a stream, the event with blanks around
it, and maybe further members, in any order. -/
structure Wrapping (event : String) where
  name : String
  stream : MemberText
  data : MemberText
  further : List MemberText
  left : String
  right : String
  members : List MemberText
  ofStream : stream.entry = ("stream", .string name)
  ofData : data.key = "data" ∧ data.valueText = left ++ event ++ right
  blank : skipBlank left.toList = [] ∧ skipBlank right.toList = []
  apart : ∀ member ∈ further, member.key ≠ "stream" ∧ member.key ≠ "data"
  inAnyOrder : members.Perm (stream :: data :: further)

namespace Wrapping

variable {event : String} {fields : List (String × Json)}

def text (wrapping : Wrapping event) : String := objectText wrapping.members

theorem trim_text (wrapping : Wrapping event) : Text.trim wrapping.text = wrapping.text := by
  obtain ⟨cs, hText⟩ : ∃ cs, wrapping.text.toList = '\x7b' :: (cs ++ ['\x7d']) :=
    ⟨_, by rw [text, objectText, String.toList_append, String.toList_append]; rfl⟩
  rw [Text.trim, hText, trimChars_eq (by decide) (by decide), ← hText, String.ofList_toList]

theorem entry_data (wrapping : Wrapping event) (hEvent : parseInside event = .ok (.object fields)) :
    wrapping.data.entry = ("data", .object fields) := by
  obtain ⟨hKey, hText⟩ := wrapping.ofData
  have hValue := wrapping.data.readsValue
  rw [hText, parseInside_blank hEvent wrapping.blank.1 wrapping.blank.2] at hValue
  rw [MemberText.entry, hKey, ← Except.ok.inj hValue]

/-- The entries of the wrapping. -/
def entries (wrapping : Wrapping event) : List (String × Json) :=
  wrapping.members.map MemberText.entry

theorem mem_entries (wrapping : Wrapping event)
    (hEvent : parseInside event = .ok (.object fields)) {entry : String × Json} :
    entry ∈ wrapping.entries ↔ entry = ("stream", .string wrapping.name) ∨
      entry = ("data", .object fields) ∨ entry ∈ wrapping.further.map MemberText.entry := by
  rw [entries, (wrapping.inAnyOrder.map MemberText.entry).mem_iff, List.map_cons, List.map_cons,
    wrapping.ofStream, wrapping.entry_data hEvent, List.mem_cons, List.mem_cons]

theorem key_of_further (wrapping : Wrapping event) {entry : String × Json}
    (hEntry : entry ∈ wrapping.further.map MemberText.entry) :
    entry.1 ≠ "stream" ∧ entry.1 ≠ "data" := by
  obtain ⟨member, hMember, rfl⟩ := List.mem_map.mp hEntry
  exact wrapping.apart member hMember

theorem lookup_stream (wrapping : Wrapping event)
    (hEvent : parseInside event = .ok (.object fields)) :
    lookup (insertAll wrapping.entries) "stream" = some (.string wrapping.name) := by
  refine lookup_insertAll ((wrapping.mem_entries hEvent).mpr (.inl rfl)) ?_
  intro entry hEntry hKey
  rcases (wrapping.mem_entries hEvent).mp hEntry with rfl | rfl | hFurther
  · rfl
  · exact absurd hKey (show "data" ≠ "stream" by decide)
  · exact absurd hKey (wrapping.key_of_further hFurther).1

theorem lookup_data (wrapping : Wrapping event)
    (hEvent : parseInside event = .ok (.object fields)) :
    lookup (insertAll wrapping.entries) "data" = some (.object fields) := by
  refine lookup_insertAll ((wrapping.mem_entries hEvent).mpr (.inr (.inl rfl))) ?_
  intro entry hEntry hKey
  rcases (wrapping.mem_entries hEvent).mp hEntry with rfl | rfl | hFurther
  · exact absurd hKey (show "stream" ≠ "data" by decide)
  · rfl
  · exact absurd hKey (wrapping.key_of_further hFurther).2

end Wrapping

/-! ## Unwrapping -/

/-- A draft of an envelope is filled with what stands under the two keys, if each key comes once. -/
theorem fillMembers_envelope {members : List (String × Json)} (hKeys : (members.map Prod.fst).Nodup)
    {draft : Envelope.Draft}
    (hStream : ∀ v, lookup members "stream" = some v →
      draft.stream = none ∧ ∃ name, v = .string name)
    (hData : lookup members "data" ≠ none → draft.data = none) :
    Record.fillMembers Envelope.record.fields draft members =
      some ⟨((lookup members "stream").bind text?).or draft.stream,
        (lookup members "data").or draft.data⟩ := by
  induction members generalizing draft with
  | nil => rfl
  | cons member rest ih =>
    obtain ⟨key, value⟩ := member
    obtain ⟨hHead, hRest⟩ := List.nodup_cons.mp hKeys
    rw [lookup_cons] at hData
    rw [lookup_cons, lookup_cons]
    by_cases hIsStream : key = "stream"
    · subst hIsStream
      have hGone : lookup rest "stream" = none := lookup_of_not_mem hHead
      obtain ⟨hEmpty, name, rfl⟩ := hStream value (by simp [lookup_cons])
      have hNext := @ih hRest { draft with stream := some name } (by simp [hGone])
        (by simpa using hData)
      rw [hGone] at hNext
      simpa [Record.fillMembers, Envelope.record, Field.of, Form.text, Form.converted, text?,
        hEmpty] using hNext
    have hStream' : ∀ v, lookup rest "stream" = some v →
        draft.stream = none ∧ ∃ name, v = .string name := by
      intro v hv
      exact hStream v (by rw [lookup_cons, if_neg hIsStream, hv])
    by_cases hIsData : key = "data"
    · subst hIsData
      have hGone : lookup rest "data" = none := lookup_of_not_mem hHead
      have hEmpty : draft.data = none := hData (by simp)
      have hNext := @ih hRest { draft with data := some value } hStream' (by simp [hGone])
      rw [hGone] at hNext
      simpa [Record.fillMembers, Envelope.record, Field.of, Form.any, hEmpty] using hNext
    · have hNext := @ih hRest draft hStream' (by simpa [hIsData] using hData)
      rw [if_neg hIsStream, if_neg hIsData, ← hNext]
      simp [Record.fillMembers, Envelope.record, Field.of, Ne.symm hIsStream, Ne.symm hIsData]

/-- What stands under `data` is taken out of an object that names its stream. -/
theorem unwrap_insertAll {news : List (String × Json)} {name : String} {event : Json}
    (hStream : lookup (insertAll news) "stream" = some (.string name))
    (hData : lookup (insertAll news) "data" = some event) :
    unwrap (.object (insertAll news)) = .ok event := by
  have hFilled := @fillMembers_envelope _ (increasing_insertAll news).nodup Envelope.record.empty
    (fun v hv => ⟨rfl, name, Option.some.inj (hv.symm.trans hStream)⟩) (fun _ => rfl)
  have hTaken : Envelope.form.ofJson (.object (insertAll news)) = some ⟨name, event⟩ := by
    rw [hStream, hData] at hFilled
    simp only [Envelope.form, Record.form, Record.ofJson, Record.ofMembers, hFilled]
    rfl
  simp [unwrap, Json.get?, hStream, hData, shaped_eq hTaken, Except.map]

/-! ## Both frames -/

/-- A frame with blanks around an object is classified by what is unwrapped from it. -/
theorem decode_object {frame text : String} {members : List (String × Json)}
    (hTrim : Text.trim frame = text) (hParse : parse text = .ok (.object members)) :
    decode frame = unwrap (.object members) >>= classify := by
  rw [decode, hTrim, hParse]
  rfl

theorem unwrap_of_bare {fields : List (String × Json)}
    (hBare : ¬ ((lookup fields "stream").isSome = true ∧ (lookup fields "data").isSome = true)) :
    unwrap (.object fields) = .ok (.object fields) := by
  simp only [unwrap, Json.get?, Bool.and_eq_true]
  exact if_neg hBare

theorem shaped_error {α β : Type} {form : Form α} {value : Json} {f : α → β} {error : DecodeError}
    (hError : (shaped form value).map f = .error error) : error = .json .mismatched := by
  unfold shaped at hError
  split at hError
  · cases hError
  · cases hError
    rfl

/-- An object is classified unless it has not the form of what it seems to be. -/
theorem classify_error {value : Json} {error : DecodeError}
    (hError : classify value = .error error) : error = .json .mismatched := by
  unfold classify at hError
  split at hError
  · split at hError
    · exact shaped_error hError
    · split at hError
      · exact shaped_error hError
      · cases hError
  · split at hError
    · exact shaped_error hError
    · split at hError
      · exact shaped_error hError
      · cases hError

/-- **A frame means the same with and without its stream.** The text of an object, from its first
brace to its last, that leaves room for one more container and has not both a `stream` and a `data`
of its own, is decoded with the same result where it stands alone and where it is wrapped with the
name of a stream, whatever further members the wrapping has and in whatever order, and whatever
white space is around the frames. If it cannot be decoded, the fault is both times that it has not
the form of its kind. -/
theorem decode_wrapping {event : String} {fields : List (String × Json)}
    (hTrim : Text.trim event = event) (hEvent : parseInside event = .ok (.object fields))
    (hBare : ¬ ((lookup fields "stream").isSome = true ∧ (lookup fields "data").isSome = true))
    (wrapping : Wrapping event) {before after front back : String}
    (hBlank : ∀ blank ∈ [before, after, front, back], Text.Blank blank) :
    decode (front ++ wrapping.text ++ back) = decode (before ++ event ++ after) ∧
      ∀ error, decode (before ++ event ++ after) = .error error → error = .json .mismatched := by
  have hRaw : decode (before ++ event ++ after) = classify (.object fields) := by
    have hAround : Text.trim (before ++ event ++ after) = event := by
      rw [Text.trim_pad (hBlank _ (by simp)) (hBlank _ (by simp)), hTrim]
    rw [decode_object hAround (parse_of_parseInside hEvent), unwrap_of_bare hBare]
    rfl
  have hWrapped : decode (front ++ wrapping.text ++ back) = classify (.object fields) := by
    have hAround : Text.trim (front ++ wrapping.text ++ back) = wrapping.text := by
      rw [Text.trim_pad (hBlank _ (by simp)) (hBlank _ (by simp)), wrapping.trim_text]
    have hParse : parse wrapping.text = .ok (.object (insertAll wrapping.entries)) :=
      parse_objectText wrapping.members
    rw [decode_object hAround hParse,
      unwrap_insertAll (wrapping.lookup_stream hEvent) (wrapping.lookup_data hEvent)]
    rfl
  refine ⟨hWrapped.trans hRaw.symm, ?_⟩
  intro error hError
  exact classify_error (hRaw.symm.trans hError)

/-! ## A wrapped price -/

/-- A price event without a price, with an `id` and a `data` that do not tell its kind. -/
def priceless : String := "\x7b\"id\":[],\"e\":\"markPriceUpdate\",\"data\":null\x7d"

def pricelessFields : List (String × Json) :=
  [("data", .null), ("e", .string "markPriceUpdate"), ("id", .array [])]

theorem parse_priceless : parseInside priceless = .ok (.object pricelessFields) := by cbv

/-- The name of the stream, under a key with an escape. -/
def namedStream : MemberText :=
  ⟨"\"str\\u0065am\" ", "\"prices\"", "stream", .string "prices", by decide +kernel, by cbv⟩

def pricelessData : MemberText :=
  ⟨" \"data\"", " " ++ priceless ++ "\n", "data", .object pricelessFields, by decide +kernel,
    parseInside_blank parse_priceless rfl rfl⟩

def furtherMember : MemberText :=
  ⟨"\"more\"", "[[]]", "more", .array [.array []], by decide +kernel, by cbv⟩

/-- The event in front of a further member and of the name. -/
def pricelessWrapping : Wrapping priceless where
  name := "prices"
  stream := namedStream
  data := pricelessData
  further := [furtherMember]
  left := " "
  right := "\n"
  members := [pricelessData, furtherMember, namedStream]
  ofStream := rfl
  ofData := ⟨rfl, rfl⟩
  blank := ⟨rfl, rfl⟩
  apart := by simp [furtherMember]
  inAnyOrder := List.perm_append_singleton namedStream [pricelessData, furtherMember]

theorem decode_wrapping_of_priceless :
    decode ("\u2003" ++ pricelessWrapping.text ++ "\t") = decode ("" ++ priceless ++ "\u00a0") ∧
      decode ("" ++ priceless ++ "\u00a0") = .error (.json .mismatched) := by
  have hBlank : ∀ blank ∈ ["", "\u00a0", "\u2003", "\t"], Text.Blank blank := by
    decide +kernel
  obtain ⟨hSame, hFault⟩ := decode_wrapping (by decide +kernel) parse_priceless
    (by simp [pricelessFields, lookup]) pricelessWrapping hBlank
  have hFails : (decode ("" ++ priceless ++ "\u00a0")).toBool = false := by decide +kernel
  refine ⟨hSame, ?_⟩
  cases hDecode : decode ("" ++ priceless ++ "\u00a0") with
  | error error => rw [hFault error hDecode]
  | ok message =>
    rw [hDecode] at hFails
    cases hFails

end Market

end MarketGateway
