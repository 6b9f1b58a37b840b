import MarketGateway.Json.Variant
import MarketGateway.Proofs.Json.Forms

/-!
# Structures and alternatives from written texts

A structure is filled member by member from a text as it is filled from the members of a parsed
object, and value by value from an array (`Record.streams_form`); members that it does not name are
passed over. A choice between alternatives is read likewise (`Variant.streams_form`). So a form that
is put together from forms with the property `Streams` has it.
-/

namespace MarketGateway.Json

variable {σ α β : Type} {depth : Nat}

/-- The member is read from a written value as it is taken from it. -/
def Field.Streams (field : Field σ) : Prop := Json.Streams field.read field.ofJson

@[simp]
theorem Field.streams_of {form : Form β} (hForm : form.Streams) (name : String)
    (get : σ → Option β) (set : σ → β → σ) (mayEnd : Bool) :
    (Field.of name form get set mayEnd).Streams := by
  intro depth v f rest hWritable hRest h
  obtain ⟨b, hTaken, rfl⟩ := Option.map_eq_some_iff.mp h
  simp [Field.of, hForm hWritable hRest hTaken, Except.map]

/-! ## Structures -/

namespace Record

variable {record : Record σ α}

theorem colon_append (rest : List Char) : colon (':' :: rest) = .ok rest := by
  simp [colon, isBlank]

/-- One member more of a text is one member more of the parsed object. -/
theorem readMember_render {fields : List (Field σ)} (hFields : ∀ f ∈ fields, f.Streams)
    {key : String} {v : Json} {members : List (String × Json)} {draft filled : σ}
    (hWritable : Writable depth v) {rest : List Char} (hRest : Closes rest)
    (h : fillMembers fields draft ((key, v) :: members) = some filled) :
    ∃ next, readMember fields depth key draft (':' :: (renderChars v ++ rest)) = .ok (next, rest) ∧
      fillMembers fields next members = some filled := by
  rw [fillMembers] at h
  cases hFind : fields.find? (·.name == key) with
  | none =>
    rw [hFind] at h
    refine ⟨draft, ?_, h⟩
    simp [readMember, hFind, colon_append, skipValue_render hWritable hRest, bind, Except.bind,
      pure, Except.pure]
  | some field =>
    rw [hFind] at h
    cases hFilled : field.filled draft with
    | true => simp [hFilled] at h
    | false =>
      simp only [hFilled, Bool.false_eq_true, if_false] at h
      obtain ⟨set, hTaken, hFill⟩ := Option.bind_eq_some_iff.mp h
      have hRead := hFields field (List.mem_of_find?_eq_some hFind) hWritable hRest hTaken
      refine ⟨set draft, ?_, hFill⟩
      simp [readMember, hFind, hFilled, colon_append, hRead, bind, Except.bind, pure, Except.pure]

theorem readMembers_membersFrom (hFields : ∀ f ∈ record.fields, f.Streams)
    {members : List (String × Json)} (hMembers : ∀ m ∈ members, Writable depth m.2)
    {draft filled : σ} (h : fillMembers record.fields draft members = some filled)
    (fuel : Nat) (first : Bool) (rest : List Char)
    (hFuel : (membersFrom first members ++ rest).length < fuel) :
    readMembers record fuel depth first draft (membersFrom first members ++ rest) =
      record.conclude filled rest := by
  induction members generalizing draft fuel first with
  | nil =>
    obtain ⟨fuel, rfl⟩ := Nat.exists_eq_add_one_of_ne_zero (by omega : fuel ≠ 0)
    cases h
    simp [readMembers, membersFrom, isBlank]
  | cons m members ih =>
    obtain ⟨key, v⟩ := m
    obtain ⟨fuel, rfl⟩ := Nat.exists_eq_add_one_of_ne_zero (by omega : fuel ≠ 0)
    obtain ⟨hv, hMembers⟩ := List.forall_mem_cons.mp hMembers
    obtain ⟨next, hMember, hFill⟩ :=
      readMember_render hFields hv (closes_membersFrom members rest) h
    have hNext := ih hMembers hFill fuel false (by
      simp only [membersFrom, List.length_append, List.length_cons] at hFuel ⊢
      omega)
    simp only [membersFrom, renderString_append, List.append_assoc, List.cons_append] at hFuel ⊢
    rw [readMembers]
    cases first <;> simp [lead, isBlank, hMember, hNext]

theorem readValues_itemsFrom {fields : List (Field σ)} (hFields : ∀ f ∈ fields, f.Streams)
    {items : List Json} (hItems : ∀ v ∈ items, Writable depth v) {draft filled : σ}
    (h : fillValues draft fields items = some filled) {a : α}
    (hFinish : record.finish filled = some a) (first : Bool) (rest : List Char) :
    readValues record depth first draft fields (itemsFrom first items ++ rest) = .ok (a, rest) := by
  induction fields generalizing items draft first with
  | nil =>
    cases items with
    | cons => cases h
    | nil =>
      cases h
      simp [readValues, itemsFrom, conclude, hFinish, endItems_bracket, Except.map]
  | cons field fields ih =>
    obtain ⟨hField, hFields⟩ := List.forall_mem_cons.mp hFields
    cases items with
    | nil =>
      rw [fillValues] at h
      split at h
      · next hEnd =>
        have hNext := ih hFields hItems h first
        simp only [itemsFrom, List.cons_append, List.nil_append] at hNext ⊢
        simp [readValues, nextItem_bracket, hEnd, hNext]
      · cases h
    | cons v items =>
      obtain ⟨hv, hItems⟩ := List.forall_mem_cons.mp hItems
      obtain ⟨set, hTaken, hFill⟩ := Option.bind_eq_some_iff.mp h
      have hRead := hField hv (closes_itemsFrom items rest) hTaken
      have hNext := ih hFields hItems hFill false
      simp [readValues, itemsFrom, nextItem_lead first hv, hRead, hNext]

theorem streams (hFields : ∀ f ∈ record.fields, f.Streams) :
    Streams record.read record.ofJson := by
  intro depth v a rest hWritable _ h
  cases hWritable with
  | array hItems =>
    obtain ⟨filled, hFill, hFinish⟩ := Option.bind_eq_some_iff.mp h
    simpa [read, renderChars, renderItems_eq, isBlank] using
      readValues_itemsFrom hFields hItems hFill hFinish true rest
  | object hMembers =>
    obtain ⟨filled, hFill, hFinish⟩ := Option.bind_eq_some_iff.mp h
    have hRead := readMembers_membersFrom hFields hMembers hFill _ true rest (Nat.lt_succ_self _)
    rw [conclude, hFinish] at hRead
    simpa [read, renderChars, renderMembers_eq, isBlank] using hRead
  | _ => cases h

/-- **A structure whose members stream streams.** -/
theorem streams_form (hFields : ∀ f ∈ record.fields, f.Streams) : record.form.Streams :=
  streams hFields

end Record

/-! ## Alternatives -/

namespace Variant

/-- The content of the alternative is read from a written value as it is taken from it. -/
def Streams (variant : Variant α) : Prop := Json.Streams variant.read variant.ofJson

@[simp]
theorem streams_plain (name : String) (a : α) : (plain name a).Streams := by
  intro depth v b rest _ _ h
  cases v with
  | null =>
    cases h
    simp [plain, readNull, renderChars, isBlank, expectNull, Except.map]
  | _ => cases h

@[simp]
theorem streams_holding {form : Form β} (hForm : form.Streams) (name : String) (make : β → α) :
    (holding name form make).Streams := by
  intro depth v a rest hWritable hRest h
  obtain ⟨b, hTaken, rfl⟩ := Option.map_eq_some_iff.mp h
  simp [holding, hForm hWritable hRest hTaken, Except.map]

@[simp]
theorem streams_fields {record : Record σ α} (hFields : ∀ f ∈ record.fields, f.Streams)
    (name : String) : (fields name record).Streams := by
  intro depth v a rest hWritable hRest h
  cases v with
  | object members => exact Record.streams hFields hWritable hRest h
  | _ => cases h

theorem close_append (rest : List Char) : close ('\x7d' :: rest) = .ok rest := by
  simp [close, isBlank]

/-- **A choice between alternatives that stream streams.** -/
theorem streams_form {variants : List (Variant α)} (hVariants : ∀ v ∈ variants, v.Streams)
    (toJson : α → Json) : (form variants toJson).Streams := by
  intro depth v a rest hWritable hRest h
  cases hWritable with
  | string s =>
    have hText := readText_render (fun s => (find? variants s).bind (·.bare)) h depth rest
    rw [renderString_append] at hText
    simp [form, readOne, renderChars, renderString_append, isBlank, hText]
  | @object depth members hMembers =>
    obtain _ | ⟨⟨name, value⟩, _ | ⟨_, _⟩⟩ := members
    · cases h
    · -- the one member names the alternative and holds its content
      obtain ⟨variant, hFind, hTaken⟩ := Option.bind_eq_some_iff.mp h
      have hRead := hVariants variant (List.mem_of_find?_eq_some hFind)
        (hMembers _ List.mem_cons_self) (closes_membersFrom [] rest) hTaken
      have hName := readText_render (find? variants) hFind depth
        (':' :: (renderChars value ++ (membersFrom false [] ++ rest)))
      simp only [membersFrom, List.cons_append, List.nil_append] at hRead hName
      simp [form, readOne, renderChars, renderMembers_eq, membersFrom, lead, isBlank, hName, hRead,
        Record.colon_append, close_append, bind, Except.bind, pure, Except.pure]
    · cases h
  | _ => cases h

@[simp]
theorem streams_names (all : List α) (name : α → String) : (names all name).Streams := by
  refine streams_form (fun v hv => ?_) _
  obtain ⟨a, -, rfl⟩ := List.mem_map.mp hv
  exact streams_plain (name a) a

end Variant

end MarketGateway.Json
