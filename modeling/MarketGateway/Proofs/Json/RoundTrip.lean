import MarketGateway.Proofs.Decimal.Text
import MarketGateway.Proofs.Json.Records

/-!
# Values taken back from what was written

For the forms that messages are made of: a form takes from the value that it wrote what was written
(`ofJson_int64`, `ofJson_optional`, ...), the value can be read back (`writable_int64`, ...), and it
has no members to sort (`sorted_int64`, ...). A decimal has to fit and comes back without the sign
of a zero. With these rules a structure is taken back member by member, and `Form.readAll_render`
turns that into reading its text.
-/

namespace MarketGateway.Json

variable {α β : Type} {depth : Nat}

attribute [simp] Writable.null Writable.bool Writable.string

@[simp]
theorem sorted_string (s : String) : sorted (string s) = string s := rfl

@[simp]
theorem sorted_null : sorted null = null := rfl

attribute [simp] sortedMembers Record.fillMembers

@[simp]
theorem sorted_object (members : List (String × Json)) :
    sorted (object members) = object (sortedMembers [] members) := rfl

@[simp]
theorem Field.name_of {σ : Type} (name : String) (form : Form β) (get : σ → Option β)
    (set : σ → β → σ) (mayEnd : Bool) : (Field.of name form get set mayEnd).name = name := rfl

@[simp]
theorem Field.filled_of {σ : Type} (name : String) (form : Form β) (get : σ → Option β)
    (set : σ → β → σ) (mayEnd : Bool) (draft : σ) :
    (Field.of name form get set mayEnd).filled draft = (get draft).isSome := rfl

@[simp]
theorem Field.ofJson_of {σ : Type} (name : String) (form : Form β) (get : σ → Option β)
    (set : σ → β → σ) (mayEnd : Bool) (v : Json) :
    (Field.of name form get set mayEnd).ofJson v =
      (form.ofJson v).map fun b => fun draft => set draft b := rfl

namespace Form

/-! ## Single values -/

@[simp]
theorem toJson_text (s : String) : text.toJson s = string s := rfl

@[simp]
theorem ofJson_text (s : String) : text.ofJson (string s) = some s := rfl

theorem ofJson_whole {convert : Int → Option α} {write : α → Int} {a b : α}
    (h : convert (write a) = some b) :
    (whole convert write).ofJson ((whole convert write).toJson a) = some b := h

theorem writable_whole (convert : Int → Option α) {write : α → Int} {a : α}
    (h : IsWord (write a)) : Writable depth ((whole convert write).toJson a) := .int h

theorem sorted_whole (convert : Int → Option α) (write : α → Int) (a : α) :
    sorted ((whole convert write).toJson a) = (whole convert write).toJson a := rfl

@[simp]
theorem ofJson_int64 (n : Int64) : int64.ofJson (int64.toJson n) = some n := by
  have hLow := n.le_toInt
  have hHigh := n.toInt_lt
  apply ofJson_whole
  rw [if_pos (by omega), Int64.ofInt_toInt]

@[simp]
theorem writable_int64 (n : Int64) : Writable depth (int64.toJson n) := by
  have hLow := n.le_toInt
  have hHigh := n.toInt_lt
  apply writable_whole
  unfold IsWord
  omega

@[simp]
theorem sorted_int64 (n : Int64) : sorted (int64.toJson n) = int64.toJson n := sorted_whole _ _ n

@[simp]
theorem ofJson_uint64 (n : UInt64) : uint64.ofJson (uint64.toJson n) = some n := by
  have hHigh := n.toNat_lt
  apply ofJson_whole
  rw [if_pos (by omega), Int.toNat_natCast, UInt64.ofNat_toNat]

@[simp]
theorem writable_uint64 (n : UInt64) : Writable depth (uint64.toJson n) := by
  have hHigh := n.toNat_lt
  apply writable_whole
  unfold IsWord
  omega

@[simp]
theorem sorted_uint64 (n : UInt64) : sorted (uint64.toJson n) = uint64.toJson n :=
  sorted_whole _ _ n

@[simp]
theorem ofJson_uint32 (n : UInt32) : uint32.ofJson (uint32.toJson n) = some n := by
  have hHigh := n.toNat_lt
  apply ofJson_whole
  rw [if_pos (by omega), Int.toNat_natCast, UInt32.ofNat_toNat]

@[simp]
theorem writable_uint32 (n : UInt32) : Writable depth (uint32.toJson n) := by
  have hHigh := n.toNat_lt
  apply writable_whole
  unfold IsWord
  omega

@[simp]
theorem ofJson_flag (b : Bool) : flag.ofJson (flag.toJson b) = some b := rfl

@[simp]
theorem writable_flag (b : Bool) : Writable depth (flag.toJson b) := .bool b

/-! ## Decimals -/

@[simp]
theorem ofJson_decimal {d : Decimal} (h : d.Fits) :
    decimal.ofJson (decimal.toJson d) = some d.reread := Decimal.ofText?_toText h

@[simp]
theorem writable_decimal (d : Decimal) : Writable depth (decimal.toJson d) := .string d.toText

@[simp]
theorem ofJson_decimalText {d : Decimal} (h : d.Fits) :
    decimalText.ofJson (decimalText.toJson d) = some d.reread := Decimal.ofText?_toText h

@[simp]
theorem writable_decimalText (d : Decimal) : Writable depth (decimalText.toJson d) :=
  .string d.toText

@[simp]
theorem sorted_decimalText (d : Decimal) :
    sorted (decimalText.toJson d) = decimalText.toJson d := rfl

@[simp]
theorem ofJson_optionalDecimalText {o : Option Decimal} (h : ∀ d ∈ o, d.Fits) :
    optionalDecimalText.ofJson (optionalDecimalText.toJson o) = some (o.map Decimal.reread) := by
  cases o with
  | none => rfl
  | some d =>
    have hRead := Decimal.ofText?_toText (h d rfl)
    have hSome : d.toText ≠ "" := by
      intro hEmpty
      rw [hEmpty] at hRead
      cases hRead
    simp [optionalDecimalText, Json.optional, hSome, hRead]

@[simp]
theorem absent_optionalDecimalText : optionalDecimalText.absent = some none := rfl

@[simp]
theorem writable_optionalDecimalText (o : Option Decimal) :
    Writable depth (optionalDecimalText.toJson o) := by
  cases o <;> simp [optionalDecimalText, Json.optional]

@[simp]
theorem sorted_optionalDecimalText (o : Option Decimal) :
    sorted (optionalDecimalText.toJson o) = optionalDecimalText.toJson o := by
  cases o <;> rfl

/-! ## Optional values -/

theorem converted_ne_null (convert : String → Option α) (write : α → String) (a : α) :
    (converted convert write).toJson a ≠ null := Json.noConfusion

theorem whole_ne_null (convert : Int → Option α) (write : α → Int) (a : α) :
    (whole convert write).toJson a ≠ null := Json.noConfusion

/-- An optional value is taken back as the value is, as long as that is not written as `null`. -/
theorem ofJson_optional {form : Form α} {f : α → α} {o : Option α}
    (hNull : ∀ a, form.toJson a ≠ null)
    (h : ∀ a ∈ o, form.ofJson (form.toJson a) = some (f a)) :
    form.optional.ofJson (form.optional.toJson o) = some (o.map f) := by
  cases o with
  | none => rfl
  | some a =>
    have hTaken := h a rfl
    have hSome := hNull a
    simp only [optional, Json.optional, Option.map_some, Option.getD_some]
    rw [hTaken, Option.map_some]

theorem ofJson_optional_self {form : Form α} (hNull : ∀ a, form.toJson a ≠ null)
    (h : ∀ a, form.ofJson (form.toJson a) = some a) (o : Option α) :
    form.optional.ofJson (form.optional.toJson o) = some o := by
  rw [ofJson_optional (f := id) hNull fun a _ => h a, Option.map_id_fun, id]

theorem writable_optional {form : Form α} (h : ∀ a, Writable depth (form.toJson a))
    (o : Option α) : Writable depth (form.optional.toJson o) := by
  cases o with
  | none => exact .null
  | some a => exact h a

theorem sorted_optional {form : Form α} (h : ∀ a, sorted (form.toJson a) = form.toJson a)
    (o : Option α) : sorted (form.optional.toJson o) = form.optional.toJson o := by
  cases o with
  | none => rfl
  | some a => exact h a

/-! ## Lists -/

theorem ofJson_list {form : Form α} (h : ∀ a, form.ofJson (form.toJson a) = some a)
    (as : List α) : form.list.ofJson (form.list.toJson as) = some as := by
  change allSome form.ofJson (as.map form.toJson) = some as
  induction as with
  | nil => rfl
  | cons a as ih => simp [allSome, h, ih]

theorem writable_list {form : Form α} (h : ∀ a, Writable depth (form.toJson a)) (as : List α) :
    Writable (depth + 1) (form.list.toJson as) := by
  refine .array fun v hv => ?_
  obtain ⟨a, -, rfl⟩ := List.mem_map.mp hv
  exact h a

theorem sorted_list {form : Form α} (h : ∀ a, sorted (form.toJson a) = form.toJson a)
    (as : List α) : sorted (form.list.toJson as) = form.list.toJson as := by
  change array (sortedItems (as.map form.toJson)) = array (as.map form.toJson)
  congr 1
  induction as with
  | nil => rfl
  | cons a as ih => simp [sortedItems, h, ih]

/-! ## Structures and alternatives -/

@[simp]
theorem toJson_record {σ : Type} (record : Record σ α) (a : α) :
    record.form.toJson a = object (record.members a) := rfl

@[simp]
theorem ofJson_record {σ : Type} (record : Record σ α) (members : List (String × Json)) :
    record.form.ofJson (object members) =
      (Record.fillMembers record.fields record.empty members).bind record.finish := rfl

/-- An alternative with content is taken by the variant of its name. -/
theorem ofJson_variants {variants : List (Variant α)} {name : String} {variant : Variant α}
    (hFind : Variant.find? variants name = some variant) {value : Json} {a : α}
    (hTaken : variant.ofJson value = some a) (toJson : α → Json) :
    (Variant.form variants toJson).ofJson (object [(name, value)]) = some a := by
  change (Variant.find? variants name).bind (·.ofJson value) = some a
  rw [hFind, Option.bind_some, hTaken]

theorem ofJson_holding {form : Form β} {value : Json} {b : β} (h : form.ofJson value = some b)
    (name : String) (make : β → α) :
    (Variant.holding name form make).ofJson value = some (make b) :=
  congrArg (Option.map make) h

theorem ofJson_fields {σ : Type} {record : Record σ α} {members : List (String × Json)} {a : α}
    (h : record.form.ofJson (object members) = some a) (name : String) :
    (Variant.fields name record).ofJson (object members) = some a := h

/-! ## Whole texts -/

/-- **A text that a form wrote is read as what the form takes from the value.** -/
theorem readAll_render {form : Form α} (hForm : form.Streams) {v : Json} {a : α}
    (hWritable : Writable maxDepth v) (hTaken : form.ofJson v = some a) :
    readAll form.read v.render = .ok a := by
  have hRead := hForm hWritable closes_nil hTaken
  rw [List.append_nil] at hRead
  simp [readAll, render, hRead, skipBlank]

end Form

end MarketGateway.Json
