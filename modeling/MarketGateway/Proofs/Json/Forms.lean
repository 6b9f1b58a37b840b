import MarketGateway.Json.DecimalForm
import MarketGateway.Proofs.Json.Values

/-!
# The two ways to read a form

A form reads a value from a text as it streams (`Form.read`) or takes it from a value that was
parsed (`Form.ofJson`). On a text that was written the first gives whatever the second takes from
the value behind it (`Streams`). The forms of single values have the property, and the forms of
optional values, lists and pairs keep it.
-/

namespace MarketGateway.Json

/-- **Reading a written value as it streams gives what is taken from the value**, and leaves what
follows. -/
def Streams {α : Type} (read : Reader α) (ofJson : Json → Option α) : Prop :=
  ∀ ⦃depth v a rest⦄, Writable depth v → Closes rest → ofJson v = some a →
    read depth (renderChars v ++ rest) = .ok (a, rest)

/-- The form reads written values as it takes them. -/
def Form.Streams {α : Type} (form : Form α) : Prop := Json.Streams form.read form.ofJson

variable {α β : Type}

/-! ## Single values -/

theorem readText_render (convert : String → Option α) {s : String} {a : α}
    (h : convert s = some a) (depth : Nat) (rest : List Char) :
    readText convert depth (renderString s ++ rest) = .ok (a, rest) := by
  simp [readText, renderString_append, isBlank, h]

theorem expectNull (rest : List Char) :
    expectWord ['u', 'l', 'l'] ('u' :: 'l' :: 'l' :: rest) = .ok rest :=
  expectWord_append ['u', 'l', 'l'] rest

namespace Form

theorem streams_converted (convert : String → Option α) (write : α → String) :
    (converted convert write).Streams := by
  intro depth v a rest _ _ h
  obtain ⟨s, hText, hConvert⟩ := Option.bind_eq_some_iff.mp h
  cases v with
  | string => cases hText; exact readText_render convert hConvert depth rest
  | _ => cases hText

@[simp]
theorem streams_text : text.Streams := streams_converted some id

@[simp]
theorem streams_decimalText : decimalText.Streams := streams_converted _ _

theorem streams_whole (convert : Int → Option α) (write : α → Int) :
    (whole convert write).Streams := by
  intro depth v a rest hWritable hRest h
  cases hWritable with
  | @int _ n hWord =>
    replace h : convert n = some a := h
    rcases integer_cases hWord hRest with ⟨cs, hText, hRead, -⟩ | ⟨c, cs, hText, hDigit, hRead, -⟩
    · simp [whole, renderChars, hText, hRead, isBlank, h]
    · obtain ⟨hBlank, hMark⟩ := digit_facts hDigit
      simp only [List.mem_cons, not_or] at hMark
      simp [whole, renderChars, hText, hRead, hBlank, hMark, hDigit, h]
  | _ => cases h

@[simp]
theorem streams_int64 : int64.Streams := streams_whole _ _

@[simp]
theorem streams_uint64 : uint64.Streams := streams_whole _ _

@[simp]
theorem streams_uint32 : uint32.Streams := streams_whole _ _

@[simp]
theorem streams_flag : flag.Streams := by
  intro depth v a rest _ _ h
  cases v with
  | bool b =>
    cases h
    cases a <;> simp [flag, renderChars, isBlank, expectWord, Except.map]
  | _ => cases h

@[simp]
theorem streams_decimal : decimal.Streams := by
  intro depth v a rest hWritable hRest h
  cases hWritable with
  | string s =>
    have hText := readText_render Decimal.ofText? h depth rest
    rw [renderString_append] at hText
    simp [decimal, renderChars, renderString_append, isBlank, hText]
  | @int _ n hWord =>
    replace h : decimalOfNumber (.whole n) = some a := h
    rcases integer_cases hWord hRest with ⟨cs, hText, hRead, -⟩ | ⟨c, cs, hText, hDigit, hRead, -⟩
    · simp [decimal, renderChars, hText, hRead, isBlank, h]
    · obtain ⟨hBlank, hMark⟩ := digit_facts hDigit
      simp only [List.mem_cons, not_or] at hMark
      simp [decimal, renderChars, hText, hRead, hBlank, hMark, hDigit, h]
  | _ => cases h

/-! ## Optional values -/

@[simp]
theorem streams_optional {form : Form α} (hForm : form.Streams) : form.optional.Streams := by
  intro depth v a rest hWritable hRest h
  by_cases hNull : v = null
  · subst hNull
    cases h
    simp [optional, renderChars, isBlank, expectNull, Except.map]
  · have hSome : (form.ofJson v).map some = some a := by
      cases v with
      | null => exact absurd rfl hNull
      | _ => exact h
    obtain ⟨b, hTaken, rfl⟩ := Option.map_eq_some_iff.mp hSome
    have hRead := hForm hWritable hRest hTaken
    obtain ⟨c, cs, hText, hBlank, -, hLetter⟩ := renderChars_head hWritable
    rw [hText, List.cons_append] at hRead ⊢
    simp only [optional, skipBlank_cons hBlank]
    split
    · next hHead => exact absurd (List.cons.inj hHead).1 (hLetter hNull)
    · next hHead => simp [hRead, Except.map]

theorem streams_mapped {form : Form α} (hForm : form.Streams) (there : α → β) (back : β → α) :
    (form.mapped there back).Streams := by
  intro depth v b rest hWritable hRest h
  obtain ⟨a, hTaken, rfl⟩ := Option.map_eq_some_iff.mp h
  simp [mapped, hForm hWritable hRest hTaken, Except.map]

end Form

/-! ## Arrays -/

variable {depth : Nat} {v : Json}

theorem nextItem_lead (first : Bool) (h : Writable depth v) (rest : List Char) :
    nextItem first (lead first ++ (renderChars v ++ rest)) =
      .ok (some (renderChars v ++ rest), renderChars v ++ rest) := by
  obtain ⟨c, cs, hText, hBlank, hBracket, -⟩ := renderChars_head h
  rw [hText]
  cases first <;> simp [nextItem, lead, isBlank, skipBlank_cons hBlank, hBracket]

theorem nextItem_bracket (first : Bool) (rest : List Char) :
    nextItem first (']' :: rest) = .ok (none, ']' :: rest) := by
  simp [nextItem, isBlank]

theorem endItems_bracket (rest : List Char) : endItems (']' :: rest) = .ok rest := by
  simp [endItems, isBlank]

/-- What is inside an array is read with one container fewer to open. -/
theorem insideArray_render (inside : Reader α) (depth : Nat) (items : List Json)
    (rest : List Char) :
    insideArray inside (depth + 1) (renderChars (array items) ++ rest) =
      inside depth (itemsFrom true items ++ rest) := by
  simp [insideArray, renderChars, renderItems_eq, isBlank]

theorem readListItems_itemsFrom {form : Form α} (hForm : form.Streams) {items : List Json}
    {taken : List α} (hItems : ∀ v ∈ items, Writable depth v)
    (hTaken : allSome form.ofJson items = some taken) (fuel : Nat) (first : Bool) (acc : List α)
    (rest : List Char) (hFuel : (itemsFrom first items ++ rest).length < fuel) :
    readListItems form.read fuel depth first acc (itemsFrom first items ++ rest) =
      .ok (acc.reverse ++ taken, rest) := by
  induction items generalizing fuel first acc taken with
  | nil =>
    obtain ⟨fuel, rfl⟩ := Nat.exists_eq_add_one_of_ne_zero (by omega : fuel ≠ 0)
    cases hTaken
    simp [readListItems, itemsFrom, nextItem_bracket, endItems_bracket, Except.map]
  | cons v items ih =>
    obtain ⟨fuel, rfl⟩ := Nat.exists_eq_add_one_of_ne_zero (by omega : fuel ≠ 0)
    obtain ⟨hv, hItems⟩ := List.forall_mem_cons.mp hItems
    obtain ⟨a, hTakenV, hTaken⟩ := Option.bind_eq_some_iff.mp hTaken
    obtain ⟨as, hTakenRest, hCons⟩ := Option.bind_eq_some_iff.mp hTaken
    cases hCons
    have hRead := hForm hv (closes_itemsFrom items rest) hTakenV
    obtain ⟨c, cs, hText, -⟩ := renderChars_head hv
    have hNext := ih hItems hTakenRest fuel false (a :: acc) (by
      simp only [itemsFrom, hText, List.length_append, List.length_cons] at hFuel ⊢
      omega)
    simp [readListItems, itemsFrom, nextItem_lead first hv, hRead, hNext]

namespace Form

theorem streams_list {form : Form α} (hForm : form.Streams) : form.list.Streams := by
  intro depth v as rest hWritable _ h
  cases hWritable with
  | array hItems =>
    simp only [list, insideArray_render]
    exact readListItems_itemsFrom hForm hItems h _ true [] rest (Nat.lt_succ_self _)
  | _ => cases h

theorem streams_pair {form : Form α} (hForm : form.Streams) : form.pair.Streams := by
  intro depth v p rest hWritable _ h
  cases hWritable with
  | @array depth items hItems =>
    simp only [pair, insideArray_render]
    match items, hItems, h with
    | [u, w], hItems, h =>
      obtain ⟨a, hTakenU, h⟩ := Option.bind_eq_some_iff.mp h
      obtain ⟨b, hTakenW, hPair⟩ := Option.bind_eq_some_iff.mp h
      cases hPair
      obtain ⟨hu, hItems⟩ := List.forall_mem_cons.mp hItems
      obtain ⟨hw, -⟩ := List.forall_mem_cons.mp hItems
      have hReadU := hForm hu (closes_itemsFrom [w] rest) hTakenU
      have hReadW := hForm hw (closes_itemsFrom [] rest) hTakenW
      simp only [itemsFrom, List.append_assoc, List.cons_append, List.nil_append]
        at hReadU hReadW ⊢
      simp [nextItem_lead true hu, nextItem_lead false hw, hReadU, hReadW, endItems_bracket,
        Except.map]
  | _ => cases h

end Form

end MarketGateway.Json
