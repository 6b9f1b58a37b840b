import Mathlib.Tactic.FinCases
import MarketGateway.Json.Parser
import MarketGateway.Proofs.Json.Scalars

/-!
# Reading values that were written

A value can be read back when its numbers are whole and fit 64 bits, and when its containers are not
nested deeper than the reader allows (`Writable`). Such a value comes back with the members of its
objects sorted by key, as the reader keeps them (`sorted`):

* `readValue_render`, by induction on the value, and from it `parse_render` for a whole text;
* `skipValue_render`: a reader that does not want the value finds its end at the same place.
-/

namespace MarketGateway.Json

/-- A value that can be written and read back with so many containers open at once. -/
inductive Writable : Nat → Json → Prop
  | null {depth : Nat} : Writable depth null
  | bool {depth : Nat} (b : Bool) : Writable depth (bool b)
  | int {depth : Nat} {n : Int} (hWord : IsWord n) : Writable depth (number (.whole n))
  | string {depth : Nat} (s : String) : Writable depth (string s)
  | array {depth : Nat} {items : List Json} (hItems : ∀ v ∈ items, Writable depth v) :
    Writable (depth + 1) (array items)
  | object {depth : Nat} {members : List (String × Json)}
    (hMembers : ∀ m ∈ members, Writable depth m.2) : Writable (depth + 1) (object members)

mutual

/-- The value as the reader keeps it: the members of objects are sorted by key. -/
def sorted : Json → Json
  | array items => array (sortedItems items)
  | object members => object (sortedMembers [] members)
  | v => v

def sortedItems : List Json → List Json
  | [] => []
  | v :: rest => sorted v :: sortedItems rest

/-- Puts members one after another among those that are sorted already. -/
def sortedMembers (acc : List (String × Json)) : List (String × Json) → List (String × Json)
  | [] => acc
  | (k, v) :: rest => sortedMembers (insert k (sorted v) acc) rest

end

/-! ## The parts of a written container -/

/-- What stands in front of an item or a member: a comma, unless it is the first. -/
def lead (first : Bool) : List Char := if first then [] else [',']

/-- The items up to the closing bracket, from the first on or behind another. -/
def itemsFrom (first : Bool) : List Json → List Char
  | [] => [']']
  | v :: rest => lead first ++ (renderChars v ++ itemsFrom false rest)

/-- The members up to the closing brace, from the first on or behind another. -/
def membersFrom (first : Bool) : List (String × Json) → List Char
  | [] => ['\x7d']
  | (k, v) :: rest =>
    lead first ++ (renderString k ++ ':' :: (renderChars v ++ membersFrom false rest))

theorem renderItems_eq (items : List Json) : renderItems items = itemsFrom true items := by
  induction items with
  | nil => simp [renderItems, itemsFrom]
  | cons v items ih => cases items <;> simp_all [renderItems, itemsFrom, lead]

theorem renderMembers_eq (members : List (String × Json)) :
    renderMembers members = membersFrom true members := by
  induction members with
  | nil => simp [renderMembers, membersFrom]
  | cons m members ih => cases members <;> simp_all [renderMembers, membersFrom, lead]

theorem closes_itemsFrom (items : List Json) (rest : List Char) :
    Closes (itemsFrom false items ++ rest) := by
  cases items with
  | nil => exact closes_bracket _
  | cons => exact closes_comma _

theorem closes_membersFrom (members : List (String × Json)) (rest : List Char) :
    Closes (membersFrom false members ++ rest) := by
  cases members with
  | nil => exact closes_brace _
  | cons => exact closes_comma _

/-- A digit is neither a blank nor one of the marks of the grammar. -/
theorem digit_facts {c : Char} (h : (digit? c).isSome) :
    isBlank c = false ∧ c ∉ ['[', ']', '\x7b', '\x7d', '"', 'n', 't', 'f', '-'] := by
  have hDigit : '0' ≤ c ∧ c ≤ '9' := by
    by_contra hNot
    simp [digit?, hNot] at h
  constructor
  · by_contra hBlank
    simp only [isBlank, Bool.not_eq_false, Bool.or_eq_true, beq_iff_eq] at hBlank
    rcases hBlank with ((rfl | rfl) | rfl) | rfl <;> exact absurd hDigit (by decide)
  · intro hMem
    fin_cases hMem <;> exact absurd hDigit (by decide)

/-- A written value begins with a character that is no blank and no closing bracket, and only
`null` begins as `null` does. -/
theorem renderChars_head {depth : Nat} {v : Json} (h : Writable depth v) :
    ∃ c cs, renderChars v = c :: cs ∧ isBlank c = false ∧ c ≠ ']' ∧ (v ≠ null → c ≠ 'n') := by
  cases h with
  | null => exact ⟨_, _, rfl, rfl, by decide, fun h => absurd rfl h⟩
  | bool b => cases b <;> exact ⟨_, _, rfl, rfl, by decide, fun _ => by decide⟩
  | string s => exact ⟨_, _, rfl, rfl, by decide, fun _ => by decide⟩
  | array => exact ⟨_, _, rfl, rfl, by decide, fun _ => by decide⟩
  | object => exact ⟨_, _, rfl, rfl, by decide, fun _ => by decide⟩
  | int hWord =>
    rcases integer_cases hWord closes_nil with ⟨cs, hText, -⟩ | ⟨c, cs, hText, hDigit, -⟩
    · exact ⟨'-', cs, by simpa [renderChars] using hText, rfl, by decide, fun _ => by decide⟩
    · obtain ⟨hBlank, hMark⟩ := digit_facts hDigit
      refine ⟨c, cs, by simpa [renderChars] using hText, hBlank, ?_, fun _ => ?_⟩ <;>
        rintro rfl <;> simp at hMark

/-- A written value is not empty, so fuel for its characters is some fuel. -/
theorem fuel_succ {depth fuel : Nat} {v : Json} {rest : List Char} (h : Writable depth v)
    (hFuel : 2 * (renderChars v ++ rest).length ≤ fuel) : ∃ n, fuel = n + 1 := by
  obtain ⟨c, cs, hText, -⟩ := renderChars_head h
  apply Nat.exists_eq_add_one_of_ne_zero
  rw [hText, List.cons_append, List.length_cons] at hFuel
  omega

/-! ## Reading -/

/-- The value is read back wherever it was written, with fuel for every character twice. -/
def ReadBack (depth : Nat) (v : Json) : Prop :=
  ∀ fuel rest, Closes rest → 2 * (renderChars v ++ rest).length ≤ fuel →
    readValue fuel depth (renderChars v ++ rest) = .ok (sorted v, rest)

variable {depth : Nat}

theorem ReadBack.of_succ {v : Json} (h : Writable depth v)
    (hRead : ∀ fuel rest, Closes rest → 2 * (renderChars v ++ rest).length ≤ fuel + 1 →
      readValue (fuel + 1) depth (renderChars v ++ rest) = .ok (sorted v, rest)) :
    ReadBack depth v := by
  intro fuel rest hRest hFuel
  obtain ⟨fuel, rfl⟩ := fuel_succ h hFuel
  exact hRead fuel rest hRest hFuel

theorem readItems_itemsFrom {items : List Json} (hItems : ∀ v ∈ items, Writable depth v)
    (hRead : ∀ v ∈ items, ReadBack depth v) (fuel : Nat) (first : Bool) (acc : List Json)
    (rest : List Char) (hFuel : 2 * (itemsFrom first items ++ rest).length + 1 ≤ fuel) :
    readItems fuel depth first acc (itemsFrom first items ++ rest) =
      .ok (array (acc.reverse ++ sortedItems items), rest) := by
  induction items generalizing fuel first acc with
  | nil =>
    obtain ⟨fuel, rfl⟩ := Nat.exists_eq_add_one_of_ne_zero (by omega : fuel ≠ 0)
    simp [itemsFrom, readItems, isBlank, sortedItems]
  | cons v items ih =>
    obtain ⟨fuel, rfl⟩ := Nat.exists_eq_add_one_of_ne_zero (by omega : fuel ≠ 0)
    obtain ⟨hv, hItems⟩ := List.forall_mem_cons.mp hItems
    obtain ⟨hReadV, hRead⟩ := List.forall_mem_cons.mp hRead
    obtain ⟨c, cs, hText, hBlank, hBracket, -⟩ := renderChars_head hv
    have hValue := hReadV fuel (itemsFrom false items ++ rest) (closes_itemsFrom _ _)
    have hNext := ih hItems hRead fuel false (sorted v :: acc)
    simp only [itemsFrom, List.cons_append, List.append_assoc, List.length_cons,
      List.length_append, hText] at hFuel hValue hNext ⊢
    rw [readItems]
    cases first <;>
      simp [lead, isBlank, skipBlank_cons hBlank, hBracket, hValue (by omega), hNext (by omega),
        sortedItems]

theorem readMembers_membersFrom {members : List (String × Json)}
    (hRead : ∀ m ∈ members, ReadBack depth m.2) (fuel : Nat) (first : Bool)
    (acc : List (String × Json)) (rest : List Char)
    (hFuel : 2 * (membersFrom first members ++ rest).length + 1 ≤ fuel) :
    readMembers fuel depth first acc (membersFrom first members ++ rest) =
      .ok (object (sortedMembers acc members), rest) := by
  induction members generalizing fuel first acc with
  | nil =>
    obtain ⟨fuel, rfl⟩ := Nat.exists_eq_add_one_of_ne_zero (by omega : fuel ≠ 0)
    simp [membersFrom, readMembers, isBlank, sortedMembers]
  | cons m members ih =>
    obtain ⟨k, v⟩ := m
    obtain ⟨fuel, rfl⟩ := Nat.exists_eq_add_one_of_ne_zero (by omega : fuel ≠ 0)
    obtain ⟨hReadV, hRead⟩ := List.forall_mem_cons.mp hRead
    have hValue := hReadV fuel (membersFrom false members ++ rest) (closes_membersFrom _ _)
    have hNext := ih hRead fuel false (insert k (sorted v) acc)
    simp only [membersFrom, renderString_append, List.cons_append, List.append_assoc,
      List.length_cons, List.length_append] at hFuel hValue hNext ⊢
    rw [readMembers]
    cases first <;>
      simp [lead, isBlank, hValue (by omega), hNext (by omega), sortedMembers]

/-- **A value is read back as it was written**, with the members of its objects sorted. -/
theorem readValue_render {v : Json} (h : Writable depth v) : ReadBack depth v := by
  induction h with
  | null =>
    refine .of_succ .null fun fuel rest _ _ => ?_
    simp [renderChars, readValue, isBlank, expectWord, Except.map, sorted]
  | bool b =>
    refine .of_succ (.bool b) fun fuel rest _ _ => ?_
    cases b <;> simp [renderChars, readValue, isBlank, expectWord, Except.map, sorted]
  | string s =>
    refine .of_succ (.string s) fun fuel rest _ _ => ?_
    simp [renderChars, renderString_append, readValue, isBlank, Except.map, sorted]
  | int hWord =>
    refine .of_succ (.int hWord) fun fuel rest hRest _ => ?_
    rw [renderChars]
    rcases integer_cases hWord hRest with ⟨cs, hText, hRead, -⟩ | ⟨c, cs, hText, hDigit, hRead, -⟩
    · simp [hText, hRead, readValue, isBlank, Except.map, sorted]
    · obtain ⟨hBlank, hMark⟩ := digit_facts hDigit
      simp only [List.mem_cons, not_or] at hMark
      simp [hText, hRead, hBlank, hMark, hDigit, readValue, Except.map, sorted]
  | array hItems ih =>
    refine .of_succ (.array hItems) fun fuel rest _ hFuel => ?_
    simp only [renderChars, List.cons_append, List.length_cons] at hFuel ⊢
    rw [renderItems_eq] at hFuel ⊢
    simp [readValue, isBlank, readItems_itemsFrom hItems ih fuel true [] rest (by omega), sorted]
  | object hMembers ih =>
    refine .of_succ (.object hMembers) fun fuel rest _ hFuel => ?_
    simp only [renderChars, List.cons_append, List.length_cons] at hFuel ⊢
    rw [renderMembers_eq] at hFuel ⊢
    simp [readValue, isBlank, readMembers_membersFrom ih fuel true [] rest (by omega), sorted]

/-- **A written text is read as the value it was written from**, with the members of its objects
sorted. -/
theorem parse_render {v : Json} (h : Writable maxDepth v) : parse v.render = .ok (sorted v) := by
  have hRead := readValue_render h (2 * (renderChars v ++ []).length + 2) [] closes_nil (by omega)
  rw [List.append_nil] at hRead
  simp [parse, readAll, anyValue, render, hRead, skipBlank]

/-! ## Passing over -/

/-- The value is passed over wherever it was written, whatever containers are open. -/
def PassedOver (v : Json) : Prop :=
  ∀ fuel stack rest, Closes rest → 2 * (renderChars v ++ rest).length ≤ fuel →
    ∃ left, 2 * rest.length + 1 ≤ left ∧
      skip fuel .value stack (renderChars v ++ rest) = skip left .after stack rest

theorem PassedOver.of_succ {v : Json} (h : Writable depth v)
    (hPass : ∀ fuel stack rest, Closes rest → 2 * (renderChars v ++ rest).length ≤ fuel + 1 →
      ∃ left, 2 * rest.length + 1 ≤ left ∧
        skip (fuel + 1) .value stack (renderChars v ++ rest) = skip left .after stack rest) :
    PassedOver v := by
  intro fuel stack rest hRest hFuel
  obtain ⟨fuel, rfl⟩ := fuel_succ h hFuel
  exact hPass fuel stack rest hRest hFuel

/-- Where the skipping reader stands in front of an item or a member. -/
def between (first : Bool) : SkipState := if first then .opened else .after

theorem between_false : between false = .after := rfl

theorem skip_itemsFrom {items : List Json} (hItems : ∀ v ∈ items, Writable depth v)
    (hPass : ∀ v ∈ items, PassedOver v) (fuel : Nat) (first : Bool) (stack : List Frame)
    (rest : List Char) (hFuel : 2 * (itemsFrom first items ++ rest).length + 1 ≤ fuel) :
    ∃ left, 2 * rest.length + 1 ≤ left ∧
      skip fuel (between first) (.array :: stack) (itemsFrom first items ++ rest) =
        skip left .after stack rest := by
  induction items generalizing fuel first with
  | nil =>
    obtain ⟨fuel, rfl⟩ := Nat.exists_eq_add_one_of_ne_zero (by omega : fuel ≠ 0)
    simp only [itemsFrom, List.cons_append, List.nil_append, List.length_cons] at hFuel ⊢
    exact ⟨fuel, by omega, by cases first <;> simp [between, skip, isBlank]⟩
  | cons v items ih =>
    obtain ⟨fuel, rfl⟩ := Nat.exists_eq_add_one_of_ne_zero (by omega : fuel ≠ 0)
    obtain ⟨hv, hItems⟩ := List.forall_mem_cons.mp hItems
    obtain ⟨hPassV, hPass⟩ := List.forall_mem_cons.mp hPass
    obtain ⟨c, cs, hText, hBlank, hBracket, -⟩ := renderChars_head hv
    simp only [itemsFrom, List.append_assoc] at hFuel ⊢
    obtain ⟨left, hLeft, hValue⟩ := hPassV fuel (.array :: stack)
      (itemsFrom false items ++ rest) (closes_itemsFrom _ _)
      (by rw [List.length_append] at hFuel; omega)
    obtain ⟨left', hLeft', hNext⟩ := ih hItems hPass left false hLeft
    rw [between_false] at hNext
    rw [hText, List.cons_append] at hValue ⊢
    refine ⟨left', hLeft', ?_⟩
    cases first <;>
      simp [between, lead, skip, isBlank, skipBlank_cons hBlank, hBracket, hValue, hNext]

theorem skipKey_render (k : String) (rest : List Char) :
    skipKey (renderString k ++ ':' :: rest) = .ok rest := by
  simp [skipKey, renderString_append, isBlank, bind, Except.bind]

theorem skip_membersFrom {members : List (String × Json)}
    (hPass : ∀ m ∈ members, PassedOver m.2) (fuel : Nat) (first : Bool) (stack : List Frame)
    (rest : List Char) (hFuel : 2 * (membersFrom first members ++ rest).length + 1 ≤ fuel) :
    ∃ left, 2 * rest.length + 1 ≤ left ∧
      skip fuel (between first) (.object :: stack) (membersFrom first members ++ rest) =
        skip left .after stack rest := by
  induction members generalizing fuel first with
  | nil =>
    obtain ⟨fuel, rfl⟩ := Nat.exists_eq_add_one_of_ne_zero (by omega : fuel ≠ 0)
    simp only [membersFrom, List.cons_append, List.nil_append, List.length_cons] at hFuel ⊢
    exact ⟨fuel, by omega, by cases first <;> simp [between, skip, isBlank]⟩
  | cons m members ih =>
    obtain ⟨k, v⟩ := m
    obtain ⟨fuel, rfl⟩ := Nat.exists_eq_add_one_of_ne_zero (by omega : fuel ≠ 0)
    obtain ⟨hPassV, hPass⟩ := List.forall_mem_cons.mp hPass
    simp only [membersFrom, List.cons_append, List.append_assoc, List.length_cons,
      List.length_append] at hFuel ⊢
    obtain ⟨left, hLeft, hValue⟩ := hPassV fuel (.object :: stack)
      (membersFrom false members ++ rest) (closes_membersFrom _ _)
      (by simp only [List.length_append]; omega)
    obtain ⟨left', hLeft', hNext⟩ := ih hPass left false hLeft
    rw [between_false] at hNext
    have hKey := skipKey_render k (renderChars v ++ (membersFrom false members ++ rest))
    rw [renderString_append] at hKey ⊢
    refine ⟨left', hLeft', ?_⟩
    cases first <;> simp [between, lead, skip, isBlank, hKey, hValue, hNext]

/-- A value without containers is passed over in one step. -/
theorem PassedOver.scalar {v : Json} (h : Writable depth v)
    (hSkip : ∀ fuel stack rest, Closes rest →
      skip (fuel + 1) .value stack (renderChars v ++ rest) = skip fuel .after stack rest) :
    PassedOver v := by
  refine .of_succ h fun fuel stack rest hRest hFuel => ⟨fuel, ?_, hSkip fuel stack rest hRest⟩
  obtain ⟨c, cs, hText, -⟩ := renderChars_head h
  simp only [hText, List.cons_append, List.length_cons, List.length_append] at hFuel
  omega

theorem passedOver {v : Json} (h : Writable depth v) : PassedOver v := by
  induction h with
  | @null depth =>
    refine .scalar (.null : Writable depth _) fun fuel stack rest _ => ?_
    simp [renderChars, skip, isBlank, expectWord]
  | @bool depth b =>
    refine .scalar (.bool b : Writable depth _) fun fuel stack rest _ => ?_
    cases b <;> simp [renderChars, skip, isBlank, expectWord]
  | @string depth s =>
    refine .scalar (.string s : Writable depth _) fun fuel stack rest _ => ?_
    simp [renderChars, renderString_append, skip, isBlank]
  | @int depth n hWord =>
    refine .scalar (.int hWord : Writable depth _) fun fuel stack rest hRest => ?_
    rw [renderChars]
    rcases integer_cases hWord hRest with ⟨cs, hText, -, hSkip⟩ | ⟨c, cs, hText, hDigit, -, hSkip⟩
    · simp [hText, hSkip, skip, isBlank]
    · obtain ⟨hBlank, hMark⟩ := digit_facts hDigit
      simp only [List.mem_cons, not_or] at hMark
      simp [hText, hSkip, hBlank, hMark, hDigit, skip]
  | array hItems ih =>
    refine .of_succ (.array hItems) fun fuel stack rest _ hFuel => ?_
    simp only [renderChars, List.cons_append, List.length_cons] at hFuel ⊢
    rw [renderItems_eq] at hFuel ⊢
    obtain ⟨left, hLeft, hEnd⟩ := skip_itemsFrom hItems ih fuel true stack rest (by omega)
    exact ⟨left, hLeft, by simpa [between, skip, isBlank] using hEnd⟩
  | object hMembers ih =>
    refine .of_succ (.object hMembers) fun fuel stack rest _ hFuel => ?_
    simp only [renderChars, List.cons_append, List.length_cons] at hFuel ⊢
    rw [renderMembers_eq] at hFuel ⊢
    obtain ⟨left, hLeft, hEnd⟩ := skip_membersFrom ih fuel true stack rest (by omega)
    exact ⟨left, hLeft, by simpa [between, skip, isBlank] using hEnd⟩

/-- **A reader that does not want a value finds its end.** -/
theorem skipValue_render {v : Json} {rest : List Char} (h : Writable depth v)
    (hRest : Closes rest) : skipValue (renderChars v ++ rest) = .ok rest := by
  obtain ⟨left, hLeft, hEnd⟩ := passedOver h (2 * (renderChars v ++ rest).length + 2) [] rest
    hRest (by omega)
  obtain ⟨left, rfl⟩ := Nat.exists_eq_add_one_of_ne_zero (by omega : left ≠ 0)
  rw [skipValue, hEnd, skip]

end MarketGateway.Json
