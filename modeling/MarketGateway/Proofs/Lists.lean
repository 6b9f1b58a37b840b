import Mathlib.Data.List.Nodup
import MarketGateway.Timers

/-!
# Tables, counts, histories and timers

Tables are lists of keys and values, in which each key stands once at most; the lemmas say what
`List.lookup` finds in them. Counts are those of `List.countP`. A history is a list of what has
happened so far, oldest first; `Throughout` says that something has held since an earlier one, and
`snoc_eq_append_cons` where a history can be cut that has grown by one.
`Timers.getElem?_of_pop` says where the timer stood that is due first.
-/

namespace MarketGateway

section Tables

variable {α β : Type} [BEq α] [LawfulBEq α] {entries : List (α × β)} {key other : α} {value : β}

/-- With each key once, a look-up finds the entries. -/
theorem lookup_eq_some_iff_mem (hKeys : (entries.map Prod.fst).Nodup) :
    entries.lookup key = some value ↔ (key, value) ∈ entries := by
  constructor
  · intro hLookup
    obtain ⟨front, back, hEq, -⟩ := List.lookup_eq_some_iff.mp hLookup
    rw [hEq]
    exact List.mem_append_right _ List.mem_cons_self
  · intro hMem
    obtain ⟨front, back, rfl⟩ := List.append_of_mem hMem
    refine List.lookup_eq_some_iff.mpr ⟨front, back, rfl, ?_⟩
    intro entry hEntry
    have hApart := (List.nodup_append.mp (List.map_append ▸ hKeys)).2.2
    have hNe : entry.1 ≠ key :=
      hApart entry.1 (List.mem_map_of_mem hEntry) key (List.mem_cons_self)
    simpa using hNe.symm

/-- The entries under a key are none or the one that is found. -/
theorem filter_eq_lookup (hKeys : (entries.map Prod.fst).Nodup) (key : α) :
    entries.filter (fun entry => entry.1 == key) =
      (entries.lookup key).toList.map (fun value => (key, value)) := by
  induction entries with
  | nil => rfl
  | cons entry rest ih =>
      obtain ⟨other, value⟩ := entry
      obtain ⟨hHead, hRest⟩ := List.nodup_cons.mp hKeys
      by_cases hEq : other = key
      · subst hEq
        have hNone : rest.lookup other = none := by
          refine List.lookup_eq_none_iff.mpr ?_
          intro e he
          have hNe : e.1 ≠ other := fun hEq => hHead (List.mem_map.mpr ⟨e, he, hEq⟩)
          simpa using hNe.symm
        simp only [beq_self_eq_true, List.filter_cons_of_pos, List.lookup_cons_self,
          Option.toList_some, List.map_cons, List.map_nil, ih hRest, hNone, Option.toList_none]
      · have hBack : (key == other) = false := beq_eq_false_iff_ne.mpr fun h => hEq h.symm
        simp only [List.filter_cons, List.lookup_cons, beq_eq_false_iff_ne.mpr hEq, hBack,
          Bool.false_eq_true, if_false, ih hRest]

theorem lookup_filter_ne (hNe : other ≠ key) :
    (entries.filter (fun entry => entry.1 != key)).lookup other = entries.lookup other := by
  induction entries with
  | nil => rfl
  | cons entry rest ih =>
      obtain ⟨name, value⟩ := entry
      by_cases hEq : name = key
      · subst hEq
        have hBack : (other == name) = false := beq_eq_false_iff_ne.mpr hNe
        simpa [List.lookup_cons, hBack] using ih
      · simp only [List.filter_cons, bne_iff_ne, ne_eq, hEq, not_false_eq_true, if_true,
          List.lookup_cons, ih]

theorem lookup_filter_self (entries : List (α × β)) (key : α) :
    (entries.filter (fun entry => entry.1 != key)).lookup key = none := by
  refine List.lookup_eq_none_iff.mpr ?_
  intro entry hEntry
  have hDiffers : entry.1 ≠ key := bne_iff_ne.mp (List.mem_filter.mp hEntry).2
  simpa using hDiffers.symm

/-- What stands under one key is changed. -/
theorem lookup_change [DecidableEq α] (entries : List (α × β)) (key other : α) (change : β → β) :
    (entries.map fun (name, value) =>
      if name = key then (name, change value) else (name, value)).lookup other =
      if other = key then (entries.lookup other).map change else entries.lookup other := by
  induction entries with
  | nil => simp
  | cons entry rest ih =>
      obtain ⟨name, value⟩ := entry
      rw [List.map_cons]
      by_cases hOther : other = name
      · by_cases hKey : name = key <;> simp [hOther, hKey]
      · have hBack : (other == name) = false := beq_eq_false_iff_ne.mpr hOther
        by_cases hKey : name = key
        · simpa only [if_pos hKey, List.lookup_cons, hBack] using ih
        · simpa only [if_neg hKey, List.lookup_cons, hBack] using ih

end Tables

section Counts

variable {α : Type} {entries : List α} {entry : α} {place : Nat}

/-- An entry that takes the place of another one counts instead of it. -/
theorem countP_set_add (p : α → Bool) (next : α) (hAt : entries[place]? = some entry) :
    (entries.set place next).countP p + (if p entry then 1 else 0) =
      entries.countP p + if p next then 1 else 0 := by
  obtain ⟨hLt, hGet⟩ := List.getElem?_eq_some_iff.mp hAt
  have hSome : p entry = true → 0 < entries.countP p := by
    intro hHas
    exact List.countP_pos_iff.mpr ⟨entry, List.mem_of_getElem? hAt, hHas⟩
  rw [List.countP_set hLt, hGet]
  by_cases hHas : p entry = true
  · have hPos := hSome hHas
    simp only [hHas, if_true]
    omega
  · simp only [hHas, Bool.false_eq_true, if_false]
    omega

/-- Among entries of which one counts at most, there is one place for it. -/
theorem eq_of_countP_le_one {p : α → Bool} {other : Nat} {same : α} (hOne : entries.countP p ≤ 1)
    (hAt : entries[place]? = some entry) (hEntry : p entry = true)
    (hOther : entries[other]? = some same) (hSame : p same = true) : place = other := by
  induction entries generalizing place other with
  | nil => cases hAt
  | cons first rest ih =>
    rw [List.countP_cons] at hOne
    have hRest {i : Nat} {e : α} (hI : rest[i]? = some e) (hE : p e = true) :
        0 < rest.countP p :=
      List.countP_pos_iff.mpr ⟨e, List.mem_of_getElem? hI, hE⟩
    cases place with
    | zero =>
      cases other with
      | zero => rfl
      | succ other =>
        obtain rfl := Option.some.inj hAt
        have hPos := hRest hOther hSame
        rw [if_pos hEntry] at hOne
        omega
    | succ place =>
      cases other with
      | zero =>
        obtain rfl := Option.some.inj hOther
        have hPos := hRest hAt hEntry
        rw [if_pos hSame] at hOne
        omega
      | succ other => rw [ih (by omega) hAt hOther]

end Counts

section Histories

variable {α : Type} {holds : List α → Prop} {early past : List α} {last : α}

/-- From an early history on up to a later one it holds after each. -/
def Throughout (holds : List α → Prop) (early past : List α) : Prop :=
  ∀ middle, early <+: middle → middle <+: past → holds middle

theorem Throughout.refl (hNow : holds past) : Throughout holds past past := by
  intro middle hFrom hTo
  rwa [hTo.eq_of_length_le hFrom.length_le]

theorem Throughout.snoc (hBefore : Throughout holds early past) (hNow : holds (past ++ [last])) :
    Throughout holds early (past ++ [last]) := by
  intro middle hFrom hTo
  rcases List.prefix_concat_iff.mp hTo with rfl | hEarlier
  · exact hNow
  · exact hBefore middle hFrom hEarlier

/-- A history that is cut is cut within what came before the last or right before it. -/
theorem snoc_eq_append_cons {front back : List α} {next : α} :
    past ++ [last] = front ++ next :: back ↔
      (∃ rest, back = rest ++ [last] ∧ past = front ++ next :: rest) ∨
        (back = [] ∧ past = front ∧ last = next) := by
  constructor
  · intro hEq
    rcases List.eq_nil_or_concat back with rfl | ⟨rest, final, rfl⟩
    · obtain ⟨hFront, hLast⟩ := List.append_inj' hEq rfl
      exact .inr ⟨rfl, hFront, by simpa using hLast⟩
    · have hCut : past ++ [last] = (front ++ next :: rest) ++ [final] := by simpa using hEq
      obtain ⟨hFront, hLast⟩ := List.append_inj' hCut rfl
      obtain rfl : last = final := by simpa using hLast
      exact .inl ⟨rest, List.concat_eq_append, hFront⟩
  · rintro (⟨rest, rfl, rfl⟩ | ⟨rfl, rfl, rfl⟩)
    · simp
    · rfl

end Histories

namespace Timers

variable {α : Type}

theorem pop_ne_none (timer : Timer α) (rest : Timers α) : pop (timer :: rest) ≠ none := by
  rw [pop]
  split
  · simp
  · split <;> simp

/-- The first timer that is due has its place among the timers. -/
theorem getElem?_of_pop {timers others : Timers α} {first : Timer α}
    (hPop : timers.pop = some (first, others)) :
    ∃ index, timers[index]? = some first ∧ others = timers.eraseIdx index := by
  induction timers generalizing first others with
  | nil => cases hPop
  | cons timer rest ih =>
    rw [pop] at hPop
    cases hRest : pop rest with
    | none =>
      cases rest with
      | nil =>
        simp only [hRest] at hPop
        cases hPop
        exact ⟨0, rfl, rfl⟩
      | cons second rest => exact absurd hRest (pop_ne_none second rest)
    | some popped =>
      obtain ⟨earliest, later⟩ := popped
      obtain ⟨index, hIndex, hOthers⟩ := ih hRest
      simp only [hRest] at hPop
      split at hPop
      · cases hPop
        exact ⟨index + 1, hIndex, by rw [List.eraseIdx_cons_succ, hOthers]⟩
      · cases hPop
        exact ⟨0, rfl, rfl⟩

end Timers

end MarketGateway
