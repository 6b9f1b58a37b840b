import MarketGateway.Proofs.Book.Continuity

/-!
# The last entry for a price wins

`LastEntry` finds the last well-formed entry for a price in a list of levels. Whatever levels
arrive, a ladder stores a level at a price exactly if that level is the last entry for the price and
has a quantity above zero (`Ladder.stores_updateAll`). For the replica of a snapshot the levels are
those of the snapshot and of the accepted events, one side apart from the other (`last_entry_wins`).
-/

namespace MarketGateway.Book

open Text

/-! ## Entries -/

/-- The level is the last entry for the price, and sets this quantity there. -/
def LastEntry (levels : List Level) (price quantity : ℚ) (level : Level) : Prop :=
  ∃ front back, levels = front ++ level :: back ∧ level.Sets price quantity ∧
    ∀ later ∈ back, ∀ other, ¬ later.Sets price other

theorem lastEntry_snoc {levels : List Level} {new level : Level} {p q : ℚ} :
    LastEntry (levels ++ [new]) p q level ↔
      (level = new ∧ new.Sets p q) ∨
        ((∀ other, ¬ new.Sets p other) ∧ LastEntry levels p q level) := by
  constructor
  · rintro ⟨front, back, hCut, hSets, hLast⟩
    rcases snoc_eq_append_cons.mp hCut with ⟨rest, rfl, hEarlier⟩ | ⟨-, -, rfl⟩
    · exact .inr ⟨hLast new (by simp), front, rest, hEarlier, hSets,
        fun later hLater => hLast later (List.mem_append_left _ hLater)⟩
    · exact .inl ⟨rfl, hSets⟩
  · rintro (⟨rfl, hSets⟩ | ⟨hNew, front, back, rfl, hSets, hLast⟩)
    · exact ⟨levels, [], rfl, hSets, fun _ hLater => absurd hLater List.not_mem_nil⟩
    · refine ⟨front, back ++ [new], by simp, hSets, ?_⟩
      intro later hLater
      rcases List.mem_append.mp hLater with hBack | hOnly
      · exact hLast later hBack
      · exact List.mem_singleton.mp hOnly ▸ hNew

/-! ## Ladders -/

namespace Ladder

variable {ladder : Ladder} {level : Level} {p : ℚ}

/-- The ladder has the level at the price. -/
def Stores (ladder : Ladder) (price : ℚ) (level : Level) : Prop :=
  ∃ entry ∈ ladder.entries, entry.1.value = price ∧ entry.2 = level

/-- A look-up finds the level that is stored at the value of the price, in whatever spelling. -/
theorem get?_eq_some_iff (hSorted : Sorted ladder.entries) {price : Decimal} :
    ladder.get? price = some level ↔ ladder.Stores price.value level := by
  rw [get?, Option.map_eq_some_iff]
  constructor
  · rintro ⟨entry, hFound, rfl⟩
    have hSame : price.sameValue entry.1 = true := by simpa using List.find?_some hFound
    exact ⟨entry, List.mem_of_find?_eq_some hFound, (Decimal.sameValue_iff.mp hSame).symm, rfl⟩
  · rintro ⟨entry, hEntry, hPrice, rfl⟩
    have hSome : (ladder.entries.find? fun other => price.sameValue other.1).isSome :=
      List.find?_isSome.mpr ⟨entry, hEntry, Decimal.sameValue_iff.mpr hPrice.symm⟩
    obtain ⟨found, hFound⟩ := Option.isSome_iff_exists.mp hSome
    have hSame : price.sameValue found.1 = true := by simpa using List.find?_some hFound
    have hValue : found.1.value = entry.1.value :=
      (Decimal.sameValue_iff.mp hSame).symm.trans hPrice.symm
    -- The entries are sorted strictly, so that no two of them have the same price.
    have hDistinct : (ladder.entries.map (·.1.value)).Nodup :=
      (List.pairwise_map.mpr hSorted).imp fun hLt => hLt.ne
    have hMem := List.mem_of_find?_eq_some hFound
    obtain rfl := List.inj_on_of_nodup_map hDistinct hMem hEntry hValue
    exact ⟨found, hFound, rfl⟩

theorem stores_put (hSorted : Sorted ladder.entries) {price : Decimal} {new : Level} :
    (ladder.put price new).Stores p level ↔
      (p = price.value ∧ level = new) ∨ (p ≠ price.value ∧ ladder.Stores p level) := by
  simp only [Stores, put, mem_putEntry hSorted]
  constructor
  · rintro ⟨entry, rfl | ⟨hEntry, hNe⟩, rfl, rfl⟩
    · exact .inl ⟨rfl, rfl⟩
    · exact .inr ⟨hNe, entry, hEntry, rfl, rfl⟩
  · rintro (⟨rfl, rfl⟩ | ⟨hNe, entry, hEntry, rfl, rfl⟩)
    · exact ⟨(price, level), .inl rfl, rfl, rfl⟩
    · exact ⟨entry, .inr ⟨hEntry, hNe⟩, rfl, rfl⟩

theorem stores_erase {price : Decimal} :
    (ladder.erase price).Stores p level ↔ p ≠ price.value ∧ ladder.Stores p level := by
  simp only [Stores, mem_erase]
  constructor
  · rintro ⟨entry, ⟨hEntry, hNe⟩, rfl, rfl⟩
    exact ⟨hNe, entry, hEntry, rfl, rfl⟩
  · rintro ⟨hNe, entry, hEntry, rfl, rfl⟩
    exact ⟨entry, ⟨hEntry, hNe⟩, rfl, rfl⟩

/-- A level that arrives decides what is stored at the price that it is an entry for, and at no
other. -/
theorem stores_update (hSorted : Sorted ladder.entries) (new : Level) :
    (ladder.update new).Stores p level ↔
      (level = new ∧ ∃ q, new.Sets p q ∧ 0 < q) ∨
        ((∀ q, ¬ new.Sets p q) ∧ ladder.Stores p level) := by
  have hReads := LevelChange.ofLevel?_spec new
  rw [update]
  generalize LevelChange.ofLevel? new = change at hReads
  cases hReads with
  | @put price quantity _ hSets hQuantity =>
    have hEntry : (∃ q, new.Sets p q ∧ 0 < q) ↔ p = price.value := by
      constructor
      · rintro ⟨q, hOther, -⟩
        exact (hOther.unique hSets).1
      · rintro rfl
        exact ⟨quantity, hSets, hQuantity⟩
    rw [hEntry, hSets.sets_nothing_iff, and_comm (a := level = new)]
    exact stores_put hSorted
  | @erase price hSets =>
    have hEntry : ¬ ∃ q, new.Sets p q ∧ 0 < q := by
      rintro ⟨q, hOther, hq⟩
      exact hq.ne' (hOther.unique hSets).2
    simp only [hEntry, hSets.sets_nothing_iff, and_false, false_or]
    exact stores_erase
  | malformed hMalformed =>
    have hNoEntry : ∀ q, ¬ new.Sets p q := fun q hSets => hMalformed ⟨p, q, hSets⟩
    simp [hNoEntry]

/-- By induction from the end of the list. -/
theorem stores_updateAll (levels : List Level) :
    (({} : Ladder).updateAll levels).Stores p level ↔
      ∃ q, LastEntry levels p q level ∧ 0 < q := by
  induction levels using List.reverseRecOn with
  | nil =>
    constructor
    · rintro ⟨entry, hEntry, -⟩
      cases hEntry
    · rintro ⟨q, ⟨front, back, hCut, -⟩, -⟩
      cases front <;> cases hCut
  | append_singleton levels new ih =>
    have hSorted := (ordered_updateAll ordered_empty levels).sorted
    have hStep : ({} : Ladder).updateAll (levels ++ [new]) =
        (({} : Ladder).updateAll levels).update new := by
      simp [updateAll]
    rw [hStep, stores_update hSorted, ih]
    simp only [lastEntry_snoc]
    constructor
    · rintro (⟨rfl, q, hSets, hq⟩ | ⟨hNew, q, hLast, hq⟩)
      · exact ⟨q, .inl ⟨rfl, hSets⟩, hq⟩
      · exact ⟨q, .inr ⟨hNew, hLast⟩, hq⟩
    · rintro ⟨q, ⟨rfl, hSets⟩ | ⟨hNew, hLast⟩, hq⟩
      · exact .inl ⟨rfl, q, hSets, hq⟩
      · exact .inr ⟨hNew, q, hLast, hq⟩

/-- Two spellings of one price, and an entry for it that has no effect. -/
example : (({} : Ladder).updateAll
    [⟨"50000", "1"⟩, ⟨" 50000.00", "3"⟩, ⟨"50000", "-1"⟩]).levels = [⟨" 50000.00", "3"⟩] := by
  decide +kernel

theorem update_of_malformed {new : Level} (hMalformed : ¬ new.IsEntry) :
    ladder.update new = ladder := by
  have hReads := LevelChange.ofLevel?_spec new
  rw [update]
  generalize LevelChange.ofLevel? new = change at hReads
  cases hReads with
  | malformed => rfl
  | put _ hSets => exact absurd ⟨_, _, hSets⟩ hMalformed
  | erase hSets => exact absurd ⟨_, _, hSets⟩ hMalformed

open Classical in
/-- Malformed levels may as well be left out. -/
theorem updateAll_filter_isEntry (ladder : Ladder) (levels : List Level) :
    ladder.updateAll (levels.filter fun level => level.IsEntry) = ladder.updateAll levels := by
  unfold updateAll
  induction levels generalizing ladder with
  | nil => rfl
  | cons level rest ih =>
    by_cases hEntry : level.IsEntry
    · rw [List.filter_cons_of_pos (by simpa using hEntry), List.foldl_cons, List.foldl_cons, ih]
    · rw [List.filter_cons_of_neg (by simpa using hEntry), List.foldl_cons,
        update_of_malformed hEntry, ih]

/-- The levels stand in increasing order of what their price texts denote. -/
theorem Ordered.increasing_levels (hLadder : ladder.Ordered) :
    ladder.levels.Pairwise fun a b => ∃ p q, Denotes a.price p ∧ Denotes b.price q ∧ p < q := by
  have hDenotes : ∀ entry ∈ ladder.entries, Denotes entry.2.price entry.1.value := by
    intro entry hEntry
    exact ⟨entry.1, (LevelChange.spec_put (hLadder.stored entry hEntry)).2, rfl⟩
  rw [levels, List.pairwise_map]
  refine List.Pairwise.imp_of_mem ?_ hLadder.sorted
  intro a b ha hb hLt
  exact ⟨a.1.value, b.1.value, hDenotes a ha, hDenotes b hb, hLt⟩

/-- Levels at different places of a ladder have different prices. -/
theorem Ordered.distinct_levels (hLadder : ladder.Ordered) :
    ladder.levels.Pairwise fun a b => ∀ p, Denotes a.price p → ¬ Denotes b.price p := by
  refine hLadder.increasing_levels.imp ?_
  rintro a b ⟨p, q, hp, hq, hLt⟩ x ha hb
  rw [hp.unique ha, hq.unique hb] at hLt
  exact lt_irrefl x hLt

end Ladder

/-! ## Replicas -/

namespace Replica

theorem side_advanceAll (book : Replica) (events : List DiffEvent) (side : Side) :
    (book.advanceAll events).side side =
      (book.side side).updateAll (events.flatMap fun event => event.side side) := by
  induction events generalizing book with
  | nil => rfl
  | cons event rest ih =>
    have hAdvance : (book.advance event).side side =
        (book.side side).updateAll (event.side side) := by
      cases side <;> rfl
    rw [advanceAll, List.foldl_cons, ← advanceAll, ih, hAdvance, List.flatMap_cons]
    exact (List.foldl_append ..).symm

/-- A side of the replica is what the levels of that side leave that arrived with the snapshot and
the accepted events. -/
theorem side_run (symbol : String) (snapshot : Snapshot) (moves : List Move) (side : Side) :
    ((ofSnapshot symbol snapshot).run moves).side side =
      ({} : Ladder).updateAll (snapshot.side side ++
        ((ofSnapshot symbol snapshot).accepted moves).flatMap fun event => event.side side) := by
  have hStart : (ofSnapshot symbol snapshot).side side =
      ({} : Ladder).updateAll (snapshot.side side) := by
    cases side <;> rfl
  rw [(agrees_run _ moves).side, side_advanceAll, hStart]
  exact (List.foldl_append ..).symm

theorem ordered_run (symbol : String) (snapshot : Snapshot) (moves : List Move) :
    ((ofSnapshot symbol snapshot).run moves).Ordered := by
  intro side
  rw [side_run]
  exact Ladder.ordered_updateAll Ladder.ordered_empty _

open Classical in
/-- **The last entry for a price wins.** After any events that the replica of a snapshot was given,
take the levels of one side of the snapshot and then of the accepted events, in order. The replica
stores a level at a price exactly if the level is the last well-formed entry for the price among
them and has a quantity above zero, and it stores the level as it came. Whatever the spelling of the
price, no two levels are stored at one number. Malformed levels have no effect at all, nor have the
levels of the other side. -/
theorem last_entry_wins (symbol : String) (snapshot : Snapshot) (moves : List Move) (side : Side) :
    let start := ofSnapshot symbol snapshot
    let ladder := (start.run moves).side side
    let arrived := snapshot.side side ++
      (start.accepted moves).flatMap fun event => event.side side
    (∀ (price : Decimal) (level : Level), ladder.get? price = some level ↔
      ∃ quantity, LastEntry arrived price.value quantity level ∧ 0 < quantity) ∧
    (ladder.levels.Pairwise fun a b => ∀ price, Denotes a.price price → ¬ Denotes b.price price) ∧
    ladder = ({} : Ladder).updateAll (arrived.filter fun level => level.IsEntry) := by
  intro start ladder arrived
  have hLadder : ladder = ({} : Ladder).updateAll arrived := side_run symbol snapshot moves side
  have hOrdered : ladder.Ordered := ordered_run symbol snapshot moves side
  refine ⟨?_, hOrdered.distinct_levels, ?_⟩
  · intro price level
    rw [Ladder.get?_eq_some_iff hOrdered.sorted, hLadder]
    exact Ladder.stores_updateAll arrived
  · rw [Ladder.updateAll_filter_isEntry]
    exact hLadder

end Replica

end MarketGateway.Book
