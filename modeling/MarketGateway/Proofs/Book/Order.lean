import MarketGateway.Book.Replica
import MarketGateway.Proofs.Book.History

/-!
# Levels in order of price

Whatever levels arrive, those that a ladder keeps stand under the prices that their texts denote, in
increasing order and no two at one price (`Ladder.Ordered`). No assumption about the texts is made:
a level that is no change is dropped, and a change keeps the order (`ordered_updateAll`).

So the levels of a side of a replica stand in order, the best one first (`inOrder_ranked`).
-/

namespace MarketGateway.Book

/-! ## Levels that are put in -/

/-- A level that is put in is stored as it came, under the price that it denotes. -/
theorem LevelChange.spec_put {level stored : Level} {price : Decimal}
    (hPut : LevelChange.ofLevel? level = some (.put price stored)) :
    stored = level ∧ Decimal.ofText? (Text.trim level.price) = some price := by
  have hReads := ofLevel?_spec level
  rw [hPut] at hReads
  cases hReads with
  | put hPrice => exact ⟨rfl, hPrice⟩

namespace Ladder

variable {ladder : Ladder}

/-- The entries stand in increasing order of price, and each is a level that is put in at its
price. -/
structure Ordered (ladder : Ladder) : Prop where
  sorted : Sorted ladder.entries
  stored : ∀ entry ∈ ladder.entries,
    LevelChange.ofLevel? entry.2 = some (.put entry.1 entry.2)

theorem ordered_empty : ({} : Ladder).Ordered :=
  ⟨List.Pairwise.nil, fun _ hEntry => absurd hEntry List.not_mem_nil⟩

theorem Ordered.put (hLadder : ladder.Ordered) {price : Decimal} {level : Level}
    (hLevel : LevelChange.ofLevel? level = some (.put price level)) :
    (ladder.put price level).Ordered := by
  refine ⟨sorted_putEntry hLadder.sorted, ?_⟩
  intro entry hEntry
  rcases (mem_putEntry hLadder.sorted).mp hEntry with rfl | ⟨hOld, -⟩
  · exact hLevel
  · exact hLadder.stored entry hOld

theorem Ordered.erase (hLadder : ladder.Ordered) (price : Decimal) :
    (ladder.erase price).Ordered :=
  ⟨hLadder.sorted.filter _, fun entry hEntry => hLadder.stored entry (mem_erase.mp hEntry).1⟩

theorem Ordered.update (hLadder : ladder.Ordered) (level : Level) :
    (ladder.update level).Ordered := by
  unfold Ladder.update
  split
  · next change hChange =>
    cases change with
    | put price stored =>
      obtain ⟨rfl, -⟩ := LevelChange.spec_put hChange
      exact hLadder.put hChange
    | erase price => exact hLadder.erase price
  · exact hLadder

theorem ordered_updateAll (hLadder : ladder.Ordered) (levels : List Level) :
    (ladder.updateAll levels).Ordered := by
  unfold updateAll
  induction levels generalizing ladder with
  | nil => exact hLadder
  | cons level rest ih => exact ih (hLadder.update level)

end Ladder

/-! ## Sides of a replica -/

/-- The prices of the levels are numbers, each of them better than all behind it. -/
def Side.InOrder (side : Side) (levels : List Level) : Prop :=
  ∃ prices : List ℚ, List.Forall₂ (fun level p => Denotes level.price p) levels prices ∧
    prices.Pairwise side.Better

theorem Side.InOrder.take {side : Side} {levels : List Level} (hOrder : side.InOrder levels)
    (n : Nat) : side.InOrder (levels.take n) := by
  obtain ⟨prices, hPrices, hBetter⟩ := hOrder
  exact ⟨prices.take n, List.forall₂_take n hPrices, hBetter.sublist (List.take_sublist n prices)⟩

namespace Replica

variable {book : Replica}

/-- Both ladders of the replica are in order. -/
def Ordered (book : Replica) : Prop := ∀ side, (book.side side).Ordered

theorem ordered_ofSnapshot (symbol : String) (snapshot : Snapshot) :
    (ofSnapshot symbol snapshot).Ordered := by
  intro side
  cases side <;> exact Ladder.ordered_updateAll Ladder.ordered_empty _

theorem Ordered.advance (hBook : book.Ordered) (event : DiffEvent) :
    (book.advance event).Ordered := by
  intro side
  cases side
  · exact Ladder.ordered_updateAll (hBook .bid) event.bids
  · exact Ladder.ordered_updateAll (hBook .ask) event.asks

/-- The replica after events that were applied to it one after another. -/
def advanceAll (book : Replica) (events : List DiffEvent) : Replica := events.foldl advance book

theorem symbol_advanceAll (book : Replica) (events : List DiffEvent) :
    (book.advanceAll events).symbol = book.symbol := by
  induction events generalizing book with
  | nil => rfl
  | cons event rest ih => exact ih (book.advance event)

theorem Ordered.advanceAll (hBook : book.Ordered) (events : List DiffEvent) :
    (book.advanceAll events).Ordered := by
  induction events generalizing book with
  | nil => exact hBook
  | cons event rest ih => exact ih (hBook.advance event)

theorem denotes_levels {ladder : Ladder} (hLadder : ladder.Ordered) :
    List.Forall₂ (fun level p => Denotes level.price p) ladder.levels
      (ladder.entries.map (·.1.value)) := by
  rw [Ladder.levels, List.forall₂_map_left_iff, List.forall₂_map_right_iff, List.forall₂_same]
  intro entry hEntry
  exact ⟨entry.1, (LevelChange.spec_put (hLadder.stored entry hEntry)).2, rfl⟩

theorem Ordered.inOrder_ranked (hBook : book.Ordered) (side : Side) :
    side.InOrder (book.ranked side) := by
  have hIncreasing : ((book.side side).entries.map (·.1.value)).Pairwise (· < ·) :=
    List.pairwise_map.mpr (hBook side).sorted
  have hLevels := denotes_levels (hBook side)
  cases side with
  | bid => exact ⟨_, List.forall₂_reverse_iff.mpr hLevels, List.pairwise_reverse.mpr hIncreasing⟩
  | ask => exact ⟨_, hLevels, hIncreasing⟩

end Replica

end MarketGateway.Book
