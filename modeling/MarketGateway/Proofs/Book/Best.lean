import MarketGateway.Proofs.Book.LastEntry

/-!
# The best levels of a replica

The best `n` levels of a side are stored levels with a price and a quantity above zero, each of them
better than all behind it, and better than every stored level that is left out
(`best_levels_beat_the_rest`). This holds after any events with any texts: a ladder keeps its levels
in order (`Ladder.Ordered`), and only levels with a quantity above zero are put in.
-/

namespace MarketGateway.Book

/-- The price of the level comes before that of the other one on the side. -/
def Side.Beats (side : Side) (level other : Level) : Prop :=
  ∃ price price', Denotes level.price price ∧ Denotes other.price price' ∧ side.Better price price'

theorem Ladder.Ordered.quotes {ladder : Ladder} (hLadder : ladder.Ordered) {level : Level}
    (hLevel : level ∈ ladder.levels) :
    ∃ price quantity, level.Quotes price quantity ∧ 0 < price ∧ 0 < quantity := by
  obtain ⟨entry, hEntry, rfl⟩ := List.mem_map.mp hLevel
  have hReads := LevelChange.ofLevel?_spec entry.2
  rw [hLadder.stored entry hEntry] at hReads
  cases hReads with
  | put _ hSets hQuantity => exact ⟨_, _, hSets.quotes hQuantity, hSets.positive, hQuantity⟩

namespace Replica

variable {book : Replica}

theorem mem_ranked {side : Side} {level : Level} :
    level ∈ book.ranked side ↔ level ∈ (book.side side).levels := by
  cases side with
  | bid => exact List.mem_reverse
  | ask => exact Iff.rfl

theorem length_ranked (book : Replica) (side : Side) :
    (book.ranked side).length = book.depth side := by
  cases side <;> simp [ranked, depth, side, Ladder.size, Ladder.levels]

theorem Ordered.pairwise_ranked (hBook : book.Ordered) (side : Side) :
    (book.ranked side).Pairwise side.Beats := by
  cases side with
  | bid =>
    refine List.pairwise_reverse.mpr ((hBook .bid).increasing_levels.imp ?_)
    rintro a b ⟨p, q, hp, hq, hLt⟩
    exact ⟨q, p, hq, hp, hLt⟩
  | ask => exact (hBook .ask).increasing_levels

/-- **The best levels are the best.** After any events that the replica of a snapshot was given, the
best `n` levels of a side are as many as there are up to `n`. Each of them beats all behind it, so
that their prices are different numbers, falling for bids and rising for asks. Each is a stored
level whose price and quantity are above zero, and beats every stored level that is not among
them. -/
theorem best_levels_beat_the_rest (symbol : String) (snapshot : Snapshot) (moves : List Move)
    (side : Side) (n : Nat) :
    let book := (ofSnapshot symbol snapshot).run moves
    let best := book.best n side
    best.length = min n (book.depth side) ∧
    best.Pairwise side.Beats ∧
    (∀ level ∈ best, level ∈ (book.side side).levels ∧
      ∃ price quantity, level.Quotes price quantity ∧ 0 < price ∧ 0 < quantity) ∧
    ∀ other ∈ (book.side side).levels, other ∉ best → ∀ level ∈ best, side.Beats level other := by
  intro book best
  have hBook : book.Ordered := ordered_run symbol snapshot moves
  have hRanked := hBook.pairwise_ranked side
  refine ⟨?_, hRanked.sublist (List.take_sublist n _), ?_, ?_⟩
  · calc best.length = min n (book.ranked side).length := List.length_take
      _ = min n (book.depth side) := by rw [length_ranked]
  · intro level hLevel
    have hStored := mem_ranked.mp (List.mem_of_mem_take hLevel)
    exact ⟨hStored, (hBook side).quotes hStored⟩
  · intro other hStored hOut level hLevel
    rw [← List.take_append_drop n (book.ranked side)] at hRanked
    have hOther : other ∈ (book.ranked side).take n ++ (book.ranked side).drop n := by
      rw [List.take_append_drop]
      exact mem_ranked.mpr hStored
    have hBehind := (List.mem_append.mp hOther).resolve_left hOut
    exact (List.pairwise_append.mp hRanked).2.2 level hLevel other hBehind

/-- The least of these bids comes last as a number and first as a text. -/
def threeBids : Snapshot := ⟨100, [⟨"9", "1"⟩, ⟨"10.50", "2"⟩, ⟨"10", "3"⟩], []⟩

theorem best_levels_beat_the_rest_of_threeBids :
    let book := (ofSnapshot "BTCUSDT" threeBids).run []
    book.best 2 .bid = [⟨"10.50", "2"⟩, ⟨"10", "3"⟩] ∧ Side.bid.Beats ⟨"10", "3"⟩ ⟨"9", "1"⟩ := by
  intro book
  have hBest : book.best 2 .bid = [⟨"10.50", "2"⟩, ⟨"10", "3"⟩] := by decide +kernel
  have hStored : ⟨"9", "1"⟩ ∈ (book.side .bid).levels := by decide +kernel
  obtain ⟨-, -, -, hBeaten⟩ := best_levels_beat_the_rest "BTCUSDT" threeBids [] .bid 2
  refine ⟨hBest, hBeaten ⟨"9", "1"⟩ hStored ?_ ⟨"10", "3"⟩ ?_⟩
  · exact hBest ▸ by decide
  · exact hBest ▸ by decide

end Replica

end MarketGateway.Book
