import Mathlib.Data.List.Forall2
import MarketGateway.Book.Replica
import MarketGateway.Proofs.Book.History

/-!
# What a replica depicts

A replica depicts quantities of both sides when its ladders do (`Replica.Depicts`). The replica of a
snapshot depicts what the snapshot lists (`depicts_ofSnapshot`), and an event that is applied
overwrites what it lists (`depicts_advance`). The ranked levels of a replica quote the depicted
prices, best first (`quotes_ranked`).
-/

namespace MarketGateway.Book

namespace Replica

variable {book : Replica} {quantity target : Side → ℚ → ℚ} {prices : Side → ℚ → Prop}

/-- Both ladders of the replica depict the quantities of their sides. -/
def Depicts (book : Replica) (quantity : Side → ℚ → ℚ) : Prop :=
  ∀ side, (book.side side).Depicts (quantity side)

theorem Depicts.congr {quantity' : Side → ℚ → ℚ} (h : book.Depicts quantity)
    (hEq : ∀ side p, quantity side p = quantity' side p) : book.Depicts quantity' := by
  intro side
  rw [← funext (hEq side)]
  exact h side

open Classical in
theorem depicts_ofSnapshot (symbol : String) {snapshot : Snapshot}
    (hLists : ∀ side, Ladder.Lists (snapshot.side side) (prices side) (target side))
    (hPrices : ∀ side p, prices side p → 0 < p ∧ 0 ≤ target side p) :
    (ofSnapshot symbol snapshot).Depicts fun side p => if prices side p then target side p else 0 := by
  intro side
  have hStep := Ladder.depicts_updateAll Ladder.depicts_empty (hLists side) (hPrices side)
  cases side <;> exact hStep

open Classical in
theorem depicts_advance (h : book.Depicts quantity) {event : DiffEvent}
    (hLists : ∀ side, Ladder.Lists (event.side side) (prices side) (target side))
    (hPrices : ∀ side p, prices side p → 0 < p ∧ 0 ≤ target side p) :
    (book.advance event).Depicts fun side p =>
      if prices side p then target side p else quantity side p := by
  intro side
  have hStep := Ladder.depicts_updateAll (h side) (hLists side) (hPrices side)
  cases side <;> exact hStep

/-! ## Ranked levels -/

theorem quotes_levels {ladder : Ladder} {m : ℚ → ℚ} (h : ladder.Depicts m) :
    List.Forall₂ (fun level p => level.Quotes p (m p)) ladder.levels
      (ladder.entries.map (·.1.value)) := by
  rw [Ladder.levels, List.forall₂_map_left_iff, List.forall₂_map_right_iff, List.forall₂_same]
  exact fun entry hEntry => (h.quoted entry hEntry).2

theorem mem_entry_prices {ladder : Ladder} {m : ℚ → ℚ} (h : ladder.Depicts m)
    (hNonneg : ∀ p, 0 ≤ m p) (p : ℚ) :
    p ∈ ladder.entries.map (·.1.value) ↔ m p ≠ 0 := by
  rw [List.mem_map]
  constructor
  · rintro ⟨entry, hEntry, rfl⟩
    exact (h.quoted entry hEntry).1.ne'
  · intro hp
    exact h.complete p (lt_of_le_of_ne (hNonneg p) hp.symm)

/-- The levels of a side quote the prices that have a quantity in any list of them that is ordered
from the best one on; there is but one such list. -/
theorem quotes_ranked {side : Side} {m : ℚ → ℚ} (h : (book.side side).Depicts m)
    (hNonneg : ∀ p, 0 ≤ m p) {ps : List ℚ} (hOrder : ps.Pairwise side.Better)
    (hMem : ∀ p, p ∈ ps ↔ m p ≠ 0) :
    List.Forall₂ (fun level p => level.Quotes p (m p)) (book.ranked side) ps := by
  have hSorted : ((book.side side).entries.map (·.1.value)).Pairwise (· < ·) :=
    List.pairwise_map.mpr h.sorted
  have hSame : ∀ p, p ∈ (book.side side).entries.map (·.1.value) ↔ p ∈ ps :=
    fun p => (mem_entry_prices h hNonneg p).trans (hMem p).symm
  cases side with
  | bid =>
    have hReverse : (book.bids.entries.map (·.1.value)).reverse = ps :=
      (List.pairwise_reverse.mpr hSorted).eq_of_mem_iff hOrder (by simpa using hSame)
    rw [← hReverse]
    exact List.forall₂_reverse_iff.mpr (quotes_levels h)
  | ask =>
    have hEq : book.asks.entries.map (·.1.value) = ps := hSorted.eq_of_mem_iff hOrder hSame
    rw [← hEq]
    exact quotes_levels h

end Replica

end MarketGateway.Book
