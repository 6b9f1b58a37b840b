import Mathlib.Data.Finset.Sort
import Mathlib.Data.List.Sort
import MarketGateway.Book.Event
import MarketGateway.Proofs.Book.Ladder

/-!
# Histories of the exchange's book

A history gives the changes of the exchange's book under their ids. `History.quantity` is the true
quantity at each price after an id, and `History.ranking` lists the prices that have one, best
first. What the exchange sends is true to the history: an event lists the prices that changed in its
range of ids with the quantities at the end of the range (`History.Emits`), and a snapshot lists the
prices that have a quantity (`History.Shows`), or the best of them (`History.ShowsBest`).

* `quantity_eq_of_not_changed`: a quantity stays where no id in between changes it.
* `mem_ranking`, `pairwise_ranking`: the ranking holds exactly the prices with a quantity, and each
  one is better than those behind it.
-/

namespace MarketGateway.Book

/-- From now on the price of the side has the quantity; zero takes the level out. -/
structure Change where
  side : Side
  price : ℚ
  quantity : ℚ
  price_pos : 0 < price
  quantity_nonneg : 0 ≤ quantity

/-- A change to a whole price, which has to be above zero, and a whole quantity. -/
def Change.whole? (side : Side) (price quantity : Nat) : Option Change :=
  if hPrice : 0 < price then
    some ⟨side, price, quantity, Nat.cast_pos.mpr hPrice, quantity.cast_nonneg⟩
  else none

/-- The changes of a book by their ids; there is none before the first id and behind the last. -/
structure History where
  change : Nat → Option Change

/-- Whether a price comes before another on a side. -/
def Side.Better : Side → ℚ → ℚ → Prop
  | .bid, p, q => q < p
  | .ask, p, q => p < q

instance (side : Side) : Std.Asymm side.Better where
  asymm p q hp := by cases side <;> exact lt_asymm hp

instance (side : Side) (p q : ℚ) : Decidable (side.Better p q) :=
  match side with
  | .bid => inferInstanceAs (Decidable (q < p))
  | .ask => inferInstanceAs (Decidable (p < q))

def DiffEvent.side (event : DiffEvent) : Side → List Level
  | .bid => event.bids
  | .ask => event.asks

def Snapshot.side (snapshot : Snapshot) : Side → List Level
  | .bid => snapshot.bids
  | .ask => snapshot.asks

namespace History

variable {h : History} {side : Side} {m n : Nat} {p : ℚ}

/-- The quantities of a side after the change of one more id. -/
def advance (h : History) (side : Side) (id : Nat) (quantity : ℚ → ℚ) : ℚ → ℚ :=
  match h.change id with
  | some c => if c.side = side then Function.update quantity c.price c.quantity else quantity
  | none => quantity

/-- The quantity at each price of a side after all ids up to the given one. -/
def quantity (h : History) (side : Side) : Nat → ℚ → ℚ
  | 0 => h.advance side 0 fun _ => 0
  | n + 1 => h.advance side (n + 1) (h.quantity side n)

/-- Some id from the first to the last one changes the price. -/
def Changed (h : History) (side : Side) (first last : Nat) (p : ℚ) : Prop :=
  ∃ id, first ≤ id ∧ id ≤ last ∧ ∃ c, h.change id = some c ∧ c.side = side ∧ c.price = p

/-- The history with the given changes under the ids from 1 on. -/
def ofList (changes : List (Option Change)) : History :=
  ⟨fun id => if id = 0 then none else changes[id - 1]?.join⟩

/-- The prices that the ids from the first to the last one change. -/
def changes (h : History) (side : Side) (first last : Nat) : List ℚ :=
  (List.range' first (last + 1 - first)).filterMap fun id =>
    (h.change id).bind fun c => if c.side = side then some c.price else none

theorem mem_changes {first last : Nat} :
    p ∈ h.changes side first last ↔ h.Changed side first last p := by
  simp only [changes, List.mem_filterMap, List.mem_range'_1, Option.bind_eq_some_iff,
    Option.ite_none_right_eq_some, Option.some.injEq]
  constructor
  · rintro ⟨id, ⟨hFirst, hLast⟩, hChange⟩
    exact ⟨id, hFirst, by omega, hChange⟩
  · rintro ⟨id, hFirst, hLast, hChange⟩
    exact ⟨id, ⟨hFirst, by omega⟩, hChange⟩

/-! ## Quantities -/

theorem advance_eq_or (h : History) (side : Side) (id : Nat) (quantity : ℚ → ℚ) (p : ℚ) :
    h.advance side id quantity p = quantity p ∨
      ∃ c, h.change id = some c ∧ c.side = side ∧ c.price = p ∧
        h.advance side id quantity p = c.quantity := by
  unfold advance
  cases hChange : h.change id with
  | none => exact Or.inl rfl
  | some c =>
    by_cases hSide : c.side = side
    · by_cases hPrice : p = c.price
      · exact Or.inr ⟨c, rfl, hSide, hPrice.symm, by simp [hSide, hPrice]⟩
      · exact Or.inl (by simp [hSide, Function.update_of_ne hPrice])
    · exact Or.inl (by simp [hSide])

theorem quantity_nonneg (h : History) (side : Side) (n : Nat) (p : ℚ) :
    0 ≤ h.quantity side n p := by
  induction n with
  | zero =>
    rcases h.advance_eq_or side 0 (fun _ => 0) p with hSame | ⟨c, -, -, -, hNew⟩
    · exact hSame.ge
    · exact c.quantity_nonneg.trans_eq hNew.symm
  | succ n ih =>
    rcases h.advance_eq_or side (n + 1) (h.quantity side n) p with hSame | ⟨c, -, -, -, hNew⟩
    · exact ih.trans_eq hSame.symm
    · exact c.quantity_nonneg.trans_eq hNew.symm

/-- A price with a quantity got it from a change. -/
theorem changed_of_quantity_ne_zero (hp : h.quantity side n p ≠ 0) : h.Changed side 0 n p := by
  induction n with
  | zero =>
    rcases h.advance_eq_or side 0 (fun _ => 0) p with hSame | ⟨c, hc, hSide, hPrice, -⟩
    · exact absurd hSame hp
    · exact ⟨0, Nat.le_refl _, Nat.le_refl _, c, hc, hSide, hPrice⟩
  | succ n ih =>
    rcases h.advance_eq_or side (n + 1) (h.quantity side n) p with
      hSame | ⟨c, hc, hSide, hPrice, -⟩
    · obtain ⟨id, hFirst, hLast, hChange⟩ := ih (hSame ▸ hp)
      exact ⟨id, hFirst, by omega, hChange⟩
    · exact ⟨n + 1, Nat.zero_le _, Nat.le_refl _, c, hc, hSide, hPrice⟩

theorem price_pos_of_changed (hp : h.Changed side m n p) : 0 < p := by
  obtain ⟨id, -, -, c, -, -, rfl⟩ := hp
  exact c.price_pos

theorem quantity_eq_of_not_changed (hmn : m ≤ n) (hp : ¬ h.Changed side (m + 1) n p) :
    h.quantity side n p = h.quantity side m p := by
  induction n with
  | zero =>
    have : m = 0 := by omega
    subst this
    rfl
  | succ n ih =>
    by_cases hLast : m = n + 1
    · subst hLast
      rfl
    · rcases h.advance_eq_or side (n + 1) (h.quantity side n) p with
        hSame | ⟨c, hc, hSide, hPrice, -⟩
      · refine Eq.trans hSame (ih (by omega) ?_)
        rintro ⟨id, hFirst, hId, hChange⟩
        exact hp ⟨id, hFirst, by omega, hChange⟩
      · exact absurd ⟨n + 1, by omega, Nat.le_refl _, c, hc, hSide, hPrice⟩ hp

/-! ## Rankings -/

/-- The prices that have a quantity after an id. -/
def prices (h : History) (side : Side) (n : Nat) : Finset ℚ :=
  ((List.range (n + 1)).filterMap fun id => (h.change id).map (·.price)).toFinset.filter
    fun p => h.quantity side n p ≠ 0

theorem mem_prices : p ∈ h.prices side n ↔ h.quantity side n p ≠ 0 := by
  simp only [prices, Finset.mem_filter, List.mem_toFinset, List.mem_filterMap, List.mem_range,
    Option.map_eq_some_iff, and_iff_right_iff_imp]
  intro hp
  obtain ⟨id, -, hLast, c, hc, -, hPrice⟩ := changed_of_quantity_ne_zero hp
  exact ⟨id, by omega, c, hc, hPrice⟩

/-- The prices that have a quantity after an id, best first. -/
def ranking (h : History) (side : Side) (n : Nat) : List ℚ :=
  match side with
  | .bid => (h.prices .bid n).sort.reverse
  | .ask => (h.prices .ask n).sort

theorem mem_ranking : p ∈ h.ranking side n ↔ h.quantity side n p ≠ 0 := by
  cases side <;> simp [ranking, mem_prices]

theorem pairwise_ranking (h : History) (side : Side) (n : Nat) :
    (h.ranking side n).Pairwise side.Better := by
  cases side with
  | bid => exact List.pairwise_reverse.mpr (h.prices .bid n).sortedLT_sort.pairwise
  | ask => exact (h.prices .ask n).sortedLT_sort.pairwise

/-- There is but one list of the prices that have a quantity, best first. -/
theorem ranking_eq {ps : List ℚ} (hOrder : ps.Pairwise side.Better)
    (hPrices : h.prices side n = ps.toFinset) : h.ranking side n = ps := by
  have hSame : ∀ p, p ∈ h.ranking side n ↔ p ∈ ps := by
    intro p
    rw [mem_ranking, ← mem_prices, hPrices, List.mem_toFinset]
  exact (h.pairwise_ranking side n).eq_of_mem_iff hOrder hSame

/-! ## What the exchange sends -/

/-- The levels are the given prices with their quantities after an id, in this order. -/
def Quotes (h : History) (side : Side) (n : Nat) (levels : List Level) (prices : List ℚ) : Prop :=
  List.Forall₂ (fun level p => level.Quotes p (h.quantity side n p)) levels prices

/-- The event covers the ids after the event before it, and lists exactly the prices that changed
in its range with their quantities at its end. -/
structure Emits (h : History) (event : DiffEvent) : Prop where
  range : event.firstUpdateId ≤ event.lastUpdateId
  link : event.prevLastUpdateId.toNat + 1 = event.firstUpdateId.toNat
  lists : ∀ side, Ladder.Lists (event.side side)
    (h.Changed side event.firstUpdateId.toNat event.lastUpdateId.toNat)
    (h.quantity side event.lastUpdateId.toNat)

/-- Levels that quote the changed prices one by one list them. -/
theorem lists_changed {first last : Nat} {levels : List Level} (ps : List ℚ)
    (hChanges : h.changes side first last = ps) (hQuotes : h.Quotes side last levels ps) :
    Ladder.Lists levels (h.Changed side first last) (h.quantity side last) := by
  have hSame : h.Changed side first last = (· ∈ ps) := by
    funext p
    rw [← hChanges, mem_changes]
  rw [hSame]
  exact Ladder.lists_of_quotes hQuotes

/-- The snapshot is the whole book after its id. -/
def Shows (h : History) (snapshot : Snapshot) : Prop :=
  ∀ side, Ladder.Lists (snapshot.side side) (· ∈ h.ranking side snapshot.lastUpdateId.toNat)
    (h.quantity side snapshot.lastUpdateId.toNat)

/-- The snapshot holds the best levels of each side after its id, so many of them at most. -/
def ShowsBest (h : History) (limit : Nat) (snapshot : Snapshot) : Prop :=
  ∀ side, Ladder.Lists (snapshot.side side)
    (· ∈ (h.ranking side snapshot.lastUpdateId.toNat).take limit)
    (h.quantity side snapshot.lastUpdateId.toNat)

end History

end MarketGateway.Book
