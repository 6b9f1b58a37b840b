import Mathlib.Data.List.Forall2
import Mathlib.Data.Rat.Defs
import Mathlib.Logic.Function.Basic
import MarketGateway.Book.Ladder
import MarketGateway.Proofs.Decimal.Numeral

/-!
# What a ladder depicts

A level quotes a price and a quantity when its texts, without the blanks around them, are literals
of these numbers (`Level.Quotes`). It is a well-formed entry for a price above zero when it quotes
the price, and a quantity that is not negative or no quantity at all (`Level.Sets`); what a level
does to a ladder is what it sets (`LevelChange.ofLevel?_spec`).

A ladder depicts an assignment of quantities to prices, where the
quantity zero means that there is no level, when it has one level for each price with a quantity, in
increasing order of price (`Ladder.Depicts`).

* `depicts_put`, `depicts_erase`, `depicts_update`: one change of a ladder changes what it depicts
  at one price.
* `depicts_updateAll`: a list of levels overwrites what is depicted at the prices that it lists.
-/

namespace MarketGateway.Book

open Text

/-! ## Numbers in texts -/

/-- The text is a literal of the number, up to blanks around it. -/
def Denotes (text : String) (x : ℚ) : Prop :=
  ∃ d, Decimal.ofText? (trim text) = some d ∧ d.value = x

theorem Denotes.unique {text : String} {x y : ℚ} (hx : Denotes text x) (hy : Denotes text y) :
    x = y := by
  obtain ⟨d, hd, rfl⟩ := hx
  obtain ⟨e, he, rfl⟩ := hy
  cases hd.symm.trans he
  rfl

theorem not_denotes_of_blank {text : String} {x : ℚ} (hBlank : trim text = "") :
    ¬ Denotes text x := by
  rintro ⟨d, hd, -⟩
  have hNone : Decimal.ofText? "" = none := by decide
  rw [hBlank, hNone] at hd
  cases hd

/-- A run of digits that fit denotes its number. -/
theorem denotes_whole {whole : List Char} {n : Nat} (hSome : whole ≠ [])
    (hValue : digitsValue? 0 whole = some n) (hFit : n < Decimal.mantissaLimit) :
    Denotes (String.ofList whole) n :=
  ⟨_, Decimal.ofText?_whole hSome hValue hFit, by simp [Decimal.value_ofParts]⟩

/-- Digits around a point denote their number over a power of ten, with nothing rounded away. -/
theorem denotes_fraction {whole fraction : List Char} {n : Nat} (hSome : whole ≠ [])
    (hValue : digitsValue? 0 (whole ++ fraction) = some n) (hFit : n < Decimal.mantissaLimit)
    (hScale : fraction.length ≤ Decimal.maxScale) :
    Denotes (String.ofList (whole ++ '.' :: fraction)) (n / (Nat.pow 10 fraction.length : ℕ)) :=
  ⟨_, Decimal.ofText?_fraction hSome hValue hFit hScale, by simp [Decimal.value_ofParts]⟩

/-- The texts of the level denote the price and the quantity. -/
structure Level.Quotes (level : Level) (price quantity : ℚ) : Prop where
  price : Denotes level.price price
  quantity : Denotes level.quantity quantity

theorem Level.Quotes.price_unique {level : Level} {p p' q q' : ℚ} (h : level.Quotes p q)
    (h' : level.Quotes p' q') : p = p' :=
  h.price.unique h'.price

theorem Level.Quotes.price_iff {level : Level} {p q : ℚ} (h : level.Quotes p q) (m : ℚ → ℚ)
    (hq : q = m p) (p' : ℚ) : level.Quotes p' (m p') ↔ p' = p := by
  subst hq
  exact ⟨fun h' => h'.price_unique h, fun hp => hp ▸ h⟩

theorem Level.quotes_whole (price quantity : List Char) (p q : Nat) {x : ℚ}
    (hPrice : price ≠ [] ∧ digitsValue? 0 price = some p ∧ p < Decimal.mantissaLimit)
    (hQuantity : quantity ≠ [] ∧ digitsValue? 0 quantity = some q ∧ q < Decimal.mantissaLimit)
    (hx : x = q) : Level.Quotes ⟨String.ofList price, String.ofList quantity⟩ p x where
  price := denotes_whole hPrice.1 hPrice.2.1 hPrice.2.2
  quantity := hx ▸ denotes_whole hQuantity.1 hQuantity.2.1 hQuantity.2.2

/-! ## What a level does -/

/-- The level sets the quantity at a price above zero; a blank quantity is zero. -/
structure Level.Sets (level : Level) (price quantity : ℚ) : Prop where
  denotes : Denotes level.price price
  positive : 0 < price
  amount : (trim level.quantity = "" ∧ quantity = 0) ∨ Denotes level.quantity quantity
  nonneg : 0 ≤ quantity

/-- The level is a well-formed entry for some price. -/
def Level.IsEntry (level : Level) : Prop := ∃ price quantity, level.Sets price quantity

theorem Level.Sets.quotes {level : Level} {p q : ℚ} (hSets : level.Sets p q) (hq : 0 < q) :
    level.Quotes p q := by
  refine ⟨hSets.denotes, ?_⟩
  rcases hSets.amount with ⟨-, rfl⟩ | hQuantity
  · exact absurd hq (lt_irrefl 0)
  · exact hQuantity

/-- A level is an entry for one price, with one quantity. -/
theorem Level.Sets.unique {level : Level} {p p' q q' : ℚ} (hSets : level.Sets p q)
    (hOther : level.Sets p' q') : p = p' ∧ q = q' := by
  refine ⟨hSets.denotes.unique hOther.denotes, ?_⟩
  rcases hSets.amount with ⟨hBlank, rfl⟩ | hQuantity
  · rcases hOther.amount with ⟨-, rfl⟩ | hQuantity'
    · rfl
    · exact absurd hQuantity' (not_denotes_of_blank hBlank)
  · rcases hOther.amount with ⟨hBlank, -⟩ | hQuantity'
    · exact absurd hQuantity (not_denotes_of_blank hBlank)
    · exact hQuantity.unique hQuantity'

/-- A level sets nothing at other prices than its own. -/
theorem Level.Sets.sets_nothing_iff {level : Level} {p p' q : ℚ} (hSets : level.Sets p q) :
    (∀ q', ¬ level.Sets p' q') ↔ p' ≠ p := by
  constructor
  · rintro hNone rfl
    exact hNone q hSets
  · intro hNe q' hOther
    exact hNe (hOther.unique hSets).1

/-- What a level can stand for. -/
inductive LevelChange.Reads (level : Level) : Option LevelChange → Prop
  | put {price : Decimal} {quantity : ℚ} (hPrice : Decimal.ofText? (trim level.price) = some price)
      (hSets : level.Sets price.value quantity) (hQuantity : 0 < quantity) :
      Reads level (some (.put price level))
  | erase {price : Decimal} (hSets : level.Sets price.value 0) : Reads level (some (.erase price))
  | malformed (hMalformed : ¬ level.IsEntry) : Reads level none

theorem LevelChange.ofLevel?_spec (level : Level) : Reads level (ofLevel? level) := by
  unfold ofLevel?
  split
  · next hNone =>
    refine .malformed ?_
    rintro ⟨p, q, ⟨⟨d, hd, -⟩, -, -, -⟩⟩
    rw [hNone] at hd
    cases hd
  · next price hPrice =>
    have hDenotes : Denotes level.price price.value := ⟨price, hPrice, rfl⟩
    dsimp only
    split
    · next hSign =>
      refine .malformed ?_
      rintro ⟨p, q, hSets⟩
      have hPositive : price.isPositive = true :=
        Decimal.isPositive_iff.mpr (hDenotes.unique hSets.denotes ▸ hSets.positive)
      simp [hPositive] at hSign
    · next hSign =>
      have hPos : 0 < price.value := Decimal.isPositive_iff.mp (by simpa using hSign)
      split
      · next hBlank => exact .erase ⟨hDenotes, hPos, .inl ⟨hBlank, rfl⟩, le_refl 0⟩
      · next hText =>
        split
        · next hNone =>
          refine .malformed ?_
          rintro ⟨p, q, -, -, ⟨hBlank, -⟩ | ⟨d, hd, -⟩, -⟩
          · exact hText hBlank
          · rw [hNone] at hd
            cases hd
        · next quantity hQuantity =>
          have hAmount : Denotes level.quantity quantity.value := ⟨quantity, hQuantity, rfl⟩
          split
          · next hZero =>
            have hValue := Decimal.isZero_iff.mp hZero
            exact .erase ⟨hDenotes, hPos, .inr (hValue ▸ hAmount), le_refl 0⟩
          · next hNonzero =>
            have hValue : quantity.value ≠ 0 := fun hValue =>
              hNonzero (Decimal.isZero_iff.mpr hValue)
            split
            · next hNegative =>
              refine .malformed ?_
              rintro ⟨p, q, -, -, ⟨hBlank, -⟩ | hOther, hNonneg⟩
              · exact hText hBlank
              · rw [← hAmount.unique hOther] at hNonneg
                exact absurd hNonneg
                  (not_le.mpr (Decimal.value_neg_of_negative hNegative hValue))
            · next hSigned =>
              have hNonneg : 0 ≤ quantity.value := by
                rw [Decimal.value_of_nonneg (by simpa using hSigned)]
                positivity
              exact .put hPrice ⟨hDenotes, hPos, .inr hAmount, hNonneg⟩
                (lt_of_le_of_ne hNonneg hValue.symm)

/-- A level with a price above zero is a change of that price: the level is put in when it quotes a
quantity above zero, and taken out when it quotes zero. -/
theorem LevelChange.ofLevel?_of_quotes {level : Level} {p q : ℚ} (h : level.Quotes p q)
    (hp : 0 < p) (hq : 0 ≤ q) :
    ∃ d : Decimal, d.value = p ∧
      LevelChange.ofLevel? level = some (if q = 0 then .erase d else .put d level) := by
  have hSets : level.Sets p q := ⟨h.price, hp, .inr h.quantity, hq⟩
  have hReads := ofLevel?_spec level
  generalize ofLevel? level = change at hReads
  cases hReads with
  | put _ hOther hPos =>
    obtain ⟨rfl, rfl⟩ := hSets.unique hOther
    exact ⟨_, rfl, by rw [if_neg hPos.ne']⟩
  | erase hOther =>
    obtain ⟨rfl, rfl⟩ := hSets.unique hOther
    exact ⟨_, rfl, by rw [if_pos rfl]⟩
  | malformed hMalformed => exact absurd ⟨p, q, hSets⟩ hMalformed

namespace Ladder

/-! ## Entries of a ladder -/

/-- The entries stand in increasing order of price. -/
def Sorted (entries : List (Decimal × Level)) : Prop :=
  entries.Pairwise fun a b => a.1.value < b.1.value

theorem mem_putEntry {price : Decimal} {level : Level} {entries : List (Decimal × Level)}
    (h : Sorted entries) {entry : Decimal × Level} :
    entry ∈ putEntry price level entries ↔
      entry = (price, level) ∨ (entry ∈ entries ∧ entry.1.value ≠ price.value) := by
  induction entries with
  | nil => simp [putEntry]
  | cons first rest ih =>
    obtain ⟨hFirst, hRest⟩ := List.pairwise_cons.mp h
    rw [putEntry]
    cases hOrder : price.compare first.1 with
    | lt =>
      have hPrice := Decimal.compare_eq_lt_iff.mp hOrder
      have hAway : ∀ e ∈ first :: rest, e.1.value ≠ price.value := by
        intro e he
        rcases List.mem_cons.mp he with rfl | he
        · exact hPrice.ne'
        · exact (hPrice.trans (hFirst e he)).ne'
      constructor
      · intro hMem
        rcases List.mem_cons.mp hMem with rfl | hMem
        · exact Or.inl rfl
        · exact Or.inr ⟨hMem, hAway entry hMem⟩
      · rintro (rfl | ⟨hMem, -⟩)
        · exact List.mem_cons_self
        · exact List.mem_cons_of_mem _ hMem
    | eq =>
      have hPrice := Decimal.compare_eq_eq_iff.mp hOrder
      constructor
      · intro hMem
        rcases List.mem_cons.mp hMem with rfl | hMem
        · exact Or.inl rfl
        · exact Or.inr ⟨List.mem_cons_of_mem _ hMem, hPrice ▸ (hFirst entry hMem).ne'⟩
      · rintro (rfl | ⟨hMem, hNe⟩)
        · exact List.mem_cons_self
        · rcases List.mem_cons.mp hMem with rfl | hMem
          · exact absurd hPrice.symm hNe
          · exact List.mem_cons_of_mem _ hMem
    | gt =>
      have hPrice := Decimal.compare_eq_gt_iff.mp hOrder
      simp only [List.mem_cons, ih hRest]
      constructor
      · rintro (rfl | rfl | ⟨hMem, hNe⟩)
        · exact Or.inr ⟨Or.inl rfl, hPrice.ne⟩
        · exact Or.inl rfl
        · exact Or.inr ⟨Or.inr hMem, hNe⟩
      · rintro (rfl | ⟨rfl | hMem, hNe⟩)
        · exact Or.inr (Or.inl rfl)
        · exact Or.inl rfl
        · exact Or.inr (Or.inr ⟨hMem, hNe⟩)

theorem sorted_putEntry {price : Decimal} {level : Level} {entries : List (Decimal × Level)}
    (h : Sorted entries) : Sorted (putEntry price level entries) := by
  induction entries with
  | nil => exact List.pairwise_singleton _ _
  | cons first rest ih =>
    obtain ⟨hFirst, hRest⟩ := List.pairwise_cons.mp h
    rw [putEntry]
    cases hOrder : price.compare first.1 with
    | lt =>
      have hPrice := Decimal.compare_eq_lt_iff.mp hOrder
      refine List.pairwise_cons.mpr ⟨?_, h⟩
      intro e he
      rcases List.mem_cons.mp he with rfl | he
      · exact hPrice
      · exact hPrice.trans (hFirst e he)
    | eq =>
      have hPrice := Decimal.compare_eq_eq_iff.mp hOrder
      refine List.pairwise_cons.mpr ⟨?_, hRest⟩
      intro e he
      exact hPrice ▸ hFirst e he
    | gt =>
      have hPrice := Decimal.compare_eq_gt_iff.mp hOrder
      refine List.pairwise_cons.mpr ⟨?_, ih hRest⟩
      intro e he
      rcases (mem_putEntry hRest).mp he with rfl | ⟨he, -⟩
      · exact hPrice
      · exact hFirst e he

/-! ## Depicted quantities -/

/-- The ladder has exactly the levels with a quantity, each under its price and with that
quantity. -/
structure Depicts (ladder : Ladder) (quantity : ℚ → ℚ) : Prop where
  sorted : Sorted ladder.entries
  quoted : ∀ entry ∈ ladder.entries,
    0 < quantity entry.1.value ∧ entry.2.Quotes entry.1.value (quantity entry.1.value)
  complete : ∀ p, 0 < quantity p → ∃ entry ∈ ladder.entries, entry.1.value = p

variable {ladder : Ladder} {quantity : ℚ → ℚ}

theorem depicts_empty : ({} : Ladder).Depicts fun _ => 0 where
  sorted := List.Pairwise.nil
  quoted := by
    intro entry hEntry
    cases hEntry
  complete := by
    intro p hp
    exact absurd hp (lt_irrefl 0)

theorem depicts_put (h : ladder.Depicts quantity) {price : Decimal} {level : Level} {q : ℚ}
    (hQuotes : level.Quotes price.value q) (hq : 0 < q) :
    (ladder.put price level).Depicts (Function.update quantity price.value q) where
  sorted := sorted_putEntry h.sorted
  quoted := by
    intro entry hEntry
    rcases (mem_putEntry h.sorted).mp hEntry with rfl | ⟨hMem, hNe⟩
    · simpa using ⟨hq, hQuotes⟩
    · rw [Function.update_of_ne hNe]
      exact h.quoted entry hMem
  complete := by
    intro p hp
    by_cases hPrice : p = price.value
    · exact ⟨(price, level), (mem_putEntry h.sorted).mpr (Or.inl rfl), hPrice.symm⟩
    · rw [Function.update_of_ne hPrice] at hp
      obtain ⟨entry, hMem, rfl⟩ := h.complete p hp
      exact ⟨entry, (mem_putEntry h.sorted).mpr (Or.inr ⟨hMem, hPrice⟩), rfl⟩

theorem mem_erase {price : Decimal} {entry : Decimal × Level} :
    entry ∈ (ladder.erase price).entries ↔
      entry ∈ ladder.entries ∧ entry.1.value ≠ price.value := by
  rw [erase, List.mem_filter, Bool.not_eq_true', Bool.eq_false_iff, Ne, Decimal.sameValue_iff,
    ne_comm]

theorem depicts_erase (h : ladder.Depicts quantity) (price : Decimal) :
    (ladder.erase price).Depicts (Function.update quantity price.value 0) where
  sorted := h.sorted.filter _
  quoted := by
    intro entry hEntry
    obtain ⟨hMem, hNe⟩ := mem_erase.mp hEntry
    rw [Function.update_of_ne hNe]
    exact h.quoted entry hMem
  complete := by
    intro p hp
    have hNe : p ≠ price.value := by
      rintro rfl
      simp at hp
    rw [Function.update_of_ne hNe] at hp
    obtain ⟨entry, hMem, rfl⟩ := h.complete p hp
    exact ⟨entry, mem_erase.mpr ⟨hMem, hNe⟩, rfl⟩

theorem depicts_update (h : ladder.Depicts quantity) {level : Level} {p q : ℚ}
    (hQuotes : level.Quotes p q) (hp : 0 < p) (hq : 0 ≤ q) :
    (ladder.update level).Depicts (Function.update quantity p q) := by
  obtain ⟨d, rfl, hChange⟩ := LevelChange.ofLevel?_of_quotes hQuotes hp hq
  rw [update, hChange]
  by_cases hZero : q = 0
  · subst hZero
    simpa only [if_true, apply] using depicts_erase h d
  · have hPos : 0 < q := lt_of_le_of_ne hq (Ne.symm hZero)
    simpa only [hZero, if_false, apply] using depicts_put h hQuotes hPos

/-! ## Lists of levels -/

/-- The levels are one or more for each of the prices, and each has the quantity at its price. -/
def Lists (levels : List Level) (prices : ℚ → Prop) (quantity : ℚ → ℚ) : Prop :=
  (∀ level ∈ levels, ∃ p, prices p ∧ level.Quotes p (quantity p)) ∧
    ∀ p, prices p → ∃ level ∈ levels, level.Quotes p (quantity p)

/-- Levels that quote prices one by one list them. -/
theorem lists_of_quotes {levels : List Level} {ps : List ℚ} {m : ℚ → ℚ}
    (h : List.Forall₂ (fun level p => level.Quotes p (m p)) levels ps) :
    Lists levels (· ∈ ps) m := by
  induction h with
  | nil =>
    exact ⟨fun _ hLevel => absurd hLevel List.not_mem_nil, fun _ hp => absurd hp List.not_mem_nil⟩
  | @cons level p levels ps hQuotes _ ih =>
    constructor
    · intro l hl
      rcases List.mem_cons.mp hl with rfl | hl
      · exact ⟨p, List.mem_cons_self, hQuotes⟩
      · obtain ⟨p', hp', hQuotes'⟩ := ih.1 l hl
        exact ⟨p', List.mem_cons_of_mem _ hp', hQuotes'⟩
    · intro p' hp'
      rcases List.mem_cons.mp hp' with rfl | hp'
      · exact ⟨level, List.mem_cons_self, hQuotes⟩
      · obtain ⟨l, hl, hQuotes'⟩ := ih.2 p' hp'
        exact ⟨l, List.mem_cons_of_mem _ hl, hQuotes'⟩

open Classical in
/-- Levels with one quantity for each price overwrite what is depicted at their prices. -/
theorem depicts_foldl_update {levels : List Level} {target : ℚ → ℚ}
    (h : ladder.Depicts quantity)
    (hLevels : ∀ level ∈ levels, ∃ p, 0 < p ∧ 0 ≤ target p ∧ level.Quotes p (target p)) :
    (levels.foldl update ladder).Depicts fun p =>
      if ∃ level ∈ levels, level.Quotes p (target p) then target p else quantity p := by
  induction levels generalizing ladder quantity with
  | nil => simpa using h
  | cons level rest ih =>
    obtain ⟨p, hp, hq, hQuotes⟩ := hLevels level List.mem_cons_self
    have hStep := ih (depicts_update h hQuotes hp hq)
      (fun l hl => hLevels l (List.mem_cons_of_mem _ hl))
    rw [List.foldl_cons]
    convert hStep using 1
    funext p'
    simp only [List.exists_mem_cons_iff, hQuotes.price_iff target rfl]
    by_cases hSame : p' = p
    · subst hSame
      simp
    · simp [hSame]

open Classical in
theorem depicts_updateAll {levels : List Level} {prices : ℚ → Prop} {target : ℚ → ℚ}
    (h : ladder.Depicts quantity) (hLists : Lists levels prices target)
    (hPrices : ∀ p, prices p → 0 < p ∧ 0 ≤ target p) :
    (ladder.updateAll levels).Depicts fun p => if prices p then target p else quantity p := by
  have hLevels : ∀ level ∈ levels, ∃ p, 0 < p ∧ 0 ≤ target p ∧ level.Quotes p (target p) := by
    intro level hLevel
    obtain ⟨p, hp, hQuotes⟩ := hLists.1 level hLevel
    exact ⟨p, (hPrices p hp).1, (hPrices p hp).2, hQuotes⟩
  have hStep := depicts_foldl_update h hLevels
  rw [updateAll]
  convert hStep using 3 with p
  constructor
  · exact hLists.2 p
  · rintro ⟨level, hLevel, hQuotes⟩
    obtain ⟨p', hp', hQuotes'⟩ := hLists.1 level hLevel
    exact hQuotes'.price_unique hQuotes ▸ hp'

end Ladder

end MarketGateway.Book
