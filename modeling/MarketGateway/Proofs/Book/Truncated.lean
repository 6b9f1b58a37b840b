import Mathlib.Data.List.Perm.Subperm
import MarketGateway.Book.View
import MarketGateway.Proofs.Book.Fidelity

/-!
# Replicas of truncated snapshots

A snapshot of limited depth leaves levels out, and the events after it mention only levels that
change. A level that was left out and that no event has mentioned since is hidden from the replica
(`History.Hidden`); it knows all others. So the best levels of a replica are the best of the levels
that are not hidden (`quotes_best`), and they are the true best ones exactly if no hidden level is
among those (`quotes_true_best_iff`).

Hidden levels are worse than all levels of the snapshot. They stay out of the best `n` as long as
enough levels of the snapshot are left in front of them (`not_hidden_of_few_removed`).
-/

namespace MarketGateway.Book

namespace History

variable {h : History} {limit : Nat} {snapshot : Snapshot} {events : List DiffEvent}
  {book : Replica} {side : Side} {p : ℚ}

/-- The replica of a snapshot after events that each go on from its cursor or reach over it. -/
inductive Grows (h : History) (snapshot : Snapshot) : List DiffEvent → Replica → Prop
  | taken (symbol : String) : Grows h snapshot [] (Replica.ofSnapshot symbol snapshot)
  | advance {events : List DiffEvent} {book : Replica} {event : DiffEvent}
      (hBook : Grows h snapshot events book) (hEvent : h.Emits event)
      (hFirst : event.firstUpdateId.toNat ≤ book.lastUpdateId.toNat + 1)
      (hLast : book.lastUpdateId.toNat < event.lastUpdateId.toNat) :
      Grows h snapshot (events ++ [event]) (book.advance event)

/-- The replica comes from one of the snapshots that were taken and events that were heard. -/
def Grown (h : History) (Taken : Snapshot → Prop) (Heard : DiffEvent → Prop) (book : Replica) :
    Prop :=
  ∃ snapshot events, Taken snapshot ∧ (∀ event ∈ events, Heard event) ∧
    h.Grows snapshot events book

theorem extends_grown {Taken : Snapshot → Prop} {Heard : DiffEvent → Prop}
    (hEmits : ∀ event, Heard event → h.Emits event) : h.Extends Heard (h.Grown Taken Heard) := by
  refine ⟨hEmits, ?_⟩
  rintro book event ⟨snapshot, events, hTaken, hHeard, hGrows⟩ hEvent hFirst hLast
  have hAdvanced := hGrows.advance (hEmits event hEvent) hFirst hLast
  refine ⟨snapshot, events ++ [event], hTaken, ?_, hAdvanced⟩
  intro other hOther
  rcases List.mem_append.mp hOther with hOld | hNew
  · exact hHeard other hOld
  · exact List.mem_singleton.mp hNew ▸ hEvent

/-- The level was left out of the snapshot, and no event has mentioned it since. -/
def Hidden (h : History) (limit : Nat) (snapshot : Snapshot) (events : List DiffEvent)
    (side : Side) (p : ℚ) : Prop :=
  p ∈ h.ranking side snapshot.lastUpdateId.toNat ∧
    p ∉ (h.ranking side snapshot.lastUpdateId.toNat).take limit ∧
    ∀ event ∈ events,
      ¬ h.Changed side event.firstUpdateId.toNat event.lastUpdateId.toNat p

theorem hidden_append {event : DiffEvent} : h.Hidden limit snapshot (events ++ [event]) side p ↔
    h.Hidden limit snapshot events side p ∧
      ¬ h.Changed side event.firstUpdateId.toNat event.lastUpdateId.toNat p := by
  simp only [Hidden, List.forall_mem_append, List.forall_mem_singleton, and_assoc]

open Classical in
/-- The prices that have a quantity after an id and are not hidden, best first. -/
noncomputable def knownRanking (h : History) (limit : Nat) (snapshot : Snapshot)
    (events : List DiffEvent) (side : Side) (n : Nat) : List ℚ :=
  (h.ranking side n).filter fun p => ¬ h.Hidden limit snapshot events side p

/-! ## What the replica knows -/

open Classical in
theorem Grows.depicts (hShows : h.ShowsBest limit snapshot) (hGrows : h.Grows snapshot events book) :
    book.Depicts fun side p => if h.Hidden limit snapshot events side p then 0
      else h.quantity side book.lastUpdateId.toNat p := by
  induction hGrows with
  | taken symbol =>
    refine (Replica.depicts_ofSnapshot symbol hShows (fun side p hp =>
      ⟨price_pos_of_changed (changed_of_quantity_ne_zero
        (mem_ranking.mp (List.mem_of_mem_take hp))), h.quantity_nonneg side _ p⟩)).congr ?_
    intro side p
    by_cases hTaken : p ∈ (h.ranking side snapshot.lastUpdateId.toNat).take limit
    · have hKnown : ¬ h.Hidden limit snapshot [] side p := fun hHidden => hHidden.2.1 hTaken
      rw [if_pos hTaken, if_neg hKnown]
      rfl
    · rw [if_neg hTaken]
      by_cases hThere : p ∈ h.ranking side snapshot.lastUpdateId.toNat
      · have hHidden : h.Hidden limit snapshot [] side p :=
          ⟨hThere, hTaken, fun _ hEvent => absurd hEvent List.not_mem_nil⟩
        rw [if_pos hHidden]
      · have hKnown : ¬ h.Hidden limit snapshot [] side p := fun hHidden => hThere hHidden.1
        rw [if_neg hKnown]
        exact (not_not.mp (fun hne => hThere (mem_ranking.mpr hne))).symm
  | @advance events book event hBook hEvent hFirst hLast ih =>
    refine (Replica.depicts_advance ih hEvent.lists (fun side p hp =>
      ⟨price_pos_of_changed hp, h.quantity_nonneg side _ p⟩)).congr ?_
    intro side p
    simp only [hidden_append]
    by_cases hChanged : h.Changed side event.firstUpdateId.toNat event.lastUpdateId.toNat p
    · simp only [hChanged, if_true, not_true_eq_false, and_false, if_false]
      rfl
    · simp only [hChanged, if_false, not_false_eq_true, and_true]
      have hSame : h.quantity side event.lastUpdateId.toNat p =
          h.quantity side book.lastUpdateId.toNat p := by
        refine quantity_eq_of_not_changed hLast.le ?_
        rintro ⟨id, hId, hEnd, hChange⟩
        exact hChanged ⟨id, by omega, hEnd, hChange⟩
      rw [← hSame]
      rfl

open Classical in
/-- The best levels of the replica are the best of the levels that are not hidden. -/
theorem Grows.quotes_best (hShows : h.ShowsBest limit snapshot)
    (hGrows : h.Grows snapshot events book) (n : Nat) (side : Side) :
    h.Quotes side book.lastUpdateId.toNat (book.best n side)
      ((h.knownRanking limit snapshot events side book.lastUpdateId.toNat).take n) := by
  have hNonneg : ∀ p, 0 ≤ if h.Hidden limit snapshot events side p then 0
      else h.quantity side book.lastUpdateId.toNat p := by
    intro p
    split
    · exact le_refl 0
    · exact h.quantity_nonneg side _ p
  have hKnown : ∀ p, p ∈ h.knownRanking limit snapshot events side book.lastUpdateId.toNat ↔
      (if h.Hidden limit snapshot events side p then 0
        else h.quantity side book.lastUpdateId.toNat p) ≠ 0 := by
    intro p
    rw [knownRanking, List.mem_filter, mem_ranking, decide_eq_true_iff]
    by_cases hHidden : h.Hidden limit snapshot events side p <;> simp [hHidden]
  have hRanked := Replica.quotes_ranked (hGrows.depicts hShows side) hNonneg
    ((h.pairwise_ranking side book.lastUpdateId.toNat).filter _) hKnown
  refine List.forall₂_take n ?_
  rw [List.forall₂_iff_zip] at hRanked ⊢
  refine ⟨hRanked.1, ?_⟩
  intro level p hPair
  have hMem : p ∈ h.knownRanking limit snapshot events side book.lastUpdateId.toNat :=
    (List.of_mem_zip hPair).2
  have hShown : ¬ h.Hidden limit snapshot events side p :=
    decide_eq_true_iff.mp (List.mem_filter.mp hMem).2
  simpa only [if_neg hShown] using hRanked.2 hPair

/-! ## When the view is true -/

/-- Levels quote one list of prices. -/
theorem Quotes.unique {n : Nat} {levels : List Level} {ps qs : List ℚ}
    (hps : h.Quotes side n levels ps) (hqs : h.Quotes side n levels qs) : ps = qs := by
  induction hps generalizing qs with
  | nil =>
    cases hqs
    rfl
  | cons hQuotes _ ih =>
    cases hqs with
    | cons hQuotes' hRest => rw [hQuotes.price_unique hQuotes', ih hRest]

/-- A cut of a filtered list is the cut of the whole list if the filter lets all of that through. -/
theorem take_filter_eq_take_iff {xs : List ℚ} {keep : ℚ → Bool} {n : Nat} :
    (xs.filter keep).take n = xs.take n ↔ ∀ x ∈ xs.take n, keep x = true := by
  constructor
  · intro hEq x hx
    rw [← hEq] at hx
    exact (List.mem_filter.mp (List.mem_of_mem_take hx)).2
  · intro hKeep
    have hSplit : xs.filter keep = xs.take n ++ (xs.drop n).filter keep := by
      conv_lhs => rw [← List.take_append_drop n xs]
      rw [List.filter_append, List.filter_eq_self.mpr hKeep]
    rw [hSplit]
    by_cases hLong : n ≤ xs.length
    · exact List.take_left' (List.length_take_of_le hLong)
    · have hDrop : xs.drop n = [] := List.drop_eq_nil_of_le (by omega)
      rw [hDrop, List.filter_nil, List.append_nil, List.take_take, min_self]

/-- The best levels of the replica are the true best ones exactly if none of these is hidden. -/
theorem Grows.quotes_true_best_iff (hShows : h.ShowsBest limit snapshot)
    (hGrows : h.Grows snapshot events book) (n : Nat) (side : Side) :
    h.Quotes side book.lastUpdateId.toNat (book.best n side)
        ((h.ranking side book.lastUpdateId.toNat).take n) ↔
      ∀ p ∈ (h.ranking side book.lastUpdateId.toNat).take n,
        ¬ h.Hidden limit snapshot events side p := by
  have hBest := hGrows.quotes_best hShows n side
  have hCut : (h.knownRanking limit snapshot events side book.lastUpdateId.toNat).take n =
      (h.ranking side book.lastUpdateId.toNat).take n ↔
      ∀ p ∈ (h.ranking side book.lastUpdateId.toNat).take n,
        ¬ h.Hidden limit snapshot events side p := by
    rw [knownRanking, take_filter_eq_take_iff]
    simp only [decide_eq_true_iff]
  rw [← hCut]
  constructor
  · intro hTrue
    exact hBest.unique hTrue
  · intro hEq
    exact hEq ▸ hBest

/-- Fewer than `n` prices are better than one of the best `n`. -/
theorem length_lt_of_mem_take {xs ys : List ℚ} {n : Nat} (hOrder : xs.Pairwise side.Better)
    (hp : p ∈ xs.take n) (hNodup : ys.Nodup) (hys : ∀ y ∈ ys, y ∈ xs ∧ side.Better y p) :
    ys.length < n := by
  obtain ⟨i, hi, rfl⟩ := List.mem_take_iff_getElem.mp hp
  have hFront : ys ⊆ xs.take i := by
    intro y hy
    obtain ⟨hMem, hBetter⟩ := hys y hy
    obtain ⟨j, hj, rfl⟩ := List.mem_iff_getElem.mp hMem
    rcases Nat.lt_trichotomy j i with hBefore | rfl | hBehind
    · exact List.mem_take_iff_getElem.mpr ⟨j, by omega, rfl⟩
    · exact absurd hBetter (Std.Irrefl.irrefl _)
    · have hWorse := List.pairwise_iff_getElem.mp hOrder i j (by omega) hj hBehind
      exact absurd hBetter (Std.Asymm.asymm _ _ hWorse)
  have hLength := (List.subperm_of_subset hNodup hFront).length_le
  rw [List.length_take] at hLength
  omega

/-- A hidden level is behind a full snapshot. -/
theorem Hidden.behind (hHidden : h.Hidden limit snapshot events side p) :
    limit < (h.ranking side snapshot.lastUpdateId.toNat).length ∧
      ∀ q ∈ (h.ranking side snapshot.lastUpdateId.toNat).take limit, side.Better q p := by
  obtain ⟨hThere, hOut, -⟩ := hHidden
  have hOrder := h.pairwise_ranking side snapshot.lastUpdateId.toNat
  rw [← List.take_append_drop limit (h.ranking side snapshot.lastUpdateId.toNat)] at hOrder hThere
  have hBehind : p ∈ (h.ranking side snapshot.lastUpdateId.toNat).drop limit :=
    (List.mem_append.mp hThere).resolve_left hOut
  refine ⟨?_, fun q hq => (List.pairwise_append.mp hOrder).2.2 q hq p hBehind⟩
  have hSome := List.length_pos_of_mem hBehind
  rw [List.length_drop] at hSome
  omega

/-- Hidden levels stay behind the best `n` while enough levels of the snapshot are left: at most
`limit - n` of them have been taken out. -/
theorem not_hidden_of_few_removed {n cursor : Nat}
    (hFew : (((h.ranking side snapshot.lastUpdateId.toNat).take limit).filter
      fun p => h.quantity side cursor p = 0).length + n ≤ limit) :
    ∀ p ∈ (h.ranking side cursor).take n, ¬ h.Hidden limit snapshot events side p := by
  intro p hBest hHidden
  obtain ⟨hLong, hBetter⟩ := hHidden.behind
  have hSplit := ((h.ranking side snapshot.lastUpdateId.toNat).take limit).length_eq_length_filter_add
    fun p => h.quantity side cursor p = 0
  rw [List.length_take_of_le hLong.le] at hSplit
  have hNodup : (h.ranking side snapshot.lastUpdateId.toNat).Nodup := by
    refine List.Pairwise.imp ?_ (h.pairwise_ranking side snapshot.lastUpdateId.toNat)
    rintro p q hBetter rfl
    exact Std.Irrefl.irrefl p hBetter
  have hLeft := length_lt_of_mem_take (h.pairwise_ranking side cursor) hBest
    ((hNodup.sublist (List.take_sublist limit _)).filter
      fun p => !decide (h.quantity side cursor p = 0))
    (by
      intro q hq
      obtain ⟨hTaken, hKept⟩ := List.mem_filter.mp hq
      exact ⟨mem_ranking.mpr (by simpa using hKept), hBetter q hTaken⟩)
  omega

end History

end MarketGateway.Book
