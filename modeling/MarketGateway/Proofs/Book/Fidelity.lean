import MarketGateway.Proofs.Book.Replica
import MarketGateway.Proofs.Book.Synchronizer

/-!
# Synchronized replicas are true

A synchronizer is given events and snapshots that are true to a history, in any order, with any of
them missing or repeated, and is begun, reset and timed out at will. Whenever it is in step, its
replica is the true book after its cursor (`synced_replica_true`).

What a replica has to satisfy is carried through the run as a predicate: it has to hold of the
replica of every snapshot, and to survive every event that was heard and reaches over the cursor
(`History.Extends`). The synchronizer applies no other events (`carries_run`).
-/

namespace MarketGateway.Book

variable {h : History} {Heard : DiffEvent → Prop} {P : Replica → Prop} {sync : Synchronizer}

/-- The events that may be heard belong to the history, and each of them that goes on from the
cursor, or reaches over it, keeps the property. -/
structure History.Extends (h : History) (Heard : DiffEvent → Prop) (P : Replica → Prop) :
    Prop where
  emits : ∀ event, Heard event → h.Emits event
  advance : ∀ book event, P book → Heard event →
    event.firstUpdateId.toNat ≤ book.lastUpdateId.toNat + 1 →
    book.lastUpdateId.toNat < event.lastUpdateId.toNat → P (book.advance event)

namespace Synchronizer

/-- Buffered events were heard, the replica has the property, and there is one when the synchronizer
is in step. -/
structure Carries (Heard : DiffEvent → Prop) (P : Replica → Prop) (sync : Synchronizer) :
    Prop where
  buffered : ∀ event ∈ sync.buffer, Heard event
  replica : ∀ book, sync.book = some book → P book
  installed : sync.state = .synced → sync.book ≠ none

/-! ## Steps -/

theorem carries_begin (sync : Synchronizer) : sync.begin.Carries Heard P :=
  ⟨(fun _ he => by simp [begin] at he), (fun _ hb => by simp [begin] at hb), (fun hs => by cases hs)⟩

theorem carries_reset (sync : Synchronizer) : sync.reset.Carries Heard P :=
  ⟨(fun _ he => by simp [reset] at he), (fun _ hb => by simp [reset] at hb), (fun hs => by cases hs)⟩

theorem carries_onBridgeTimeout (hSync : sync.Carries Heard P) :
    sync.onBridgeTimeout.Carries Heard P := by
  unfold onBridgeTimeout
  split
  · exact ⟨hSync.buffered, (fun _ hb => by cases hb), (fun hs => by cases hs)⟩
  · exact hSync

theorem buffered_append (hSync : sync.Carries Heard P) {events : List DiffEvent}
    (hEvents : ∀ event ∈ events, Heard event) :
    ∀ event ∈ sync.buffer ++ events, Heard event := by
  intro event hEvent
  rcases List.mem_append.mp hEvent with hEvent | hEvent
  · exact hSync.buffered event hEvent
  · exact hEvents event hEvent

theorem carries_ingest (hExtends : h.Extends Heard P) (hSync : sync.Carries Heard P)
    {event : DiffEvent} (hEvent : Heard event) : (sync.ingest event).2.Carries Heard P := by
  have hSingle : ∀ e ∈ [event], Heard e := by
    intro e he
    rw [List.mem_singleton.mp he]
    exact hEvent
  have hSpec := ingest_spec sync event
  generalize sync.ingest event = outcome at hSpec
  cases hSpec with
  | stopped => exact hSync
  | overflow => exact carries_reset sync
  | buffered hState =>
    refine ⟨buffered_append hSync hSingle, hSync.replica, ?_⟩
    intro hSynced
    rw [hState] at hSynced
    cases hSynced
  | bookless => exact hSync
  | discarded => exact hSync
  | stale =>
    exact ⟨buffered_append hSync hSingle, (fun _ hb => by cases hb), (fun hs => by cases hs)⟩
  | @bridged book hState hBook _ hLast hFirst =>
    refine ⟨hSync.buffered, ?_, (fun _ hNone => by cases hNone)⟩
    intro book' hb
    cases hb
    rw [UInt64.lt_iff_toNat_lt] at hLast
    rw [UInt64.le_iff_toNat_le] at hFirst
    exact hExtends.advance book event (hSync.replica book hBook) hEvent
      (hFirst.trans (toNat_nextId_le _)) hLast
  | bridgeRefused => exact carries_reset sync
  | @applied book hState hBook _ hLink hLast =>
    refine ⟨hSync.buffered, ?_, (fun _ hNone => by cases hNone)⟩
    intro book' hb
    cases hb
    have hEmits := hExtends.emits event hEvent
    have hFirst := hEmits.link
    have hRange := UInt64.le_iff_toNat_le.mp hEmits.range
    rw [hLink] at hFirst
    exact hExtends.advance book event (hSync.replica book hBook) hEvent (by omega) (by omega)
  | refused => exact carries_reset sync

/-- By induction on the events that are replayed. -/
theorem carries_replay (hExtends : h.Extends Heard P) {events : List DiffEvent}
    (hSync : sync.Carries Heard P) (hEvents : ∀ event ∈ events, Heard event) :
    (sync.replay events).2.Carries Heard P := by
  induction events generalizing sync with
  | nil => exact hSync
  | cons event rest ih =>
    have hNext := carries_ingest hExtends hSync (hEvents event List.mem_cons_self)
    have hRest : ∀ e ∈ rest, Heard e := fun e he => hEvents e (List.mem_cons_of_mem _ he)
    rw [replay]
    generalize sync.ingest event = outcome at hNext
    obtain ⟨result, next⟩ := outcome
    cases result with
    | ok progress => exact ih hNext hRest
    | error error =>
      by_cases hStale : error.isStale = true
      · simp only [hStale, if_true]
        exact ⟨buffered_append hNext hRest, hNext.replica, hNext.installed⟩
      · simp only [hStale]
        exact hNext

theorem carries_onSnapshot (hExtends : h.Extends Heard P) (hSync : sync.Carries Heard P)
    {snapshot : Snapshot} (hSnapshot : P (Replica.ofSnapshot sync.symbol snapshot)) :
    (sync.onSnapshot snapshot).2.Carries Heard P := by
  unfold onSnapshot
  split
  · refine carries_replay hExtends ?_ hSync.buffered
    refine ⟨(fun _ he => by cases he), ?_, (fun hs => by cases hs)⟩
    intro book hb
    cases hb
    exact hSnapshot
  · exact hSync

/-! ## Runs -/

/-- What a move brings along is an event that may be heard, or a snapshot whose replica has the
property. -/
def Move.Allowed (Heard : DiffEvent → Prop) (P : Replica → Prop) : Move → Prop
  | .ingest event => Heard event
  | .snapshot taken => ∀ symbol, P (Replica.ofSnapshot symbol taken)
  | _ => True

theorem carries_step (hExtends : h.Extends Heard P) (hSync : sync.Carries Heard P) {move : Move}
    (hMove : move.Allowed Heard P) : (sync.step move).Carries Heard P := by
  cases move with
  | begin => exact carries_begin sync
  | reset => exact carries_reset sync
  | bridgeTimeout => exact carries_onBridgeTimeout hSync
  | snapshot taken => exact carries_onSnapshot hExtends hSync (hMove sync.symbol)
  | ingest event => exact carries_ingest hExtends hSync hMove

theorem carries_run (hExtends : h.Extends Heard P) (hSync : sync.Carries Heard P)
    {moves : List Move} (hMoves : ∀ move ∈ moves, move.Allowed Heard P) :
    (sync.run moves).Carries Heard P := by
  induction moves generalizing sync with
  | nil => exact hSync
  | cons move rest ih =>
    exact ih (carries_step hExtends hSync (hMoves move List.mem_cons_self))
      (fun m hm => hMoves m (List.mem_cons_of_mem _ hm))

theorem carries_new (symbol : String) (capacity : Nat) :
    (new symbol capacity).Carries Heard P :=
  ⟨(fun _ he => by simp [new] at he), (fun _ hb => by simp [new] at hb), (fun hs => by cases hs)⟩

end Synchronizer

/-! ## True replicas -/

/-- The replica depicts the book after its cursor. -/
def History.TrueReplica (h : History) (book : Replica) : Prop :=
  book.Depicts fun side => h.quantity side book.lastUpdateId.toNat

theorem History.trueReplica_ofSnapshot {snapshot : Snapshot} (hShows : h.Shows snapshot)
    (symbol : String) : h.TrueReplica (Replica.ofSnapshot symbol snapshot) := by
  refine (Replica.depicts_ofSnapshot symbol hShows (fun side p hp =>
    ⟨price_pos_of_changed (changed_of_quantity_ne_zero (mem_ranking.mp hp)),
      h.quantity_nonneg side _ p⟩)).congr ?_
  intro side p
  by_cases hp : p ∈ h.ranking side snapshot.lastUpdateId.toNat
  · exact if_pos hp
  · rw [if_neg hp]
    exact (not_not.mp (fun hne => hp (mem_ranking.mpr hne))).symm

/-- The prices that an event does not list kept their quantities since the cursor. -/
theorem History.extends_trueReplica (h : History) : h.Extends h.Emits h.TrueReplica := by
  refine ⟨fun _ hEvent => hEvent, ?_⟩
  intro book event hBook hEvent hFirst hLast
  refine (Replica.depicts_advance hBook hEvent.lists (fun side p hp =>
    ⟨price_pos_of_changed hp, h.quantity_nonneg side _ p⟩)).congr ?_
  intro side p
  by_cases hp : h.Changed side event.firstUpdateId.toNat event.lastUpdateId.toNat p
  · exact if_pos hp
  · rw [if_neg hp]
    refine (quantity_eq_of_not_changed hLast.le ?_).symm
    rintro ⟨id, hId, hEnd, hChange⟩
    exact hp ⟨id, by omega, hEnd, hChange⟩

namespace Synchronizer

/-- The move brings along nothing, an event of the history or a snapshot of the whole book. -/
def Move.Genuine (h : History) : Move → Prop
  | .ingest event => h.Emits event
  | .snapshot taken => h.Shows taken
  | _ => True

theorem Move.Genuine.allowed {move : Move} (hMove : move.Genuine h) :
    move.Allowed h.Emits h.TrueReplica := by
  cases move with
  | snapshot taken => exact h.trueReplica_ofSnapshot hMove
  | ingest event => exact hMove
  | begin => trivial
  | reset => trivial
  | bridgeTimeout => trivial

/-- **In step means true.** After any genuine moves in any order, a synchronizer that is in step has
a replica whose sides quote exactly the levels of the book after its cursor, best first. -/
theorem synced_replica_true (h : History) (symbol : String) (capacity : Nat) (moves : List Move)
    (hGenuine : ∀ move ∈ moves, move.Genuine h)
    (hSynced : ((new symbol capacity).run moves).state = .synced) :
    ∃ book, ((new symbol capacity).run moves).book = some book ∧
      ∀ side, h.Quotes side book.lastUpdateId.toNat (book.ranked side)
        (h.ranking side book.lastUpdateId.toNat) := by
  have hCarries : ((new symbol capacity).run moves).Carries h.Emits h.TrueReplica :=
    carries_run h.extends_trueReplica (carries_new symbol capacity)
      (fun move hMove => (hGenuine move hMove).allowed)
  obtain ⟨book, hBook⟩ := Option.ne_none_iff_exists'.mp (hCarries.installed hSynced)
  refine ⟨book, hBook, ?_⟩
  intro side
  exact Replica.quotes_ranked (hCarries.replica book hBook side) (h.quantity_nonneg side _)
    (h.pairwise_ranking side _) (fun p => History.mem_ranking)

/-- A bid and an ask appear, the bid goes, and another one comes. -/
def shortHistory : History :=
  .ofList [Change.whole? .bid 100 1, Change.whole? .ask 101 2, Change.whole? .bid 100 0,
    Change.whole? .bid 99 3]

/-- The snapshot falls into the range of the second event. -/
def shortMoves : List Move :=
  [.begin, .ingest ⟨1, 1, 0, 10, [⟨"100", "1"⟩], []⟩,
    .ingest ⟨2, 3, 1, 20, [⟨"100", "0"⟩], [⟨"101", "2"⟩]⟩,
    .snapshot ⟨2, [⟨"100", "1"⟩], [⟨"101", "2"⟩]⟩, .ingest ⟨4, 4, 3, 30, [⟨"99", "3"⟩], []⟩]

theorem shortMoves_genuine : ∀ move ∈ shortMoves, move.Genuine shortHistory := by
  have hBid {q : ℚ} (hq : q = 1) : Level.Quotes ⟨"100", "1"⟩ 100 q :=
    Level.quotes_whole ['1', '0', '0'] ['1'] 100 1 (by decide) (by decide) (by simpa using hq)
  have hGone {q : ℚ} (hq : q = 0) : Level.Quotes ⟨"100", "0"⟩ 100 q :=
    Level.quotes_whole ['1', '0', '0'] ['0'] 100 0 (by decide) (by decide) (by simpa using hq)
  have hNext {q : ℚ} (hq : q = 3) : Level.Quotes ⟨"99", "3"⟩ 99 q :=
    Level.quotes_whole ['9', '9'] ['3'] 99 3 (by decide) (by decide) (by simpa using hq)
  have hAsk {q : ℚ} (hq : q = 2) : Level.Quotes ⟨"101", "2"⟩ 101 q :=
    Level.quotes_whole ['1', '0', '1'] ['2'] 101 2 (by decide) (by decide) (by simpa using hq)
  simp only [shortMoves, List.forall_mem_cons, List.not_mem_nil, IsEmpty.forall_iff, implies_true,
    and_true]
  refine ⟨trivial, ⟨by decide, by decide, ?_⟩, ⟨by decide, by decide, ?_⟩, ?_,
    ⟨by decide, by decide, ?_⟩⟩
  · rintro (_ | _)
    · exact History.lists_changed [100] (by decide +kernel) (.cons (hBid (by decide +kernel)) .nil)
    · exact History.lists_changed [] (by decide +kernel) .nil
  · rintro (_ | _)
    · exact History.lists_changed [100] (by decide +kernel) (.cons (hGone (by decide +kernel)) .nil)
    · exact History.lists_changed [101] (by decide +kernel) (.cons (hAsk (by decide +kernel)) .nil)
  · rintro (_ | _)
    · have hRanking : shortHistory.ranking .bid 2 = [100] := by decide +kernel
      show Ladder.Lists _ (· ∈ shortHistory.ranking .bid 2) _
      rw [hRanking]
      exact Ladder.lists_of_quotes (.cons (hBid (by decide +kernel)) .nil)
    · have hRanking : shortHistory.ranking .ask 2 = [101] := by decide +kernel
      show Ladder.Lists _ (· ∈ shortHistory.ranking .ask 2) _
      rw [hRanking]
      exact Ladder.lists_of_quotes (.cons (hAsk (by decide +kernel)) .nil)
  · rintro (_ | _)
    · exact History.lists_changed [99] (by decide +kernel) (.cons (hNext (by decide +kernel)) .nil)
    · exact History.lists_changed [] (by decide +kernel) .nil

theorem synced_replica_true_of_shortMoves :
    (∀ move ∈ shortMoves, move.Genuine shortHistory) ∧
      ((new "BTCUSDT" 4).run shortMoves).state = .synced ∧
      ∃ book, ((new "BTCUSDT" 4).run shortMoves).book = some book ∧
        ∀ side, shortHistory.Quotes side book.lastUpdateId.toNat (book.ranked side)
          (shortHistory.ranking side book.lastUpdateId.toNat) := by
  have hSynced : ((new "BTCUSDT" 4).run shortMoves).state = .synced := by decide +kernel
  exact ⟨shortMoves_genuine, hSynced,
    synced_replica_true shortHistory "BTCUSDT" 4 shortMoves shortMoves_genuine hSynced⟩

end Synchronizer

end MarketGateway.Book
