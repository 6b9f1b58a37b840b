import MarketGateway.Proofs.Book.Order
import MarketGateway.Proofs.Book.Synchronizer
import MarketGateway.Proofs.Lists

/-!
# Events that a replica accepts and refuses

A replica is given events, each one either to bridge its snapshot or to go on from its last event
(`Replica.Move`), in any order and with any ids. `Replica.Given` lists what one event can do, with
what led to it: an event that is accepted is applied as a whole, one that is refused leaves the
levels and the cursor, and a refused diff marks the replica as desynchronized.

* `agrees_run`: a run leaves the levels and the cursor that the accepted events leave.
* `desynced_run_iff`: a replica is desynchronized exactly if it refused a diff before.
* `refused_events_leave_replica`: what holds of the cursor, of refusals and of what comes behind the
  first refused diff, in every run.
-/

namespace MarketGateway.Book

theorem le_nextId (id : UInt64) : id ≤ nextId id := by
  unfold nextId
  split
  · next hFit =>
    have hFit' : id.toNat + 1 < 18446744073709551616 := hFit
    rw [UInt64.le_iff_toNat_le, UInt64.toNat_add]
    exact (Nat.le_succ _).trans (Nat.mod_eq_of_lt hFit').ge
  · exact UInt64.le_refl id

theorem DiffEvent.le_of_bridges {event : DiffEvent} {id : UInt64}
    (hBridges : event.bridges id = true) : id ≤ event.lastUpdateId := by
  simp only [bridges, Bool.and_eq_true, decide_eq_true_eq] at hBridges
  exact UInt64.le_trans (le_nextId id) hBridges.2

namespace Replica

/-- An event that a replica is given: to bridge its snapshot, or to go on from its last event. -/
inductive Move
  | bridge (event : DiffEvent)
  | diff (event : DiffEvent)
  deriving Repr, DecidableEq

def Move.event : Move → DiffEvent
  | bridge event => event
  | diff event => event

/-- What a replica answers to an event, and the replica after it. -/
def give (book : Replica) : Move → Except BookError Unit × Replica
  | .bridge event => book.applyBridge event
  | .diff event => book.applyDiff event

/-- The replica after a list of events, whatever it answers to them. -/
def run (book : Replica) (moves : List Move) : Replica :=
  moves.foldl (fun book move => (book.give move).2) book

/-- The events of a list that the replica accepts, in their order. -/
def accepted (book : Replica) : List Move → List DiffEvent
  | [] => []
  | move :: rest =>
    match book.give move with
    | (.ok (), next) => move.event :: next.accepted rest
    | (.error _, next) => next.accepted rest

variable {book : Replica} {move : Move} {moves : List Move}

theorem run_snoc (book : Replica) (moves : List Move) (move : Move) :
    book.run (moves ++ [move]) = ((book.run moves).give move).2 := by
  simp [run]

/-! ## Single events -/

/-- The answers to one event. -/
inductive Given (book : Replica) : Move → Except BookError Unit × Replica → Prop
  | stopped {move : Move} (hStopped : book.desynced = true) :
      Given book move (.error .desynced, book)
  | away {event : DiffEvent} (hLive : book.desynced = false)
      (hAway : event.bridges book.lastUpdateId = false) :
      Given book (.bridge event)
        (.error (.notBridging book.lastUpdateId event.firstUpdateId event.lastUpdateId), book)
  | bridged {event : DiffEvent} (hLive : book.desynced = false)
      (hBridges : event.bridges book.lastUpdateId = true) :
      Given book (.bridge event) (.ok (), book.advance event)
  | gap {event : DiffEvent} (hLive : book.desynced = false)
      (hGap : event.prevLastUpdateId ≠ book.lastUpdateId) :
      Given book (.diff event)
        (.error (.sequenceGap book.lastUpdateId event.prevLastUpdateId),
          { book with desynced := true })
  | regression {event : DiffEvent} (hLive : book.desynced = false)
      (hLink : event.prevLastUpdateId = book.lastUpdateId)
      (hBack : event.lastUpdateId < book.lastUpdateId) :
      Given book (.diff event)
        (.error (.regression book.lastUpdateId event.lastUpdateId), { book with desynced := true })
  | applied {event : DiffEvent} (hLive : book.desynced = false)
      (hLink : event.prevLastUpdateId = book.lastUpdateId)
      (hForward : book.lastUpdateId ≤ event.lastUpdateId) :
      Given book (.diff event) (.ok (), book.advance event)

theorem give_spec (book : Replica) (move : Move) : book.Given move (book.give move) := by
  cases hDesynced : book.desynced with
  | true =>
    have hAnswer : book.give move = (.error .desynced, book) := by
      cases move <;> simp [give, applyBridge, applyDiff, hDesynced]
    rw [hAnswer]
    exact .stopped hDesynced
  | false =>
    cases move with
    | bridge event =>
      rw [give, applyBridge, if_neg (by simp [hDesynced])]
      split
      · next hAway => exact .away hDesynced (by simpa using hAway)
      · next hBridges => exact .bridged hDesynced (by simpa using hBridges)
    | diff event =>
      rw [give, applyDiff, if_neg (by simp [hDesynced])]
      split
      · next hGap => exact .gap hDesynced hGap
      · next hLink =>
        have hLink' := Decidable.not_not.mp hLink
        split
        · next hBack => exact .regression hDesynced hLink' hBack
        · next hForward => exact .applied hDesynced hLink' (UInt64.not_lt.mp hForward)

theorem give_of_desynced (hStopped : book.desynced = true) (move : Move) :
    book.give move = (.error .desynced, book) := by
  have hSpec := give_spec book move
  generalize book.give move = answer at hSpec
  cases hSpec with
  | stopped => rfl
  | away hLive | bridged hLive | gap hLive | regression hLive | applied hLive =>
    rw [hStopped] at hLive
    cases hLive

/-- A diff is accepted exactly if it goes on from the cursor of a replica that still follows. -/
theorem applyDiff_ok_iff (book : Replica) (event : DiffEvent) :
    (book.applyDiff event).1 = .ok () ↔
      book.desynced = false ∧ event.prevLastUpdateId = book.lastUpdateId ∧
        book.lastUpdateId ≤ event.lastUpdateId := by
  have hSpec : book.Given (.diff event) (book.applyDiff event) := give_spec book (.diff event)
  generalize book.applyDiff event = answer at hSpec
  cases hSpec with
  | stopped hStopped => simp [hStopped]
  | gap _ hGap => simp [hGap]
  | regression _ _ hBack => simp [UInt64.not_le.mpr hBack]
  | applied hLive hLink hForward => simp [hLive, hLink, hForward]

theorem le_lastUpdateId_give (book : Replica) (move : Move) :
    book.lastUpdateId ≤ (book.give move).2.lastUpdateId := by
  have hSpec := give_spec book move
  generalize book.give move = answer at hSpec
  cases hSpec with
  | stopped | away | gap | regression => exact UInt64.le_refl _
  | bridged _ hBridges => exact DiffEvent.le_of_bridges hBridges
  | applied _ _ hForward => exact hForward

/-- Two replicas have the same levels and the same cursor. -/
structure Agrees (book other : Replica) : Prop where
  bids : book.bids = other.bids
  asks : book.asks = other.asks
  lastUpdateId : book.lastUpdateId = other.lastUpdateId

theorem Agrees.side {other : Replica} (hBooks : book.Agrees other) (side : Side) :
    book.side side = other.side side := by
  cases side
  · exact hBooks.bids
  · exact hBooks.asks

theorem Agrees.advance {other : Replica} (hBooks : book.Agrees other) (event : DiffEvent) :
    (book.advance event).Agrees (other.advance event) where
  bids := congrArg (Ladder.updateAll · event.bids) hBooks.bids
  asks := congrArg (Ladder.updateAll · event.asks) hBooks.asks
  lastUpdateId := rfl

theorem agrees_of_refused {error : BookError} (hRefused : (book.give move).1 = .error error) :
    (book.give move).2.Agrees book := by
  have hSpec := give_spec book move
  generalize book.give move = answer at hSpec hRefused
  cases hSpec with
  | stopped | away | gap | regression => exact ⟨rfl, rfl, rfl⟩
  | bridged | applied => cases hRefused

/-- A replica that is given an event is desynchronized behind it if it was before, or if the event
is a diff that it refuses. -/
theorem desynced_give_iff (book : Replica) (move : Move) :
    (book.give move).2.desynced = true ↔
      book.desynced = true ∨
        ∃ event error, move = .diff event ∧ (book.applyDiff event).1 = .error error := by
  cases move with
  | bridge event =>
    have hSpec := give_spec book (.bridge event)
    generalize book.give (.bridge event) = answer at hSpec
    cases hSpec with
    | stopped | away => simp
    | bridged hLive => simp [advance, hLive]
  | diff event =>
    have hSpec : book.Given (.diff event) (book.applyDiff event) := give_spec book (.diff event)
    rw [give]
    generalize hAnswer : book.applyDiff event = answer at hSpec
    cases hSpec with
    | stopped hStopped => simp [hStopped]
    | gap | regression => simp [hAnswer]
    | applied hLive => simp [advance, hLive, hAnswer]

/-! ## Runs -/

/-- By induction on the events; each one that is refused leaves the replica as good as it was. -/
theorem Agrees.run {other : Replica} (hBooks : book.Agrees other) (moves : List Move) :
    (book.run moves).Agrees (other.advanceAll (book.accepted moves)) := by
  induction moves generalizing book other with
  | nil => exact hBooks
  | cons move rest ih =>
    have hSpec := give_spec book move
    rw [Replica.run, List.foldl_cons, accepted]
    generalize book.give move = answer at hSpec
    cases hSpec with
    | stopped | away => exact ih hBooks
    | gap | regression => exact ih ⟨hBooks.bids, hBooks.asks, hBooks.lastUpdateId⟩
    | bridged | applied => exact ih (hBooks.advance _)

theorem agrees_run (book : Replica) (moves : List Move) :
    (book.run moves).Agrees (book.advanceAll (book.accepted moves)) :=
  Agrees.run ⟨rfl, rfl, rfl⟩ moves

theorem le_lastUpdateId_run (book : Replica) (moves : List Move) :
    book.lastUpdateId ≤ (book.run moves).lastUpdateId := by
  induction moves generalizing book with
  | nil => exact UInt64.le_refl _
  | cons move rest ih => exact UInt64.le_trans (le_lastUpdateId_give book move) (ih _)

theorem run_of_desynced (hStopped : book.desynced = true) (moves : List Move) :
    book.run moves = book := by
  induction moves with
  | nil => rfl
  | cons move rest ih =>
    rw [run, List.foldl_cons, give_of_desynced hStopped]
    exact ih

/-- Some diff of the list is refused when its turn comes. -/
def RefusesDiff (book : Replica) (moves : List Move) : Prop :=
  ∃ before event after error, moves = before ++ .diff event :: after ∧
    ((book.run before).applyDiff event).1 = .error error

theorem refusesDiff_snoc :
    book.RefusesDiff (moves ++ [move]) ↔
      book.RefusesDiff moves ∨
        ∃ event error, move = .diff event ∧
          ((book.run moves).applyDiff event).1 = .error error := by
  constructor
  · rintro ⟨before, event, after, error, hCut, hRefused⟩
    rcases snoc_eq_append_cons.mp hCut with ⟨rest, -, hEarlier⟩ | ⟨-, rfl, hLast⟩
    · exact .inl ⟨before, event, rest, error, hEarlier, hRefused⟩
    · exact .inr ⟨event, error, hLast, hRefused⟩
  · rintro (⟨before, event, after, error, hCut, hRefused⟩ | ⟨event, error, rfl, hRefused⟩)
    · exact ⟨before, event, after ++ [move], error, by simp [hCut], hRefused⟩
    · exact ⟨moves, event, [], error, rfl, hRefused⟩

/-- By induction from the end: the last event stops a replica that still follows only if it is a
diff that is refused. -/
theorem desynced_run_iff (hLive : book.desynced = false) (moves : List Move) :
    (book.run moves).desynced = true ↔ book.RefusesDiff moves := by
  induction moves using List.reverseRecOn with
  | nil =>
    constructor
    · intro hStopped
      cases hLive.symm.trans hStopped
    · rintro ⟨before, event, after, error, hCut, -⟩
      cases before <;> cases hCut
  | append_singleton moves move ih => rw [run_snoc, desynced_give_iff, refusesDiff_snoc, ih]

/-- **A refused event changes no level, and a refused diff ends the replica.** After any events, of
any ids and in any order, that the replica of a snapshot was given: the cursor never goes back; a
diff is accepted exactly if the replica has refused no diff before, the diff names the cursor as the
last id before it and does not end below it; an event that is refused leaves all levels and the
cursor as they were; and behind a refused diff every event is refused, because the replica is
desynchronized, and changes nothing. -/
theorem refused_events_leave_replica (symbol : String) (snapshot : Snapshot) (moves : List Move) :
    let start := ofSnapshot symbol snapshot
    let book := start.run moves
    (∀ later, book.lastUpdateId ≤ (book.run later).lastUpdateId) ∧
    (book.desynced = true ↔ start.RefusesDiff moves) ∧
    (∀ event, (book.applyDiff event).1 = .ok () ↔
      book.desynced = false ∧ event.prevLastUpdateId = book.lastUpdateId ∧
        book.lastUpdateId ≤ event.lastUpdateId) ∧
    (∀ move error, (book.give move).1 = .error error → (book.give move).2.Agrees book) ∧
    (∀ event error, (book.applyDiff event).1 = .error error → ∀ later move,
      ((book.applyDiff event).2.run later).give move =
        (.error .desynced, (book.applyDiff event).2)) := by
  refine ⟨le_lastUpdateId_run _, desynced_run_iff rfl moves, applyDiff_ok_iff _,
    fun _ _ => agrees_of_refused, ?_⟩
  intro event error hRefused later move
  have hStopped : ((((ofSnapshot symbol snapshot).run moves).applyDiff event).2).desynced = true :=
    (desynced_give_iff _ (.diff event)).mpr (.inr ⟨event, error, rfl, hRefused⟩)
  rw [run_of_desynced hStopped, give_of_desynced hStopped]

/-- The replica of a snapshot at 100, behind an event that bridges it and ends at 105. -/
def bridgedMoves : List Move := [.bridge ⟨99, 105, 98, 1, [⟨"50001", "2"⟩], []⟩]

/-- A diff that names 104 as the last id before it, and would take a level out. -/
def gappedEvent : DiffEvent := ⟨106, 107, 104, 2, [⟨"50000", "0"⟩], []⟩

/-- The diff is refused and takes nothing out, and one that goes on from 105 comes too late. -/
theorem refused_events_leave_replica_of_gap :
    let book := (ofSnapshot "BTCUSDT" ⟨100, [⟨"50000", "1"⟩], []⟩).run bridgedMoves
    (book.applyDiff gappedEvent).1 = .error (.sequenceGap 105 104) ∧
    (book.give (.diff gappedEvent)).2.Agrees book ∧
    (book.applyDiff gappedEvent).2.give (.diff ⟨106, 107, 105, 3, [], []⟩) =
      (.error .desynced, (book.applyDiff gappedEvent).2) := by
  intro book
  have hRefused : (book.applyDiff gappedEvent).1 = .error (.sequenceGap 105 104) := by
    decide +kernel
  obtain ⟨-, -, -, hLeaves, hEnds⟩ := refused_events_leave_replica "BTCUSDT"
    ⟨100, [⟨"50000", "1"⟩], []⟩ bridgedMoves
  exact ⟨hRefused, hLeaves (.diff gappedEvent) _ hRefused, hEnds gappedEvent _ hRefused [] _⟩

end Replica

end MarketGateway.Book
