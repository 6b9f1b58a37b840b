import MarketGateway.Book.Replica
import MarketGateway.Failure

/-!
# Synchronizers

A synchronizer turns a stream of diff events and a snapshot that comes later into a replica without
gaps. While it connects it buffers events. A snapshot makes a replica, and the buffered events are
replayed against it in order (`onSnapshot`): events that end at or before the snapshot are dropped,
the first other one must bridge it, and the rest must go on from there. A first event that starts
too late makes the snapshot stale: the replica is dropped and that event and the ones behind it stay
buffered for the next snapshot. Every other error throws everything away.
-/

namespace MarketGateway.Book

/-- Where a synchronizer stands. -/
inductive SyncState
  | disconnected
  | connecting
  | awaitingBridge
  | synced
  deriving Repr, DecidableEq, Inhabited

def SyncState.name : SyncState → String
  | disconnected => "disconnected"
  | connecting => "connecting"
  | awaitingBridge => "awaiting_bridge"
  | synced => "synced"

/-- What an event that was taken did. -/
inductive Progress
  | buffered
  | discarded
  | bridged
  | applied
  deriving Repr, DecidableEq, Inhabited

def Progress.name : Progress → String
  | buffered => "buffered"
  | discarded => "discarded"
  | bridged => "bridged"
  | applied => "applied"

/-- Whether the replica changed, so that it should be published. -/
def Progress.changedBook : Progress → Bool
  | bridged => true
  | applied => true
  | _ => false

/-- What can be given to a synchronizer. -/
inductive SyncInput
  | diff
  | snapshot
  deriving Repr, DecidableEq, Inhabited

def SyncInput.name : SyncInput → String
  | diff => "diff"
  | snapshot => "snapshot"

/-- Why a synchronizer refuses an input. -/
inductive SyncError
  | bufferOverflow (capacity : Nat)
  | staleSnapshot (snapshotId firstUpdateId : UInt64)
  | unexpectedInput (input : SyncInput) (state : SyncState)
  | book (error : BookError)
  deriving Repr, DecidableEq, Inhabited

def SyncError.message : SyncError → String
  | bufferOverflow capacity =>
    "ingestion buffer overflow (" ++ Text.natural capacity ++ " events)"
  | staleSnapshot snapshotId firstUpdateId =>
    "snapshot " ++ Text.natural snapshotId.toNat ++ " is stale: first event starts at " ++
      Text.natural firstUpdateId.toNat
  | unexpectedInput input state => "unexpected " ++ input.name ++ " while " ++ state.name
  | book error => error.message

def SyncError.kind : SyncError → String
  | bufferOverflow _ => "BufferOverflow"
  | staleSnapshot _ _ => "StaleSnapshot"
  | unexpectedInput _ _ => "UnexpectedInput"
  | book error => error.kind

instance : Failure SyncError := ⟨SyncError.kind, SyncError.message⟩

/-- Whether the error is about a stale snapshot, which leaves the synchronizer connecting. -/
def SyncError.isStale : SyncError → Bool
  | staleSnapshot _ _ => true
  | _ => false

/-- State of the synchronization of one symbol. -/
structure Synchronizer where
  symbol : String
  state : SyncState
  capacity : Nat
  buffer : List DiffEvent
  book : Option Replica
  lastEventTime : Option Int64
  deriving Repr, DecidableEq, Inhabited

namespace Synchronizer

/-- A synchronizer that has not begun; its buffer holds at least one event. -/
def new (symbol : String) (capacity : Nat) : Synchronizer :=
  ⟨symbol, .disconnected, max capacity 1, [], none, none⟩

/-- Starts over and buffers. -/
def begin (sync : Synchronizer) : Synchronizer :=
  { sync with buffer := [], book := none, lastEventTime := none, state := .connecting }

/-- Drops everything. -/
def reset (sync : Synchronizer) : Synchronizer :=
  { sync with buffer := [], book := none, lastEventTime := none, state := .disconnected }

/-- An event while the replica waits for the first one after its snapshot. -/
def tryBridge (sync : Synchronizer) (event : DiffEvent) :
    Except SyncError Progress × Synchronizer :=
  match sync.book with
  | none => (.error (.unexpectedInput .diff sync.state), sync)
  | some book =>
    if event.lastUpdateId ≤ book.lastUpdateId then (.ok .discarded, sync)
    else if nextId book.lastUpdateId < event.firstUpdateId then
      (.error (.staleSnapshot book.lastUpdateId event.firstUpdateId),
        { sync with book := none, state := .connecting, buffer := sync.buffer ++ [event] })
    else
      match book.applyBridge event with
      | (.ok (), book) =>
        (.ok .bridged,
          { sync with
            book := some book, state := .synced, lastEventTime := some event.eventTime })
      | (.error error, _) => (.error (.book error), sync.reset)

/-- An event while the replica is in step. -/
def applySteady (sync : Synchronizer) (event : DiffEvent) :
    Except SyncError Progress × Synchronizer :=
  match sync.book with
  | none => (.error (.book .desynced), sync.reset)
  | some book =>
    match book.applyDiff event with
    | (.ok (), book) =>
      (.ok .applied, { sync with book := some book, lastEventTime := some event.eventTime })
    | (.error error, _) => (.error (.book error), sync.reset)

/-- Takes one event of the stream. -/
def ingest (sync : Synchronizer) (event : DiffEvent) : Except SyncError Progress × Synchronizer :=
  match sync.state with
  | .disconnected => (.error (.unexpectedInput .diff sync.state), sync)
  | .connecting =>
    if sync.capacity ≤ sync.buffer.length then
      (.error (.bufferOverflow sync.capacity), sync.reset)
    else (.ok .buffered, { sync with buffer := sync.buffer ++ [event] })
  | .awaitingBridge => sync.tryBridge event
  | .synced => sync.applySteady event

/-- Takes buffered events one after another until one is refused; behind a stale snapshot the rest
is buffered again. -/
def replay (sync : Synchronizer) : List DiffEvent → Except SyncError SyncState × Synchronizer
  | [] => (.ok sync.state, sync)
  | event :: rest =>
    match sync.ingest event with
    | (.ok _, sync) => replay sync rest
    | (.error error, sync) =>
      (.error error,
        if error.isStale then { sync with buffer := sync.buffer ++ rest } else sync)

/-- Takes a snapshot and replays the buffered events against it. -/
def onSnapshot (sync : Synchronizer) (snapshot : Snapshot) :
    Except SyncError SyncState × Synchronizer :=
  if sync.state = .connecting ∨ sync.state = .awaitingBridge then
    let fresh :=
      { sync with
        book := some (Replica.ofSnapshot sync.symbol snapshot)
        lastEventTime := none
        state := .awaitingBridge
        buffer := [] }
    fresh.replay sync.buffer
  else (.error (.unexpectedInput .snapshot sync.state), sync)

/-- Gives up waiting for an event that bridges the snapshot and buffers again. -/
def onBridgeTimeout (sync : Synchronizer) : Synchronizer :=
  if sync.state = .awaitingBridge then { sync with book := none, state := .connecting } else sync

/-- The best `n` levels of a side; none unless the replica is in step. -/
def best (sync : Synchronizer) (n : Nat) (side : Side) : List Level :=
  match sync.state, sync.book with
  | .synced, some book => book.best n side
  | _, _ => []

end Synchronizer

end MarketGateway.Book
