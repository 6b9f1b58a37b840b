import MarketGateway.Proofs.Hub.Steps
import MarketGateway.Proofs.Lists

/-!
# Traffic of a hub

The calls of a hub come from many sides at once: each is an operation that takes its steps under
locks one by one, and between two of them other operations take theirs (`Hub.Operation.step`). A
teardown is scheduled as a timer and becomes an operation itself when it fires. `Hub.Traffic` is a
hub with the operations under way, and `Traffic.run` lets calls, steps, timers, feeds, mailboxes and
time come in any order, as long as nobody cancels the hub.

An operation that no other one comes between does what the call of the hub does
(`hub_of_request_alone`, `hub_of_fire_alone`).
-/

namespace MarketGateway

variable {π : Type}

namespace Hub

/-! ## Operations -/

/-- What is under way, between two steps. -/
inductive Operation (π : Type)
  | subscribe (key : RoomKey) (client : ClientId) (mailbox : MailboxId) (progress : Subscribing)
  | unsubscribe (key : RoomKey) (client : ClientId)
  /-- The room was found and has not been left yet. -/
  | leave (room : RoomId) (client : ClientId)
  | broadcast (key : RoomKey) (payload : π)
  /-- The room was found and has not got the payload yet. -/
  | send (room : RoomId) (payload : π)
  /-- The feed of the room publishes a payload. -/
  | publish (room : RoomId) (payload : π)
  /-- The payload left the room empty, and its generation has not been read yet. -/
  | read (room : RoomId)
  | schedule (room : RoomId) (generation : Nat)
  /-- The grace period is over. -/
  | teardown (room : RoomId) (generation : Nat)
  /-- The room was closed and has not been taken out of the registry yet. -/
  | remove (room : RoomId)

/-- One step, and what is still to be done after it. -/
def Operation.step : Operation π → Hub π → Option (Operation π) × Hub π
  | subscribe key client mailbox progress, hub =>
    match progress.step key client mailbox hub with
    | (.done _, hub) => (none, hub)
    | (progress, hub) => (some (subscribe key client mailbox progress), hub)
  | unsubscribe key client, hub => ((hub.rooms.find? key).map (leave · client), hub)
  | leave room client, hub =>
    match hub.leaveRoom room client with
    | (.emptied generation, hub) => (some (schedule room generation), hub)
    | (_, hub) => (none, hub)
  | broadcast key payload, hub => ((hub.rooms.find? key).map (send · payload), hub)
  | send room payload, hub => (none, (hub.broadcastTo room payload).2)
  | publish room payload, hub =>
    let (stats, hub) := { hub with state := hub.state.message }.broadcastTo room payload
    (if stats.emptied then some (read room) else none, hub)
  | read room, hub => ((hub.rooms.get? room).map fun r => schedule room r.generation, hub)
  | schedule room generation, hub =>
    (none, hub.after hub.config.gracePeriod (.teardown room generation))
  | teardown room generation, hub =>
    if hub.stops room then (none, hub)
    else
      match hub.closeIfIdle room generation with
      | (true, hub) => (some (remove room), hub)
      | (false, hub) => (none, hub)
  | remove room, hub => (none, (hub.removeIfSame room).release)

/-- A call of a hub. -/
inductive Request (π : Type)
  | subscribe (key : RoomKey) (client : ClientId) (mailbox : MailboxId)
  | unsubscribe (key : RoomKey) (client : ClientId)
  | broadcast (key : RoomKey) (payload : π)
  | publish (room : RoomId) (payload : π)

/-- The operation with which a call begins. -/
def Request.operation : Request π → Operation π
  | subscribe key client mailbox => .subscribe key client mailbox .looking
  | unsubscribe key client => .unsubscribe key client
  | broadcast key payload => .broadcast key payload
  | publish room payload => .publish room payload

/-- The hub after a call that nothing comes between. -/
def Request.apply (hub : Hub π) : Request π → Hub π
  | subscribe key client mailbox => (hub.subscribe key client mailbox).2
  | unsubscribe key client => (hub.unsubscribe key client).2
  | broadcast key payload => (hub.broadcast key payload).2
  | publish room payload => hub.publish room payload

/-! ## Traffic -/

/-- A hub with the operations under way. -/
structure Traffic (π : Type) where
  hub : Hub π
  operations : List (Operation π) := []

namespace Traffic

/-- What happens next. -/
inductive Move (π : Type)
  | request (request : Request π)
  /-- The operation with this number takes its next step. -/
  | go (index : Nat)
  /-- The timer with this number fires if it is due. -/
  | fire (index : Nat)
  | wait (time : Duration)
  /-- Clients open, empty and drop their mailboxes. -/
  | mailboxes (boxes : Mailboxes π)
  | connected (task : TaskId)
  | ended (task : TaskId) (error : Option FeedError) (offset : Binary64)
  | wake (task : TaskId)

def step (traffic : Traffic π) : Move π → Traffic π
  | .request request => { traffic with operations := traffic.operations ++ [request.operation] }
  | .go index =>
    match traffic.operations[index]? with
    | some operation =>
      let (rest, hub) := operation.step traffic.hub
      ⟨hub, traffic.operations.eraseIdx index ++ rest.toList⟩
    | none => traffic
  | .fire index =>
    match traffic.hub.timers[index]? with
    | some timer =>
      if timer.due ≤ traffic.hub.now then
        let hub := { traffic.hub with timers := traffic.hub.timers.eraseIdx index }
        match timer.alarm with
        | .wake task => { traffic with hub := hub.wake task }
        | .teardown room generation =>
          ⟨hub, traffic.operations ++ [.teardown room generation]⟩
      else traffic
    | none => traffic
  | .wait time => { traffic with hub := { traffic.hub with now := traffic.hub.now + time } }
  | .mailboxes boxes => { traffic with hub := { traffic.hub with boxes := boxes } }
  | .connected task => { traffic with hub := traffic.hub.connected task }
  | .ended task error offset => { traffic with hub := traffic.hub.ended task error offset }
  | .wake task => { traffic with hub := traffic.hub.wake task }

def steps (traffic : Traffic π) (moves : List (Move π)) : Traffic π := moves.foldl step traffic

theorem steps_append (traffic : Traffic π) (moves more : List (Move π)) :
    traffic.steps (moves ++ more) = (traffic.steps moves).steps more :=
  List.foldl_append

/-- A new hub after some traffic. -/
def run (kind : FeedKind) (config : HubConfig) (moves : List (Move π)) : Traffic π :=
  steps { hub := { kind := kind, config := config } } moves

end Traffic

/-! ## Operations on their own -/

theorem steps_of_none (hub : Hub π) (n : Nat) :
    Traffic.steps ⟨hub, []⟩ (List.replicate n (.go 0)) = ⟨hub, []⟩ := by
  induction n with
  | zero => rfl
  | succ n ih => exact ih

theorem steps_of_one (hub : Hub π) (operation : Operation π) (n : Nat) :
    Traffic.steps ⟨hub, [operation]⟩ (List.replicate (n + 1) (.go 0)) =
      Traffic.steps ⟨(operation.step hub).2, (operation.step hub).1.toList⟩
        (List.replicate n (.go 0)) := by
  rw [List.replicate_succ, Traffic.steps, List.foldl_cons]
  rfl

theorem steps_done (key : RoomKey) (client : ClientId) (mailbox : MailboxId) (n : Nat)
    (outcome : Option JoinError) (hub : Hub π) :
    Subscribing.steps key client mailbox n (.done outcome) hub = (.done outcome, hub) := by
  induction n with
  | zero => rfl
  | succ n ih => exact ih

theorem hub_of_subscribe_alone (key : RoomKey) (client : ClientId) (mailbox : MailboxId) (n : Nat)
    (progress : Subscribing) (hub : Hub π) :
    (Traffic.steps ⟨hub, [.subscribe key client mailbox progress]⟩
        (List.replicate n (.go 0))).hub =
      (Subscribing.steps key client mailbox n progress hub).2 := by
  induction n generalizing progress hub with
  | zero => rfl
  | succ n ih =>
    rw [steps_of_one, Operation.step, Subscribing.steps]
    generalize progress.step key client mailbox hub = result
    obtain ⟨next, hub⟩ := result
    cases next with
    | done outcome =>
      dsimp only
      rw [Option.toList_none, steps_of_none, steps_done]
    | looking | joining | discarding => exact ih _ hub

/-- Five steps of its operation, with nothing in between, are a call. -/
theorem hub_of_request_alone (hub : Hub π) (request : Request π) :
    (Traffic.steps ⟨hub, [request.operation]⟩ (List.replicate 5 (.go 0))).hub =
      request.apply hub := by
  cases request with
  | subscribe key client mailbox =>
    rw [Request.operation, hub_of_subscribe_alone, Request.apply, subscribe]
    split <;> next hSteps => rw [hSteps]
  | unsubscribe key client =>
    rw [Request.operation, Request.apply, unsubscribe, steps_of_one, Operation.step]
    cases hub.rooms.find? key with
    | none => rw [Option.map_none, Option.toList_none, steps_of_none]
    | some room =>
      rw [Option.map_some, Option.toList_some, steps_of_one, Operation.step]
      dsimp only
      generalize hub.leaveRoom room client = result
      obtain ⟨left, hub⟩ := result
      cases left with
      | notMember | others =>
        dsimp only
        rw [Option.toList_none, steps_of_none]
      | emptied generation =>
        dsimp only
        rw [Option.toList_some, steps_of_one, Operation.step, Option.toList_none, steps_of_none]
  | broadcast key payload =>
    rw [Request.operation, Request.apply, broadcast, steps_of_one, Operation.step]
    cases hub.rooms.find? key with
    | none => rw [Option.map_none, Option.toList_none, steps_of_none]
    | some room =>
      rw [Option.map_some, Option.toList_some, steps_of_one, Operation.step, Option.toList_none,
        steps_of_none]
  | publish room payload =>
    rw [Request.operation, Request.apply, publish, steps_of_one, Operation.step]
    dsimp only
    generalize ({ hub with state := hub.state.message } : Hub π).broadcastTo room payload = result
    obtain ⟨stats, hub⟩ := result
    dsimp only
    split
    · rw [Option.toList_some, steps_of_one, Operation.step]
      cases hub.rooms.get? room with
      | none => rw [Option.map_none, Option.toList_none, steps_of_none]
      | some r =>
        rw [Option.map_some, Option.toList_some, steps_of_one, Operation.step, Option.toList_none,
          steps_of_none]
    · rw [Option.toList_none, steps_of_none]

/-- A hub goes to its first timer that is due by a given time: a wait, the timer, and the steps of
a teardown if that is what it asks for. -/
theorem hub_of_fire_alone {hub next : Hub π} {limit : Duration}
    (hNext : hub.next? limit = some next) :
    ∃ time index, (Traffic.steps ⟨hub, []⟩ [.wait time, .fire index, .go 0, .go 0]).hub = next := by
  obtain ⟨⟨timer, timers⟩, hDue, rfl⟩ := Option.map_eq_some_iff.mp hNext
  obtain ⟨index, hIndex, hTimers⟩ := Timers.getElem?_of_pop (Option.filter_eq_some_iff.mp hDue).1
  have hNow : hub.now + (timer.due - hub.now) = max hub.now timer.due := by
    rw [Nat.add_comm, Nat.sub_add_eq_max, Nat.max_comm]
  have hFire : Traffic.steps ⟨hub, []⟩ [.wait (timer.due - hub.now), .fire index] =
      match timer.alarm with
      | .wake task => ⟨wake { hub with timers := timers, now := max hub.now timer.due } task, []⟩
      | .teardown room generation =>
        ⟨{ hub with timers := timers, now := max hub.now timer.due },
          [.teardown room generation]⟩ := by
    simp only [Traffic.steps, List.foldl_cons, List.foldl_nil, Traffic.step, hIndex, hNow, hTimers,
      Nat.le_max_right, if_true, List.nil_append]
  refine ⟨timer.due - hub.now, index, ?_⟩
  have hSplit : [.wait (timer.due - hub.now), .fire index, .go 0, .go 0] =
      [.wait (timer.due - hub.now), .fire index] ++
        List.replicate 2 (.go 0 : Traffic.Move π) := rfl
  rw [hSplit, Traffic.steps_append, hFire]
  dsimp only
  generalize ({ hub with timers := timers, now := max hub.now timer.due } : Hub π) = hub
  cases timer.alarm with
  | wake task => exact congrArg Traffic.hub (steps_of_none _ 2)
  | teardown room generation =>
    rw [fire, steps_of_one, Operation.step]
    split
    · rw [Option.toList_none, steps_of_none]
    · generalize hub.closeIfIdle room generation = result
      obtain ⟨closed, hub⟩ := result
      cases closed with
      | true =>
        dsimp only
        rw [Option.toList_some, steps_of_one, Operation.step, Option.toList_none, steps_of_none]
      | false =>
        dsimp only
        rw [Option.toList_none, steps_of_none]

end Hub

end MarketGateway
