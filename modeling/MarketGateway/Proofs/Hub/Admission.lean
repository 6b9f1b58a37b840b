import MarketGateway.Proofs.Hub.Grace
import MarketGateway.Proofs.Hub.Registry

/-!
# Admission to rooms

What an operation under way knows of the rooms (`Operation.Knows`): one that is about to join a room
has a room of its key, and one that is about to take a room out of the registry has a closed room.
Nobody can spoil this knowledge, since rooms keep their keys and stay closed. Together with
`Rooms.Indexed` it is an invariant of the traffic (`Traffic.Tidy`, `tidy_run`).

So no client is stranded, however the steps of subscriptions and teardowns come between each other
(`open_rooms_registered`): every room with a member is the one that its key leads to, and a
subscription that succeeds has added its client to such a room.
-/

namespace MarketGateway

variable {π : Type}

/-- The member that joins is in the room, which is open. -/
theorem Room.join_of_some {room next : Room π} {client : ClientId} {mailbox : MailboxId}
    {boxes rest : Mailboxes π} {start : Bool}
    (hJoin : room.join client mailbox boxes = (some start, next, rest)) :
    room.closed = false ∧ next.closed = false ∧ (client, mailbox) ∈ next.members := by
  unfold join at hJoin
  split at hJoin
  · cases hJoin
  · next hOpen =>
    have hOpen' : room.closed = false := by simpa using hOpen
    cases hJoin
    exact ⟨hOpen', hOpen', List.mem_append_right _ (List.mem_singleton.mpr rfl)⟩

namespace Hub

variable {hub next : Hub π} {operation rest : Operation π} {id : RoomId}

/-- What an operation under way knows of the rooms. -/
def Operation.Knows (hub : Hub π) : Operation π → Prop
  | .subscribe key _ _ (.joining id) => ∃ room, hub.rooms.get? id = some room ∧ room.key = key
  | .subscribe _ _ _ (.discarding id) | .remove id =>
    ∃ room, hub.rooms.get? id = some room ∧ room.closed = true
  | .subscribe _ _ _ (.done _) => False
  | _ => True

theorem Operation.Knows.closed (hKnows : operation.Knows hub) (hDiscards : operation.Discards id) :
    ∃ room, hub.rooms.get? id = some room ∧ room.closed = true := by
  cases hDiscards with
  | remove => exact hKnows
  | subscribe => exact hKnows

/-- What is known of the rooms stays true. -/
theorem Operation.Knows.shifts (hKnows : operation.Knows hub) (hShifts : hub.Shifts next) :
    operation.Knows next := by
  have hClosed {id : RoomId} (hRoom : ∃ room, hub.rooms.get? id = some room ∧ room.closed = true) :
      ∃ room, next.rooms.get? id = some room ∧ room.closed = true := by
    obtain ⟨room, hRoom, hClosed⟩ := hRoom
    obtain ⟨after, hAfter, hChange⟩ := hShifts.rooms hRoom
    exact ⟨after, hAfter, hChange.evolves.closed hClosed⟩
  cases operation with
  | subscribe key client mailbox progress =>
    cases progress with
    | looking => trivial
    | joining id =>
      obtain ⟨room, hRoom, hKey⟩ := hKnows
      obtain ⟨after, hAfter, hChange⟩ := hShifts.rooms hRoom
      exact ⟨after, hAfter, hChange.evolves.key.trans hKey⟩
    | discarding id => exact hClosed hKnows
    | done outcome => exact hKnows
  | remove id => exact hClosed hKnows
  | unsubscribe | leave | broadcast | send | publish | read | schedule | teardown => trivial

theorem Request.knows (request : Request π) (hub : Hub π) : request.operation.Knows hub := by
  cases request <;> trivial

/-! ## Steps of operations -/

theorem joinRoom_of_some {room : RoomId} {client : ClientId} {mailbox : MailboxId} {start : Bool}
    (hJoin : hub.joinRoom room client mailbox = (some start, next)) :
    ∃ before after, hub.rooms.get? room = some before ∧ before.closed = false ∧
      next.rooms.get? room = some after ∧ after.closed = false ∧
      (client, mailbox) ∈ after.members := by
  unfold joinRoom at hJoin
  split at hJoin
  · next before hRoom =>
    generalize hAnswer : before.join client mailbox hub.boxes = answer at hJoin
    obtain ⟨answer, after, boxes⟩ := answer
    cases hJoin
    obtain ⟨hOpen, hStill, hMember⟩ := Room.join_of_some hAnswer
    refine ⟨before, after, hRoom, hOpen, ?_, hStill, hMember⟩
    rw [Rooms.get?_set, if_pos rfl, hRoom, Option.map_some]
  · cases hJoin

/-- A subscription that succeeds has found its room open, and its client is in it. -/
theorem step_subscribe_ok {key : RoomKey} {client : ClientId} {mailbox : MailboxId}
    {progress : Subscribing} (hKnows : (Operation.subscribe key client mailbox progress).Knows hub)
    (hOk : (progress.step key client mailbox hub).1 = .done none) :
    ∃ id before after, hub.rooms.get? id = some before ∧ before.key = key ∧
      before.closed = false ∧
      (progress.step key client mailbox hub).2.rooms.get? id = some after ∧ after.closed = false ∧
      (client, mailbox) ∈ after.members := by
  cases progress with
  | looking =>
    rw [Subscribing.step] at hOk
    split at hOk <;> cases hOk
  | joining id =>
    obtain ⟨room, hRoom, hKey⟩ := hKnows
    rw [Subscribing.step] at hOk ⊢
    split at hOk
    · next start next hJoin =>
      obtain ⟨before, after, hBefore, hOpen, hAfter, hStill, hMember⟩ := joinRoom_of_some hJoin
      obtain rfl := Option.some.inj (hRoom.symm.trans hBefore)
      dsimp only
      split
      · have hSame := (undisturbed_startFeed next id).rooms id
        rw [hAfter, Option.map_some, Option.map_eq_some_iff] at hSame
        obtain ⟨last, hLast, hEq⟩ := hSame
        refine ⟨id, room, last, hRoom, hKey, hOpen, hLast, ?_, ?_⟩
        · exact (Room.closed_of_still hEq).mpr hStill
        · exact (congrArg Room.members hEq :) ▸ hMember
      · exact ⟨id, room, after, hRoom, hKey, hOpen, hAfter, hStill, hMember⟩
    · cases hOk
  | discarding id => cases hOk
  | done outcome => exact hKnows.elim

/-- What a subscription knows after its step, unless it is over. -/
theorem knows_subscribing (hIndexed : hub.rooms.Indexed) {key : RoomKey} {client : ClientId}
    {mailbox : MailboxId} {progress : Subscribing}
    (hKnows : (Operation.subscribe key client mailbox progress).Knows hub)
    (hGoesOn : ∀ outcome, (progress.step key client mailbox hub).1 ≠ .done outcome) :
    (Operation.subscribe key client mailbox (progress.step key client mailbox hub).1).Knows
      (progress.step key client mailbox hub).2 := by
  cases progress with
  | looking =>
    rw [Subscribing.step] at hGoesOn ⊢
    split
    · next hCancelled =>
      rw [if_pos hCancelled] at hGoesOn
      exact absurd rfl (hGoesOn _)
    · exact (hIndexed.getOrMake key).2
  | joining id =>
    obtain ⟨room, hRoom, -⟩ := hKnows
    rw [Subscribing.step] at hGoesOn ⊢
    have hSpec := hub.joinRoom_spec id client mailbox
    generalize hub.joinRoom id client mailbox = result at hSpec hGoesOn
    obtain ⟨_ | start, next⟩ := result
    · rcases hSpec with ⟨-, hSpares, hClosed⟩ | ⟨_, _, _, hSome, -⟩
      · exact ⟨room, (hSpares.rooms id).trans hRoom, hClosed room hRoom⟩
      · cases hSome
    · exact absurd rfl (hGoesOn _)
  | discarding id => trivial
  | done outcome => exact hKnows.elim

theorem Operation.knows_step (hIndexed : hub.rooms.Indexed) (hKnows : operation.Knows hub)
    (hRest : (operation.step hub).1 = some rest) : rest.Knows (operation.step hub).2 := by
  cases operation with
  | subscribe key client mailbox progress =>
    have hNext := knows_subscribing hIndexed hKnows
    rw [step_subscribe]
    rw [step] at hRest
    split at hRest
    · cases hRest
    · next hGoesOn hStep =>
      cases hRest
      rw [hStep] at hNext ⊢
      exact hNext hGoesOn
  | unsubscribe | broadcast =>
    obtain ⟨_, -, rfl⟩ := Option.map_eq_some_iff.mp hRest
    trivial
  | leave room client =>
    rw [step] at hRest
    split at hRest <;> cases hRest
    trivial
  | send | schedule | remove => cases hRest
  | publish room payload =>
    rw [step] at hRest
    dsimp only at hRest
    split at hRest <;> cases hRest
    trivial
  | read room =>
    obtain ⟨_, -, rfl⟩ := Option.map_eq_some_iff.mp hRest
    trivial
  | teardown room generation =>
    rcases hub.step_teardown_cases room generation with ⟨hNone, -⟩ |
      ⟨before, after, hTouches, -, -, -, hClosed, -, hRemove⟩
    · exact absurd (hNone.symm.trans hRest) (by simp)
    · cases hRemove.symm.trans hRest
      exact ⟨after, hTouches.after, hClosed⟩

namespace Traffic

variable {traffic : Traffic π} {move : Move π}

/-! ## Moves -/

/-- Only steps of operations change the registry. -/
theorem registered_step (traffic : Traffic π) {move : Move π} (hOther : ∀ index, move ≠ .go index) :
    (traffic.step move).hub.rooms.registered = traffic.hub.rooms.registered := by
  cases move with
  | request | wait | mailboxes => rfl
  | go index => exact absurd rfl (hOther index)
  | fire index =>
    obtain ⟨timers, hHub | ⟨task, hHub⟩⟩ := traffic.step_fire index <;> rw [hHub]
    exact (undisturbed_wake _ task).registered
  | connected task => exact (undisturbed_connected _ _).registered
  | ended task error offset => exact (undisturbed_ended _ _ _ _).registered
  | wake task => exact (undisturbed_wake _ _).registered

/-- The table is in order, and the operations under way know what they do. -/
structure Tidy (traffic : Traffic π) : Prop where
  indexed : traffic.hub.rooms.Indexed
  knows : ∀ operation ∈ traffic.operations, operation.Knows traffic.hub

theorem Tidy.indexed_step (hTidy : traffic.Tidy) (move : Move π) :
    (traffic.step move).hub.rooms.Indexed := by
  have hShifts := traffic.shifts move
  by_cases hGo : ∃ index, move = .go index
  · obtain ⟨index, rfl⟩ := hGo
    cases hIndex : traffic.operations[index]? with
    | none =>
      rw [step, hIndex]
      exact hTidy.indexed
    | some operation =>
      rw [(step_go hIndex).1] at hShifts ⊢
      cases operation.registers traffic.hub with
      | keeps hNone hRegistered => exact hShifts.indexed hTidy.indexed hNone hRegistered
      | makes hRooms =>
        rw [hRooms]
        exact (hTidy.indexed.getOrMake _).1
      | discards hDiscards hSame =>
        have hKnows := hTidy.knows operation (List.mem_of_getElem? hIndex)
        obtain ⟨room, hRoom, hClosed⟩ := hKnows.closed hDiscards
        have hRemoved := hTidy.indexed.removeIfSame hRoom hClosed
        exact hSame.alters.toShifts.indexed hRemoved (fun _ => hSame.none) hSame.registered
  · have hOther : ∀ index, move ≠ .go index := fun index hMove => hGo ⟨index, hMove⟩
    refine hShifts.indexed hTidy.indexed ?_ (registered_step traffic hOther)
    intro id hNone
    have hStill := still_step traffic hOther id
    rwa [hNone, Option.map_none, Option.map_eq_none_iff] at hStill

theorem Tidy.step (hTidy : traffic.Tidy) (move : Move π) : (traffic.step move).Tidy where
  indexed := hTidy.indexed_step move
  knows := by
    intro operation hAfter
    rcases of_mem_operations hAfter with hOld | ⟨request, -, rfl⟩ |
      ⟨before, hBefore, hHub, hRest⟩ | ⟨_, -, -, _, _, -, rfl⟩
    · exact (hTidy.knows operation hOld).shifts (traffic.shifts move)
    · exact request.knows _
    · rw [hHub]
      exact Operation.knows_step hTidy.indexed (hTidy.knows before hBefore) hRest
    · trivial

/-- By induction on the moves. -/
theorem tidy_run (kind : FeedKind) (config : HubConfig) (moves : List (Move π)) :
    (run kind config moves).Tidy := by
  induction moves using List.reverseRecOn with
  | nil => exact ⟨Rooms.indexed_empty, fun _ hNone => absurd hNone List.not_mem_nil⟩
  | append_singleton moves move ih =>
    rw [run_snoc]
    exact ih.step move

/-- What a move can do to the rooms and to their members. -/
structure Orderly (before : Traffic π) (move : Move π) (after : Traffic π) : Prop where
  /-- Nobody comes into a closed room. -/
  closed {id : RoomId} {room : Room π} (hRoom : before.hub.rooms.get? id = some room)
    (hClosed : room.closed = true) :
    ∃ next, after.hub.rooms.get? id = some next ∧ next.closed = true ∧ next.members = []
  /-- A room leaves the registry by an operation that was meant for this room, which is closed. -/
  removed {key : RoomKey} {id : RoomId} (hBefore : before.hub.rooms.find? key = some id)
    (hAfter : after.hub.rooms.find? key ≠ some id) :
    ∃ index operation room, move = .go index ∧ before.operations[index]? = some operation ∧
      operation.Discards id ∧ before.hub.rooms.get? id = some room ∧ room.key = key ∧
      room.closed = true
  /-- A subscription that succeeds adds its client to the room that its key leads to. -/
  admitted {index : Nat} {key : RoomKey} {client : ClientId} {mailbox : MailboxId}
    {progress : Subscribing} (hMove : move = .go index)
    (hOperation : before.operations[index]? = some (.subscribe key client mailbox progress))
    (hOk : (progress.step key client mailbox before.hub).1 = .done none) :
    ∃ id room next, before.hub.rooms.get? id = some room ∧ room.closed = false ∧
      before.hub.rooms.find? key = some id ∧ after.hub.rooms.get? id = some next ∧
      next.closed = false ∧ after.hub.rooms.find? key = some id ∧ (client, mailbox) ∈ next.members

theorem Tidy.removed (hTidy : traffic.Tidy) {key : RoomKey} {id : RoomId}
    (hBefore : traffic.hub.rooms.find? key = some id)
    (hAfter : (traffic.step move).hub.rooms.find? key ≠ some id) :
    ∃ index operation room, move = .go index ∧ traffic.operations[index]? = some operation ∧
      operation.Discards id ∧ traffic.hub.rooms.get? id = some room ∧ room.key = key ∧
      room.closed = true := by
  have hKept : (traffic.step move).hub.rooms.registered ≠ traffic.hub.rooms.registered := by
    intro hSame
    exact hAfter ((congrArg (List.lookup key) hSame).trans hBefore)
  by_cases hGo : ∃ index, move = .go index
  · obtain ⟨index, rfl⟩ := hGo
    have hIndexed := hTidy.indexed_step (.go index)
    cases hIndex : traffic.operations[index]? with
    | none => exact absurd (by rw [Traffic.step, hIndex]) hKept
    | some operation =>
      rw [(step_go hIndex).1] at hKept hAfter hIndexed
      have hEntry := hTidy.indexed.find?_iff.mp hBefore
      have hGone := fun hMem => hAfter (hIndexed.find?_iff.mpr hMem)
      cases operation.registers traffic.hub with
      | keeps _ hRegistered => exact absurd hRegistered hKept
      | @makes other hRooms =>
        rcases traffic.hub.rooms.getOrMake_cases other with ⟨_, -, hSame⟩ | ⟨-, hRegistered, -⟩
        · exact absurd (by rw [hRooms, hSame]) hKept
        · rw [hRooms, hRegistered] at hGone
          exact absurd (List.mem_append_left _ hEntry) hGone
      | @discards other hDiscards hSame =>
        have hSameId : id = other := by
          by_contra hNe
          rw [hSame.registered] at hGone
          exact hGone (List.mem_filter.mpr ⟨hEntry, by simpa using hNe⟩)
        subst hSameId
        obtain ⟨room, hRoom, hKey⟩ := hTidy.indexed.entries hEntry
        have hKnows := hTidy.knows operation (List.mem_of_getElem? hIndex)
        obtain ⟨same, hFound, hClosed⟩ := hKnows.closed hDiscards
        obtain rfl := Option.some.inj (hRoom.symm.trans hFound)
        exact ⟨index, operation, room, rfl, hIndex, hDiscards, hRoom, hKey, hClosed⟩
  · exact absurd (registered_step traffic fun index hMove => hGo ⟨index, hMove⟩) hKept

theorem Tidy.orderly (hTidy : traffic.Tidy) (move : Move π) :
    Orderly traffic move (traffic.step move) where
  closed {id room} hRoom hClosed := by
    obtain ⟨next, hNext, hChange⟩ := (traffic.shifts move).rooms hRoom
    have hShut := hChange.evolves.closed hClosed
    exact ⟨next, hNext, hShut, (hTidy.indexed_step move).vacant hNext hShut⟩
  removed := hTidy.removed
  admitted {index key client mailbox progress} hMove hOperation hOk := by
    subst hMove
    have hIndexed := hTidy.indexed_step (.go index)
    have hKnows := hTidy.knows _ (List.mem_of_getElem? hOperation)
    obtain ⟨id, room, next, hRoom, hKey, hOpen, hNext, hStill, hMember⟩ :=
      step_subscribe_ok hKnows hOk
    have hSame : next.key = key := by
      obtain ⟨after, hAfter, hChange⟩ :=
        (traffic.hub.alters_subscribing key client mailbox progress).rooms hRoom
      obtain rfl := Option.some.inj (hNext.symm.trans hAfter)
      exact hChange.evolves.key.trans hKey
    rw [(step_go hOperation).1, step_subscribe] at hIndexed ⊢
    refine ⟨id, room, next, hRoom, hOpen, ?_, hNext, hStill, ?_, hMember⟩
    · exact hKey ▸ hTidy.indexed.find?_of_open hRoom hOpen
    · exact hSame ▸ hIndexed.find?_of_open hNext hStill

/-- **Nobody is stranded in a room that cannot be found.** Whatever steps of calls, teardowns, feeds
and timers come between each other: an open room is the one that is registered under its key, so
each key has one open room at most, and every room with a member is open. No move lets anybody into
a closed room or takes another room out of the registry than the closed one that it is for, and a
subscription succeeds only by adding its client to a room that is open and registered at that
moment. -/
theorem open_rooms_registered (kind : FeedKind) (config : HubConfig) (moves : List (Move π)) :
    (∀ id room, (run kind config moves).hub.rooms.get? id = some room → room.closed = false →
      (run kind config moves).hub.rooms.find? room.key = some id) ∧
    (∀ id other first second, (run kind config moves).hub.rooms.get? id = some first →
      (run kind config moves).hub.rooms.get? other = some second → first.closed = false →
      second.closed = false → first.key = second.key → id = other) ∧
    (∀ id room, (run kind config moves).hub.rooms.get? id = some room → room.members ≠ [] →
      room.closed = false ∧ (run kind config moves).hub.rooms.find? room.key = some id) ∧
    ∀ move, Orderly (run kind config moves) move (run kind config (moves ++ [move])) := by
  have hTidy := tidy_run kind config moves
  have hIndexed := hTidy.indexed
  refine ⟨fun id room => hIndexed.find?_of_open, ?_, ?_, ?_⟩
  · intro id other first second hFirst hSecond hOpen hOther hKey
    have hFound := hIndexed.find?_of_open hFirst hOpen
    have hSame := hIndexed.find?_of_open hSecond hOther
    rw [hKey] at hFound
    exact Option.some.inj (hFound.symm.trans hSame)
  · intro id room hRoom hSome
    have hOpen := hIndexed.open_of_member hRoom hSome
    exact ⟨hOpen, hIndexed.find?_of_open hRoom hOpen⟩
  · intro move
    rw [run_snoc]
    exact hTidy.orderly move

/-! ## A subscription that is overtaken by a teardown -/

/-- A client joins and leaves. When the grace period is over another one looks the room up, and the
teardown closes it before that one has joined. -/
def overtakenMoves : List (Move Nat) :=
  [.request (.subscribe priceRoom 1 0), .go 0, .go 0,
    .request (.unsubscribe priceRoom 1), .go 0, .go 0, .go 0,
    .wait 10, .fire 0, .request (.subscribe priceRoom 2 1), .go 1, .go 0, .go 0, .go 1, .go 1]

/-- The second client takes the closed room out itself, and joins a new one while the teardown has
still to take the old one out. -/
theorem open_rooms_registered_of_overtaken :
    (run .markPrice quickGrace overtakenMoves).hub.rooms.find? priceRoom = some 1 ∧
    (∃ next, (run .markPrice quickGrace (overtakenMoves ++ [.go 1])).hub.rooms.get? 1 = some next ∧
      next.closed = false ∧ (2, 1) ∈ next.members) ∧
    (run .markPrice quickGrace (overtakenMoves ++ [.go 1])).hub.rooms.find? priceRoom = some 1 := by
  have hRoom : (run .markPrice quickGrace overtakenMoves).hub.rooms.get? 1 =
      some { key := priceRoom } := by decide +kernel
  have hOperation : (run .markPrice quickGrace overtakenMoves).operations[1]? =
      some (.subscribe priceRoom 2 1 (.joining 1)) := rfl
  obtain ⟨hOpen, -, -, hOrderly⟩ := open_rooms_registered .markPrice quickGrace overtakenMoves
  have hFound : (run .markPrice quickGrace overtakenMoves).hub.rooms.find? priceRoom = some 1 :=
    hOpen 1 _ hRoom rfl
  obtain ⟨id, room, next, -, -, hBefore, hNext, hStill, hAfter, hMember⟩ :=
    (hOrderly (.go 1)).admitted rfl hOperation rfl
  obtain rfl : id = 1 := Option.some.inj (hBefore.symm.trans hFound)
  exact ⟨hFound, ⟨next, hNext, hStill, hMember⟩, hAfter⟩

end Traffic

end Hub

end MarketGateway
