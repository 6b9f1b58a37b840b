import MarketGateway.Proofs.Hub.Moves

/-!
# The grace period

A teardown bears the generation that its room was in when it was scheduled. `Traffic.Timely` says
what that is worth in every run, whatever steps come in between: the generation has been reached,
and all moments at which the room was in an earlier one lie a grace period or more before the time
at which the timer fires.

So a teardown that closes a room has found it empty for the whole grace period, and one that was
scheduled before the room had a member closes nothing (`closed_only_after_grace`).
-/

namespace MarketGateway.Hub.Traffic

variable {π : Type} {kind : FeedKind} {config : HubConfig} {moves early : List (Move π)}
  {move : Move π} {id : RoomId} {generation : Nat} {time : Duration}

/-- A teardown of a room for a generation is on its way. -/
inductive Pending (traffic : Traffic π) (id : RoomId) (generation : Nat) : Prop
  | scheduled (hOperation : .schedule id generation ∈ traffic.operations)
  | waiting {due : Duration} (hTimer : ⟨due, .teardown id generation⟩ ∈ traffic.hub.timers)
  | closing (hOperation : .teardown id generation ∈ traffic.operations)

/-- A room is in the given generation or a later one. -/
def Reached (traffic : Traffic π) (id : RoomId) (generation : Nat) : Prop :=
  ∃ room, traffic.hub.rooms.get? id = some room ∧ generation ≤ room.generation

theorem Reached.step {traffic : Traffic π} (hReached : traffic.Reached id generation)
    (move : Move π) : (traffic.step move).Reached id generation := by
  obtain ⟨room, hRoom, hLe⟩ := hReached
  obtain ⟨after, hAfter, hChange⟩ := (traffic.shifts move).rooms hRoom
  exact ⟨after, hAfter, Nat.le_trans hLe hChange.evolves.generation⟩

/-- Whenever a room was in an earlier generation, a grace period is over at the given time. -/
def Rested (kind : FeedKind) (config : HubConfig) (moves : List (Move π)) (id : RoomId)
    (generation : Nat) (time : Duration) : Prop :=
  ∀ early, early <+: moves → ∀ room, (run kind config early).hub.rooms.get? id = some room →
    room.generation < generation → (run kind config early).hub.now + config.gracePeriod ≤ time

theorem Rested.mono {later : Duration} (hRested : Rested kind config moves id generation time)
    (hLater : time ≤ later) : Rested kind config moves id generation later :=
  fun early hEarly room hRoom hEarlier =>
    Nat.le_trans (hRested early hEarly room hRoom hEarlier) hLater

/-- A move keeps a room rested whose generation is reached. -/
theorem Rested.snoc (hRested : Rested kind config moves id generation time)
    (hReached : (run kind config moves).Reached id generation) (move : Move π) :
    Rested kind config (moves ++ [move]) id generation time := by
  intro early hEarly room hRoom hEarlier
  rcases List.prefix_concat_iff.mp hEarly with rfl | hBefore
  · obtain ⟨now, hNow, hLe⟩ := hReached.step move
    rw [← run_snoc] at hNow
    obtain rfl := Option.some.inj (hRoom.symm.trans hNow)
    exact absurd hEarlier (Nat.not_lt.mpr hLe)
  · exact hRested early hBefore room hRoom hEarlier

theorem rested_after_grace (kind : FeedKind) (config : HubConfig) (moves : List (Move π))
    (id : RoomId) (generation : Nat) :
    Rested kind config moves id generation
      ((run kind config moves).hub.now + (run kind config moves).hub.config.gracePeriod) := by
  rw [(config_run kind config moves).1]
  exact fun _ hEarly _ _ _ => Nat.add_le_add_right (run_evolves kind config hEarly).now _

/-! ## Every run -/

/-- What holds of the teardowns after a run. -/
structure Timely (kind : FeedKind) (config : HubConfig) (moves : List (Move π)) : Prop where
  /-- A room whose generation is read has had a member. -/
  read (id : RoomId) (hRead : .read id ∈ (run kind config moves).operations) :
    (run kind config moves).Reached id 1
  /-- The generation of a teardown has been reached. -/
  reached (id : RoomId) (generation : Nat)
      (hPending : (run kind config moves).Pending id generation) :
    generation ≠ 0 ∧ (run kind config moves).Reached id generation
  waiting (id : RoomId) (generation : Nat) (due : Duration)
      (hTimer : ⟨due, .teardown id generation⟩ ∈ (run kind config moves).hub.timers) :
    Rested kind config moves id generation due
  closing (id : RoomId) (generation : Nat)
      (hOperation : .teardown id generation ∈ (run kind config moves).operations) :
    Rested kind config moves id generation (run kind config moves).hub.now

namespace Timely

theorem read_step (hTimely : Timely kind config moves)
    (hRead : .read id ∈ ((run kind config moves).step move).operations) :
    ((run kind config moves).step move).Reached id 1 := by
  rcases of_mem_operations hRead with hOld | ⟨request, -, hRequest⟩ |
    ⟨before, -, hHub, hRest⟩ | ⟨_, -, -, _, _, -, hTeardown⟩
  · exact (hTimely.read id hOld).step move
  · cases request <;> cases hRequest
  · cases Operation.follows hRest with
    | read hRoom hLater => exact ⟨_, hHub ▸ hRoom, Nat.one_le_iff_ne_zero.mpr hLater⟩
  · cases hTeardown

theorem reached_step (hTimely : Timely kind config moves)
    (hPending : ((run kind config moves).step move).Pending id generation) :
    generation ≠ 0 ∧ ((run kind config moves).step move).Reached id generation := by
  have hKept (hBefore : (run kind config moves).Pending id generation) :
      generation ≠ 0 ∧ ((run kind config moves).step move).Reached id generation :=
    (hTimely.reached id generation hBefore).imp_right fun hReached => hReached.step move
  cases hPending with
  | scheduled hOperation =>
    rcases of_mem_operations hOperation with hOld | ⟨request, -, hRequest⟩ |
      ⟨before, hBefore, hHub, hRest⟩ | ⟨_, -, -, _, _, -, hTeardown⟩
    · exact hKept (.scheduled hOld)
    · cases request <;> cases hRequest
    · cases Operation.follows hRest with
      | @schedule _ room hRoom hLater =>
        -- The room may have moved on since its feed emptied it: the generation that is read now is
        -- a later one then, for which the teardown is just as good.
        rw [← hHub] at hRoom
        refine ⟨?_, room, hRoom, Nat.le_refl _⟩
        rcases hLater with rfl | hLater
        · obtain ⟨after, hAfter, hLe⟩ := (hTimely.read id hBefore).step move
          obtain rfl := Option.some.inj (hRoom.symm.trans hAfter)
          exact Nat.one_le_iff_ne_zero.mp hLe
        · exact hLater
    · cases hTeardown
  | waiting hTimer =>
    rcases of_mem_timers hTimer with hOld | ⟨_, hWake⟩ | ⟨_, _, hSchedule, hSame⟩
    · exact hKept (.waiting hOld)
    · cases hWake
    · cases hSame
      exact hKept (.scheduled hSchedule)
  | closing hOperation =>
    rcases of_mem_operations hOperation with hOld | ⟨request, -, hRequest⟩ |
      ⟨before, -, hHub, hRest⟩ | ⟨⟨due, alarm⟩, hTimer, -, _, _, hAlarm, hTeardown⟩
    · exact hKept (.closing hOld)
    · cases request <;> cases hRequest
    · cases Operation.follows hRest
    · cases hTeardown
      cases hAlarm
      exact hKept (.waiting hTimer)

theorem waiting_step (hTimely : Timely kind config moves) {due : Duration}
    (hTimer : ⟨due, .teardown id generation⟩ ∈ ((run kind config moves).step move).hub.timers) :
    Rested kind config (moves ++ [move]) id generation due := by
  rcases of_mem_timers hTimer with hOld | ⟨_, hWake⟩ | ⟨_, _, hSchedule, hSame⟩
  · exact (hTimely.waiting id generation due hOld).snoc
      (hTimely.reached id generation (.waiting hOld)).2 move
  · cases hWake
  · cases hSame
    exact (rested_after_grace kind config moves id generation).snoc
      (hTimely.reached id generation (.scheduled hSchedule)).2 move

theorem closing_step (hTimely : Timely kind config moves)
    (hOperation : .teardown id generation ∈ ((run kind config moves).step move).operations) :
    Rested kind config (moves ++ [move]) id generation
      ((run kind config moves).step move).hub.now := by
  have hNow := ((run kind config moves).shifts move).now
  rcases of_mem_operations hOperation with hOld | ⟨request, -, hRequest⟩ |
    ⟨before, -, hHub, hRest⟩ | ⟨⟨due, alarm⟩, hTimer, hDue, _, _, hAlarm, hTeardown⟩
  · exact ((hTimely.closing id generation hOld).snoc
      (hTimely.reached id generation (.closing hOld)).2 move).mono hNow
  · cases request <;> cases hRequest
  · cases Operation.follows hRest
  · cases hTeardown
    cases hAlarm
    exact ((hTimely.waiting id generation due hTimer).snoc
      (hTimely.reached id generation (.waiting hTimer)).2 move).mono (Nat.le_trans hDue hNow)

end Timely

/-- By induction on the moves. -/
theorem timely (kind : FeedKind) (config : HubConfig) (moves : List (Move π)) :
    Timely kind config moves := by
  induction moves using List.reverseRecOn with
  | nil =>
    refine ⟨nofun, ?_, nofun, nofun⟩
    rintro id generation (hOperation | hTimer | hOperation)
    · cases hOperation
    · cases hTimer
    · cases hOperation
  | append_singleton moves move ih =>
    constructor <;> rw [run_snoc]
    · exact fun _ => ih.read_step
    · exact fun _ _ => ih.reached_step
    · exact fun _ _ _ => ih.waiting_step
    · exact fun _ _ => ih.closing_step

/-! ## Rooms that are closed -/

/-- A move that closes a room is the step of a teardown that bears its generation. -/
theorem step_closes {traffic : Traffic π}
    (hCloses : traffic.hub.Closes (traffic.step move).hub id) :
    ∃ index room, move = .go index ∧ traffic.hub.rooms.get? id = some room ∧ room.members = [] ∧
      traffic.operations[index]? = some (.teardown id room.generation) := by
  cases move with
  | go index =>
    rw [step] at hCloses
    cases hIndex : traffic.operations[index]? with
    | none =>
      rw [hIndex] at hCloses
      exact absurd hCloses (not_loses_of_kept fun _ hRoom => hRoom)
    | some operation =>
      rw [hIndex] at hCloses
      obtain ⟨room, hRoom, hEmpty, rfl⟩ := Operation.step_closes hCloses
      exact ⟨index, room, rfl, hRoom, hEmpty, hIndex⟩
  | request | fire | wait | mailboxes | connected | ended | wake =>
    exact absurd (hCloses.of_still Room.closed_of_still (still_step traffic (by rintro _ ⟨⟩) id))
      ((Spares.refl traffic.hub).not_loses id)

/-- A room that is closed by a move of a run. -/
structure ClosedAfterGrace (kind : FeedKind) (config : HubConfig) (moves : List (Move π))
    (move : Move π) (id : RoomId) (room : Room π) : Prop where
  /-- The move is the step of a teardown that bears the generation of the room. -/
  teardown : ∃ index, move = .go index ∧
    (run kind config moves).operations[index]? = some (.teardown id room.generation)
  /-- The room has had a member, -/
  used : ∃ early, early <+: moves ∧ (run kind config early).Occupied id
  /-- but none in the grace period before, -/
  vacant (early : List (Move π)) (hEarly : early <+: moves)
      (hOccupied : (run kind config early).Occupied id) :
    (run kind config early).hub.now + config.gracePeriod ≤ (run kind config moves).hub.now
  /-- and none since a teardown for this generation was on its way. -/
  latest (early middle : List (Move π)) (hEarly : early <+: middle) (hMiddle : middle <+: moves)
      (hPending : (run kind config early).Pending id room.generation) :
    ¬ (run kind config middle).Occupied id

/-- A room that had a member when its teardown was on its way already is in a later generation once
it is empty. -/
theorem lt_of_pending {middle : List (Move π)} {room : Room π} (hEarly : early <+: middle)
    (hMiddle : middle <+: moves) (hPending : (run kind config early).Pending id generation)
    (hOccupied : (run kind config middle).Occupied id)
    (hRoom : (run kind config moves).hub.rooms.get? id = some room) (hEmpty : room.members = []) :
    generation < room.generation := by
  obtain ⟨-, first, hFirst, hReached⟩ :=
    (timely kind config early).reached id generation hPending
  obtain ⟨before, hBefore, hSome⟩ := hOccupied
  obtain ⟨after, hAfter, hEvolves⟩ := (run_evolves kind config hEarly).rooms hFirst
  obtain rfl := Option.some.inj (hBefore.symm.trans hAfter)
  have hLater := generation_lt_of_occupied hMiddle hBefore hSome hRoom hEmpty
  have hLe := hEvolves.generation
  omega

theorem closedAfterGrace {room after : Room π}
    (hRoom : (run kind config moves).hub.rooms.get? id = some room) (hOpen : room.closed = false)
    (hAfter : (run kind config (moves ++ [move])).hub.rooms.get? id = some after)
    (hClosed : after.closed = true) : ClosedAfterGrace kind config moves move id room := by
  have hCloses : (run kind config moves).hub.Closes ((run kind config moves).step move).hub id :=
    ⟨room, after, hRoom, run_snoc kind config moves move ▸ hAfter, hOpen, by simp [hClosed]⟩
  obtain ⟨index, same, hMove, hSame, hEmpty, hIndex⟩ := step_closes hCloses
  obtain rfl := Option.some.inj (hRoom.symm.trans hSame)
  have hOperation := List.mem_of_getElem? hIndex
  have hTimely := timely kind config moves
  have hLater := (hTimely.reached id room.generation (.closing hOperation)).1
  refine ⟨⟨index, hMove, hIndex⟩, occupied_of_generation hRoom hLater, ?_, ?_⟩
  · rintro early hEarly ⟨before, hBefore, hSome⟩
    exact hTimely.closing id room.generation hOperation early hEarly before hBefore
      (generation_lt_of_occupied hEarly hBefore hSome hRoom hEmpty)
  · intro early middle hEarly hMiddle hPending hOccupied
    exact Nat.lt_irrefl _ (lt_of_pending hEarly hMiddle hPending hOccupied hRoom hEmpty)

/-- **A room is closed only after a whole grace period without members.** Whatever calls, feeds,
mailboxes and timers do in between, a move that closes a room is the step of a teardown, and no
member has been in the room for a grace period before it. A teardown that was on its way before the
room had a member closes nothing any more, even if the room has lost that member since. -/
theorem closed_only_after_grace (kind : FeedKind) (config : HubConfig) (moves : List (Move π))
    (id : RoomId) :
    (∀ move room after, (run kind config moves).hub.rooms.get? id = some room →
      room.closed = false →
      (run kind config (moves ++ [move])).hub.rooms.get? id = some after →
      after.closed = true → ClosedAfterGrace kind config moves move id room) ∧
    ∀ early middle generation, early <+: middle → middle <+: moves →
      (run kind config early).Pending id generation → (run kind config middle).Occupied id →
      ((run kind config moves).hub.closeIfIdle id generation).1 = false := by
  refine ⟨fun move room after => closedAfterGrace, ?_⟩
  intro early middle generation hEarly hMiddle hPending hOccupied
  rcases (run kind config moves).hub.closeIfIdle_spec id generation with ⟨hFalse, -⟩ |
    ⟨-, before, after, hTouches, -, hEmpty, hSame, -⟩
  · exact hFalse
  · have hLt := lt_of_pending hEarly hMiddle hPending hOccupied hTouches.before hEmpty
    exact absurd hSame (Nat.ne_of_gt hLt)

/-! ## A client that comes back -/

def quickGrace : HubConfig := ⟨10, .standard⟩

def priceRoom : RoomKey := ⟨"BTCUSDT", none⟩

/-- A client joins and leaves, does both again after four units of time, and stays away. -/
def returnMoves : List (Move Nat) :=
  let visit := [.request (.subscribe priceRoom 1 0), .go 0, .go 0,
    .request (.unsubscribe priceRoom 1), .go 0, .go 0, .go 0]
  visit ++ [.wait 4] ++ visit ++ [.wait 6, .fire 0, .go 0, .wait 4, .fire 0]

/-- The first teardown finds the room in a later generation, the second one closes it. -/
theorem closed_only_after_grace_of_return :
    (∃ room after, (run .markPrice quickGrace returnMoves).hub.rooms.get? 0 = some room ∧
      room.closed = false ∧
      (run .markPrice quickGrace (returnMoves ++ [.go 0])).hub.rooms.get? 0 = some after ∧
      after.closed = true ∧ ClosedAfterGrace .markPrice quickGrace returnMoves (.go 0) 0 room) ∧
    (run .markPrice quickGrace (returnMoves.take 7)).Pending 0 2 ∧
    (run .markPrice quickGrace (returnMoves.take 11)).Occupied 0 ∧
    ((run .markPrice quickGrace returnMoves).hub.closeIfIdle 0 2).1 = false := by
  have hRoom : (run .markPrice quickGrace returnMoves).hub.rooms.get? 0 =
      some { key := priceRoom, running := true, generation := 4 } := by decide +kernel
  have hAfter : (run .markPrice quickGrace (returnMoves ++ [.go 0])).hub.rooms.get? 0 =
      some { key := priceRoom, generation := 4, closed := true } := by decide +kernel
  have hPending : (run .markPrice quickGrace (returnMoves.take 7)).Pending 0 2 :=
    .waiting (show ⟨10, .teardown 0 2⟩ ∈
      (run .markPrice quickGrace (returnMoves.take 7)).hub.timers by decide +kernel)
  have hOccupied : (run .markPrice quickGrace (returnMoves.take 11)).Occupied 0 :=
    ⟨{ key := priceRoom, members := [(1, 0)], running := true, generation := 3 },
      by decide +kernel, by decide⟩
  obtain ⟨hClosed, hRefused⟩ := closed_only_after_grace .markPrice quickGrace returnMoves 0
  exact ⟨⟨_, _, hRoom, rfl, hAfter, rfl, hClosed _ _ _ hRoom rfl hAfter rfl⟩, hPending, hOccupied,
    hRefused _ _ 2 (List.take_prefix_take_left (by decide)) (List.take_prefix 11 returnMoves)
      hPending hOccupied⟩

end MarketGateway.Hub.Traffic
