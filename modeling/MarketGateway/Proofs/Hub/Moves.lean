import Mathlib.Data.List.Induction
import MarketGateway.Proofs.Hub.Operations

/-!
# Moves of the traffic

Every move leaves the settings alone, lets no time run backwards and changes each room as
`Room.Change` allows (`Traffic.shifts`). Over a run a room therefore evolves (`run_evolves`): its
generation never falls, and grows whenever it loses all its members.

`of_mem_operations` and `of_mem_timers` say where the operations and timers after a move come from,
`mem_operations_step` and `mem_teardowns_step` what becomes of those before it.
-/

namespace MarketGateway

variable {π : Type}

namespace Hub

variable {hub next last : Hub π}

namespace Traffic

variable {traffic : Traffic π} {move : Move π}

/-- A timer that fires wakes a supervisor, if it changes more of the hub than its timers. -/
theorem step_fire (traffic : Traffic π) (index : Nat) :
    ∃ timers, (traffic.step (.fire index)).hub = { traffic.hub with timers := timers } ∨
      ∃ task, (traffic.step (.fire index)).hub =
        wake { traffic.hub with timers := timers } task := by
  rw [step]
  split
  · split
    · dsimp only
      split
      · exact ⟨_, .inr ⟨_, rfl⟩⟩
      · exact ⟨_, .inl rfl⟩
    · exact ⟨traffic.hub.timers, .inl rfl⟩
  · exact ⟨traffic.hub.timers, .inl rfl⟩

theorem shifts (traffic : Traffic π) (move : Move π) :
    traffic.hub.Shifts (traffic.step move).hub := by
  have hSame : traffic.hub.Shifts traffic.hub := (Alters.refl _).toShifts
  cases move with
  | request request => exact hSame
  | go index =>
    rw [step]
    split
    · exact Operation.shifts _ traffic.hub
    · exact hSame
  | fire index =>
    obtain ⟨timers, hHub | ⟨task, hHub⟩⟩ := traffic.step_fire index <;> rw [hHub]
    · exact shifts_of_rooms (Nat.le_refl _) rfl rfl fun _ => rfl
    · obtain ⟨hNow, hConfig, hCancelled, hRooms, hMade⟩ :=
        (undisturbed_wake { traffic.hub with timers := timers } task).alters.toShifts
      exact ⟨hNow, hConfig, hCancelled, hRooms, hMade⟩
  | wait time => exact shifts_of_rooms (Nat.le_add_right _ _) rfl rfl fun _ => rfl
  | mailboxes boxes => exact shifts_of_rooms (Nat.le_refl _) rfl rfl fun _ => rfl
  | connected task => exact (undisturbed_connected _ _).alters.toShifts
  | ended task error offset => exact (undisturbed_ended _ _ _ _).alters.toShifts
  | wake task => exact (undisturbed_wake _ _).alters.toShifts

/-- Time passes only in a wait. -/
theorem now_step (traffic : Traffic π) {move : Move π} (hOther : ∀ time, move ≠ .wait time) :
    (traffic.step move).hub.now = traffic.hub.now := by
  cases move with
  | request | mailboxes => rfl
  | go index =>
    rw [step]
    split
    · next operation _ =>
      cases operation with
      | schedule => rfl
      | _ => exact (Operation.alters _ traffic.hub (by rintro _ _ ⟨⟩)).sameTime
    · rfl
  | fire index =>
    obtain ⟨timers, hHub | ⟨task, hHub⟩⟩ := traffic.step_fire index <;> rw [hHub]
    exact (undisturbed_wake _ task).now
  | wait time => exact absurd rfl (hOther time)
  | connected task => exact (undisturbed_connected _ _).now
  | ended task error offset => exact (undisturbed_ended _ _ _ _).now
  | wake task => exact (undisturbed_wake _ _).now

/-- Only steps of operations change more of a room than whether its feed runs. -/
theorem still_step (traffic : Traffic π) {move : Move π} (hOther : ∀ index, move ≠ .go index)
    (id : RoomId) :
    ((traffic.step move).hub.rooms.get? id).map Room.still =
      (traffic.hub.rooms.get? id).map Room.still := by
  cases move with
  | request | wait | mailboxes => rfl
  | go index => exact absurd rfl (hOther index)
  | fire index =>
    obtain ⟨timers, hHub | ⟨task, hHub⟩⟩ := traffic.step_fire index <;> rw [hHub]
    exact (undisturbed_wake _ task).rooms id
  | connected task => exact (undisturbed_connected _ _).rooms id
  | ended task error offset => exact (undisturbed_ended _ _ _ _).rooms id
  | wake task => exact (undisturbed_wake _ _).rooms id

/-! ## What is under way -/

/-- Where an operation comes from that is under way after a move. -/
theorem of_mem_operations {operation : Operation π}
    (hAfter : operation ∈ (traffic.step move).operations) :
    operation ∈ traffic.operations ∨
    (∃ request, move = .request request ∧ operation = request.operation) ∨
    (∃ before ∈ traffic.operations,
      (traffic.step move).hub = (before.step traffic.hub).2 ∧
      (before.step traffic.hub).1 = some operation) ∨
    ∃ timer ∈ traffic.hub.timers, timer.due ≤ traffic.hub.now ∧
      ∃ room generation, timer.alarm = .teardown room generation ∧
        operation = .teardown room generation := by
  cases move with
  | request request =>
    rcases List.mem_append.mp hAfter with hOld | hNew
    · exact .inl hOld
    · exact .inr (.inl ⟨request, rfl, List.mem_singleton.mp hNew⟩)
  | go index =>
    rw [step] at hAfter
    rw [step]
    cases hIndex : traffic.operations[index]? with
    | none =>
      rw [hIndex] at hAfter
      exact .inl hAfter
    | some before =>
      rw [hIndex] at hAfter
      rcases List.mem_append.mp hAfter with hOld | hNew
      · exact .inl (List.mem_of_mem_eraseIdx hOld)
      · exact .inr (.inr (.inl ⟨before, List.mem_of_getElem? hIndex, rfl,
          Option.mem_toList.mp hNew⟩))
  | fire index =>
    rw [step] at hAfter
    split at hAfter
    · next timer hIndex =>
      split at hAfter
      · next hDue =>
        dsimp only at hAfter
        split at hAfter
        · exact .inl hAfter
        · next room generation hAlarm =>
          rcases List.mem_append.mp hAfter with hOld | hNew
          · exact .inl hOld
          · exact .inr (.inr (.inr ⟨timer, List.mem_of_getElem? hIndex, hDue, room, generation,
              hAlarm, List.mem_singleton.mp hNew⟩))
      · exact .inl hAfter
    · exact .inl hAfter
  | wait | mailboxes | connected | ended | wake => exact .inl hAfter

theorem of_mem_wakes {timers more : Timers Alarm} {timer : Timer Alarm} (hWakes : Wakes timers more)
    (hTimer : timer ∈ more) : timer ∈ timers ∨ ∃ task, timer.alarm = .wake task := by
  obtain ⟨wakes, rfl, hAll⟩ := hWakes
  exact (List.mem_append.mp hTimer).imp_right (hAll timer)

/-- Where a timer comes from that is set after a move. -/
theorem of_mem_timers {timer : Timer Alarm} (hAfter : timer ∈ (traffic.step move).hub.timers) :
    timer ∈ traffic.hub.timers ∨ (∃ task, timer.alarm = .wake task) ∨
      ∃ room generation, .schedule room generation ∈ traffic.operations ∧
        timer = ⟨traffic.hub.now + traffic.hub.config.gracePeriod, .teardown room generation⟩ := by
  cases move with
  | request | wait | mailboxes => exact .inl hAfter
  | connected task =>
    exact (of_mem_wakes (undisturbed_connected _ task).timers hAfter).imp_right .inl
  | ended task error offset =>
    exact (of_mem_wakes (undisturbed_ended _ task error offset).timers hAfter).imp_right .inl
  | wake task => exact (of_mem_wakes (undisturbed_wake _ task).timers hAfter).imp_right .inl
  | go index =>
    rw [step] at hAfter
    split at hAfter
    · next operation hIndex =>
      by_cases hSchedule : ∃ room generation, operation = .schedule room generation
      · obtain ⟨room, generation, rfl⟩ := hSchedule
        rcases List.mem_append.mp hAfter with hOld | hNew
        · exact .inl hOld
        · exact .inr (.inr ⟨room, generation, List.mem_of_getElem? hIndex,
            List.mem_singleton.mp hNew⟩)
      · have hAlters := operation.alters traffic.hub
          fun room generation hSame => hSchedule ⟨room, generation, hSame⟩
        exact (of_mem_wakes hAlters.timers hAfter).imp_right .inl
    · exact .inl hAfter
  | fire index =>
    rw [step] at hAfter
    split at hAfter
    · split at hAfter
      · dsimp only at hAfter
        split at hAfter
        · exact ((of_mem_wakes (undisturbed_wake _ _).timers hAfter).imp
            List.mem_of_mem_eraseIdx .inl)
        · exact .inl (List.mem_of_mem_eraseIdx hAfter)
      · exact .inl hAfter
    · exact .inl hAfter

/-- An operation stays under way until it takes its next step. -/
theorem mem_operations_step {operation : Operation π} (hBefore : operation ∈ traffic.operations)
    (move : Move π) :
    operation ∈ (traffic.step move).operations ∨
      ∃ index, move = .go index ∧ traffic.operations[index]? = some operation := by
  cases move with
  | request request => exact .inl (List.mem_append_left _ hBefore)
  | go index =>
    rw [step]
    split
    · next first hIndex =>
      obtain ⟨place, hPlace⟩ := List.mem_iff_getElem?.mp hBefore
      by_cases hSame : place = index
      · exact .inr ⟨index, rfl, hSame ▸ hPlace⟩
      · exact .inl (List.mem_append_left _
          (List.mem_eraseIdx_iff_getElem?.mpr ⟨place, hSame, hPlace⟩))
    · exact .inl hBefore
  | fire index =>
    rw [step]
    refine .inl ?_
    split
    · split
      · dsimp only
        split
        · exact hBefore
        · exact List.mem_append_left _ hBefore
      · exact hBefore
    · exact hBefore
  | wait | mailboxes | connected | ended | wake => exact .inl hBefore

/-- What a step of an operation leaves to be done, and the hub after it. -/
theorem step_go {operation : Operation π} {index : Nat}
    (hIndex : traffic.operations[index]? = some operation) :
    (traffic.step (.go index)).hub = (operation.step traffic.hub).2 ∧
      ∀ rest, (operation.step traffic.hub).1 = some rest →
        rest ∈ (traffic.step (.go index)).operations := by
  rw [step, hIndex]
  refine ⟨rfl, fun rest hRest => List.mem_append_right _ ?_⟩
  exact Option.mem_toList.mpr hRest

/-- A teardown waits until its timer fires and is an operation then. -/
theorem mem_teardowns_step {due : Duration} {id : RoomId} {generation : Nat}
    (hTimer : ⟨due, .teardown id generation⟩ ∈ traffic.hub.timers) (move : Move π) :
    ⟨due, .teardown id generation⟩ ∈ (traffic.step move).hub.timers ∨
      .teardown id generation ∈ (traffic.step move).operations := by
  have hWakes {next : Hub π} (hNext : Wakes traffic.hub.timers next.timers) :
      ⟨due, .teardown id generation⟩ ∈ next.timers := by
    obtain ⟨wakes, hTimers, -⟩ := hNext
    rw [hTimers]
    exact List.mem_append_left _ hTimer
  cases move with
  | request | wait | mailboxes => exact .inl hTimer
  | go index =>
    refine .inl ?_
    rw [step]
    split
    · next operation hIndex =>
      by_cases hSchedule : ∃ room generation, operation = .schedule room generation
      · obtain ⟨room, generation, rfl⟩ := hSchedule
        exact List.mem_append_left _ hTimer
      · exact hWakes (operation.alters traffic.hub
          fun room generation hSame => hSchedule ⟨room, generation, hSame⟩).timers
    · exact hTimer
  | fire index =>
    rw [step]
    split
    · next timer hIndex =>
      split
      · obtain ⟨place, hPlace⟩ := List.mem_iff_getElem?.mp hTimer
        by_cases hSame : place = index
        · obtain rfl := Option.some.inj (hIndex.symm.trans (hSame ▸ hPlace))
          exact .inr (List.mem_append_right _ (List.mem_singleton.mpr rfl))
        · have hOther := List.mem_eraseIdx_iff_getElem?.mpr ⟨place, hSame, hPlace⟩
          dsimp only
          split
          · obtain ⟨wakes, hTimers, -⟩ := (undisturbed_wake
              { traffic.hub with timers := traffic.hub.timers.eraseIdx index } _).timers
            refine .inl ?_
            rw [hTimers]
            exact List.mem_append_left _ hOther
          · exact .inl hOther
      · exact .inl hTimer
    · exact .inl hTimer
  | connected task => exact .inl (hWakes (undisturbed_connected _ task).timers)
  | ended task error offset =>
    exact .inl (hWakes (undisturbed_ended _ task error offset).timers)
  | wake task => exact .inl (hWakes (undisturbed_wake _ task).timers)

end Traffic

/-! ## Runs -/

/-- What a run changes of the rooms, the time and the settings. -/
structure Evolves (hub next : Hub π) : Prop where
  now : hub.now ≤ next.now
  config : next.config = hub.config
  cancelled : next.cancelled = hub.cancelled
  rooms {id : RoomId} {room : Room π} (hRoom : hub.rooms.get? id = some room) :
    ∃ after, next.rooms.get? id = some after ∧ room.Evolves after

theorem Evolves.refl (hub : Hub π) : hub.Evolves hub :=
  ⟨Nat.le_refl _, rfl, rfl, fun {_ room} hRoom => ⟨room, hRoom, .refl room⟩⟩

theorem Evolves.shifts (hFirst : hub.Evolves next) (hSecond : next.Shifts last) :
    hub.Evolves last where
  now := Nat.le_trans hFirst.now hSecond.now
  config := hSecond.config.trans hFirst.config
  cancelled := hSecond.cancelled.trans hFirst.cancelled
  rooms {id room} hRoom := by
    obtain ⟨middle, hMiddle, hEvolves⟩ := hFirst.rooms hRoom
    obtain ⟨after, hAfter, hChange⟩ := hSecond.rooms hMiddle
    exact ⟨after, hAfter, hEvolves.trans hChange.evolves⟩

namespace Traffic

variable {kind : FeedKind} {config : HubConfig} {moves early : List (Move π)} {id : RoomId}
  {generation : Nat}

theorem run_snoc (kind : FeedKind) (config : HubConfig) (moves : List (Move π)) (move : Move π) :
    run kind config (moves ++ [move]) = (run kind config moves).step move :=
  steps_append _ _ _

theorem run_shifts (kind : FeedKind) (config : HubConfig) (moves : List (Move π)) (move : Move π) :
    (run kind config moves).hub.Shifts (run kind config (moves ++ [move])).hub := by
  rw [run_snoc]
  exact shifts _ move

/-- By induction on the moves that come later. -/
theorem run_evolves (kind : FeedKind) (config : HubConfig) (hEarly : early <+: moves) :
    (run kind config early).hub.Evolves (run kind config moves).hub := by
  obtain ⟨late, rfl⟩ := hEarly
  induction late using List.reverseRecOn with
  | nil =>
    rw [List.append_nil]
    exact .refl _
  | append_singleton late move ih =>
    rw [← List.append_assoc]
    exact ih.shifts (run_shifts kind config _ move)

/-- The settings are those of the start, and nobody cancels the hub. -/
theorem config_run (kind : FeedKind) (config : HubConfig) (moves : List (Move π)) :
    (run kind config moves).hub.config = config ∧
      (run kind config moves).hub.cancelled = false := by
  have hEvolves := run_evolves kind config (List.nil_prefix : [] <+: moves)
  exact ⟨hEvolves.config, hEvolves.cancelled⟩

/-- A room has a member. -/
def Occupied (traffic : Traffic π) (id : RoomId) : Prop :=
  ∃ room, traffic.hub.rooms.get? id = some room ∧ room.members ≠ []

/-- A room that has lost the members that it had is in a new generation. -/
theorem generation_lt_of_occupied {room before : Room π} (hEarly : early <+: moves)
    (hBefore : (run kind config early).hub.rooms.get? id = some before)
    (hOccupied : before.members ≠ [])
    (hRoom : (run kind config moves).hub.rooms.get? id = some room) (hEmpty : room.members = []) :
    before.generation < room.generation := by
  obtain ⟨after, hAfter, hEvolves⟩ := (run_evolves kind config hEarly).rooms hBefore
  obtain rfl := Option.some.inj (hRoom.symm.trans hAfter)
  exact hEvolves.generation_lt hOccupied hEmpty

/-- A room that is not in its first generation has had a member. -/
theorem occupied_of_generation {room : Room π}
    (hRoom : (run kind config moves).hub.rooms.get? id = some room) (hLater : room.generation ≠ 0) :
    ∃ early, early <+: moves ∧ (run kind config early).Occupied id := by
  induction moves using List.reverseRecOn generalizing room with
  | nil => cases hRoom
  | append_singleton moves move ih =>
    have hShifts := run_shifts kind config moves move
    cases hBefore : (run kind config moves).hub.rooms.get? id with
    | none => exact absurd (hShifts.made hBefore hRoom).2 hLater
    | some before =>
      obtain ⟨after, hAfter, hChange⟩ := hShifts.rooms hBefore
      obtain rfl := Option.some.inj (hRoom.symm.trans hAfter)
      by_cases hFirst : before.generation = 0
      · by_cases hMembers : before.members = []
        · refine ⟨moves ++ [move], List.prefix_rfl, room, hRoom, ?_⟩
          intro hEmpty
          exact hLater ((hChange.generation_of_empty hMembers hEmpty).trans hFirst)
        · exact ⟨moves, List.prefix_append _ _, before, hBefore, hMembers⟩
      · obtain ⟨early, hEarly, hOccupied⟩ := ih hBefore hFirst
        exact ⟨early, hEarly.trans (List.prefix_append _ _), hOccupied⟩

end Traffic

end Hub

end MarketGateway
