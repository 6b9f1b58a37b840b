import MarketGateway.Proofs.Hub.Grace

/-!
# Rooms without members

A run is prompt if its operations take no time and its teardowns fire when they are due
(`Traffic.Prompt`). In such a run something takes care of every open room without members
(`Attended`): a subscription that will join it, or a teardown on its way, which is due a grace
period after the room was last occupied at the latest.

There is one exception. A room that loses its last member to a payload that did not come from its
feed is left to itself (`Forgotten`), although its feed, publishing the same payload, would have
scheduled a teardown. `forgotten_room_stays` is a run in which such a room is open long after.
-/

namespace MarketGateway.Hub.Traffic

variable {π : Type} {kind : FeedKind} {config : HubConfig} {moves early : List (Move π)}
  {move : Move π} {id : RoomId} {room : Room π}

/-- No time passes while an operation is under way, or beyond the time at which a teardown is
due. -/
def Prompt (kind : FeedKind) (config : HubConfig) (moves : List (Move π)) : Prop :=
  ∀ early time, early ++ [.wait time] <+: moves →
    (run kind config early).operations = [] ∧
    ∀ due id generation, ⟨due, .teardown id generation⟩ ∈ (run kind config early).hub.timers →
      (run kind config early).hub.now + time ≤ due

theorem Prompt.before (hPrompt : Prompt kind config (moves ++ [move])) :
    Prompt kind config moves :=
  fun early time hWait => hPrompt early time (hWait.trans (List.prefix_append _ _))

theorem prompt_of_not_mem (hNone : ∀ time, .wait time ∉ moves) : Prompt kind config moves :=
  fun _ time hWait => absurd (hWait.subset (List.mem_append_right _ (List.mem_singleton.mpr rfl)))
    (hNone time)

theorem Prompt.wait (hPrompt : Prompt kind config moves) {time : Duration}
    (hQuiet : (run kind config moves).operations = [])
    (hDue : ∀ due id generation, ⟨due, .teardown id generation⟩ ∈
      (run kind config moves).hub.timers → (run kind config moves).hub.now + time ≤ due) :
    Prompt kind config (moves ++ [.wait time]) := by
  intro early later hWait
  rcases List.prefix_concat_iff.mp hWait with hSame | hBefore
  · obtain ⟨rfl, hLast⟩ := List.append_inj' hSame rfl
    cases hLast
    exact ⟨hQuiet, hDue⟩
  · exact hPrompt early later hBefore

/-- Time passes only while nothing is under way. -/
theorem Prompt.now_busy (hPrompt : Prompt kind config (moves ++ [move])) {operation : Operation π}
    (hBusy : operation ∈ (run kind config moves).operations) :
    ((run kind config moves).step move).hub.now = (run kind config moves).hub.now := by
  refine now_step _ ?_
  rintro time rfl
  rw [(hPrompt moves time List.prefix_rfl).1] at hBusy
  cases hBusy

/-- No teardown of a prompt run is late. -/
theorem due_of_prompt (hPrompt : Prompt kind config moves) {due : Duration} {generation : Nat}
    (hTimer : ⟨due, .teardown id generation⟩ ∈ (run kind config moves).hub.timers) :
    (run kind config moves).hub.now ≤ due := by
  induction moves using List.reverseRecOn with
  | nil => cases hTimer
  | append_singleton moves move ih =>
    rw [run_snoc] at hTimer ⊢
    rcases of_mem_timers hTimer with hOld | ⟨_, hWake⟩ | ⟨_, _, hSchedule, hSame⟩
    · by_cases hWait : ∃ time, move = .wait time
      · obtain ⟨time, rfl⟩ := hWait
        exact (hPrompt moves time List.prefix_rfl).2 due id generation hOld
      · rw [now_step _ fun time hTime => hWait ⟨time, hTime⟩]
        exact ih hPrompt.before hOld
    · cases hWake
    · -- It was set in this step, for a time that has still to come.
      cases hSame
      rw [hPrompt.now_busy hSchedule]
      exact Nat.le_add_right _ _

/-- The room was occupied at this very time. -/
def JustOccupied (kind : FeedKind) (config : HubConfig) (moves : List (Move π)) (id : RoomId) :
    Prop :=
  ∃ early, early <+: moves ∧ (run kind config early).Occupied id ∧
    (run kind config early).hub.now = (run kind config moves).hub.now

/-- The room came into this generation when a payload that was sent to it, and not by its feed,
removed its last member. -/
def Forgotten (kind : FeedKind) (config : HubConfig) (moves : List (Move π)) (id : RoomId)
    (generation : Nat) : Prop :=
  ∃ early index payload, early ++ [.go index] <+: moves ∧
    (run kind config early).operations[index]? = some (.send id payload) ∧
    (run kind config early).Occupied id ∧
    ∃ room, (run kind config (early ++ [.go index])).hub.rooms.get? id = some room ∧
      room.members = [] ∧ room.generation = generation

/-- What takes care of an open room without members. -/
inductive Attended (kind : FeedKind) (config : HubConfig) (moves : List (Move π)) (id : RoomId)
    (room : Room π) : Prop
  /-- The room was made for a member that has still to join it. -/
  | awaited {key : RoomKey} {client : ClientId} {mailbox : MailboxId}
      (hOperation : .subscribe key client mailbox (.joining id) ∈
        (run kind config moves).operations)
  | read (hOperation : .read id ∈ (run kind config moves).operations)
      (hJust : JustOccupied kind config moves id)
  | scheduled (hOperation : .schedule id room.generation ∈ (run kind config moves).operations)
      (hJust : JustOccupied kind config moves id)
  | waiting {due : Duration}
      (hTimer : ⟨due, .teardown id room.generation⟩ ∈ (run kind config moves).hub.timers)
      (hDue : ∃ early, early <+: moves ∧ (run kind config early).Occupied id ∧
        due ≤ (run kind config early).hub.now + config.gracePeriod)
  | closing (hOperation : .teardown id room.generation ∈ (run kind config moves).operations)
  | forgotten (hForgotten : Forgotten kind config moves id room.generation)

theorem JustOccupied.snoc (hJust : JustOccupied kind config moves id)
    (hNow : ((run kind config moves).step move).hub.now = (run kind config moves).hub.now) :
    JustOccupied kind config (moves ++ [move]) id := by
  obtain ⟨early, hEarly, hOccupied, hSame⟩ := hJust
  refine ⟨early, hEarly.trans (List.prefix_append _ _), hOccupied, ?_⟩
  rw [run_snoc, hNow, hSame]

/-! ## Every move -/

/-- A room that a move makes will be joined by the subscription that asked for it. -/
theorem attended_of_made (hNone : (run kind config moves).hub.rooms.get? id = none)
    (hRoom : ((run kind config moves).step move).hub.rooms.get? id = some room) :
    Attended kind config (moves ++ [move]) id room := by
  by_cases hGo : ∃ index, move = .go index
  · obtain ⟨index, rfl⟩ := hGo
    cases hIndex : (run kind config moves).operations[index]? with
    | none =>
      rw [step, hIndex] at hRoom
      exact absurd (hNone.symm.trans hRoom) (by simp)
    | some operation =>
      obtain ⟨hHub, hRest⟩ := step_go hIndex
      rw [hHub] at hRoom
      obtain ⟨key, client, mailbox, hNext⟩ := Operation.step_makes hNone hRoom
      exact .awaited (run_snoc kind config moves _ ▸ hRest _ hNext)
  · have hStill := still_step (run kind config moves) (fun index hMove => hGo ⟨index, hMove⟩) id
    rw [hNone, hRoom] at hStill
    cases hStill

/-- What takes care of a room goes on doing so. -/
theorem Attended.snoc {before : Room π} (hAttended : Attended kind config moves id before)
    (hPrompt : Prompt kind config (moves ++ [move]))
    (hBefore : (run kind config moves).hub.rooms.get? id = some before)
    (hOpen : before.closed = false) (hEmpty : before.members = [])
    (hRoom : ((run kind config moves).step move).hub.rooms.get? id = some room)
    (hStillOpen : room.closed = false) (hStillEmpty : room.members = []) :
    Attended kind config (moves ++ [move]) id room := by
  have hSame : room.generation = before.generation := by
    obtain ⟨after, hAfter, hChange⟩ := ((run kind config moves).shifts move).rooms hBefore
    obtain rfl := Option.some.inj (hRoom.symm.trans hAfter)
    exact hChange.generation_of_empty hEmpty hStillEmpty
  cases hAttended with
  | awaited hOperation =>
    rcases mem_operations_step hOperation move with hStays | ⟨index, rfl, hIndex⟩
    · exact .awaited (run_snoc kind config moves move ▸ hStays)
    · rw [(step_go hIndex).1] at hRoom
      exact absurd hStillEmpty (occupied_of_joining hBefore hOpen hRoom)
  | read hOperation hJust =>
    have hNow := hPrompt.now_busy hOperation
    rcases mem_operations_step hOperation move with hStays | ⟨index, rfl, hIndex⟩
    · exact .read (run_snoc kind config moves move ▸ hStays) (hJust.snoc hNow)
    · obtain ⟨hHub, hRest⟩ := step_go hIndex
      refine .scheduled ?_ (hJust.snoc hNow)
      rw [run_snoc]
      refine hRest _ ?_
      rw [Operation.step, hBefore, hSame]
      rfl
  | scheduled hOperation hJust =>
    have hNow := hPrompt.now_busy hOperation
    rcases mem_operations_step hOperation move with hStays | ⟨index, rfl, hIndex⟩
    · exact .scheduled (run_snoc kind config moves move ▸ hSame ▸ hStays) (hJust.snoc hNow)
    · obtain ⟨early, hEarly, hOccupied, hNow⟩ := hJust
      refine .waiting ?_ ⟨early, hEarly.trans (List.prefix_append _ _), hOccupied, Nat.le_refl _⟩
      have hConfig := (config_run kind config moves).1
      rw [run_snoc, (step_go hIndex).1, hSame, hNow]
      exact List.mem_append_right _ (List.mem_singleton.mpr (by rw [hConfig]))
  | waiting hTimer hDue =>
    obtain ⟨early, hEarly, hOccupied, hLe⟩ := hDue
    rcases mem_teardowns_step hTimer move with hStays | hFired
    · exact .waiting (run_snoc kind config moves move ▸ hSame ▸ hStays)
        ⟨early, hEarly.trans (List.prefix_append _ _), hOccupied, hLe⟩
    · exact .closing (run_snoc kind config moves move ▸ hSame ▸ hFired)
  | closing hOperation =>
    rcases mem_operations_step hOperation move with hStays | ⟨index, rfl, hIndex⟩
    · exact .closing (run_snoc kind config moves move ▸ hSame ▸ hStays)
    · rw [(step_go hIndex).1] at hRoom
      rcases step_teardown_cases _ id before.generation with ⟨-, -, hCancelled | hBusy⟩ |
        ⟨_, after, hTouches, -, -, -, hClosed, -⟩
      · exact absurd ((config_run kind config moves).2.symm.trans hCancelled) (by decide)
      · exact absurd ⟨hOpen, hEmpty, rfl⟩ (hBusy before hBefore)
      · obtain rfl := Option.some.inj (hRoom.symm.trans hTouches.after)
        exact absurd (hStillOpen.symm.trans hClosed) (by decide)
  | forgotten hForgotten =>
    obtain ⟨early, index, payload, hEarly, hRest⟩ := hForgotten
    exact .forgotten (hSame ▸ ⟨early, index, payload, hEarly.trans (List.prefix_append _ _), hRest⟩)

/-- A room that has just lost its last member has a teardown on its way, or is forgotten. -/
theorem attended_of_emptied {before : Room π} (hPrompt : Prompt kind config (moves ++ [move]))
    (hBefore : (run kind config moves).hub.rooms.get? id = some before)
    (hSome : before.members ≠ [])
    (hRoom : ((run kind config moves).step move).hub.rooms.get? id = some room)
    (hEmpty : room.members = []) : Attended kind config (moves ++ [move]) id room := by
  have hEmpties : (run kind config moves).hub.Empties ((run kind config moves).step move).hub id :=
    ⟨before, room, hBefore, hRoom, hSome, fun hNot => hNot hEmpty⟩
  by_cases hGo : ∃ index, move = .go index
  · obtain ⟨index, rfl⟩ := hGo
    cases hIndex : (run kind config moves).operations[index]? with
    | none =>
      rw [step, hIndex] at hEmpties
      exact absurd hEmpties (not_loses_of_kept fun _ hKept => hKept)
    | some operation =>
      obtain ⟨hHub, hRest⟩ := step_go hIndex
      have hJust : JustOccupied kind config (moves ++ [.go index]) id := by
        refine ⟨moves, List.prefix_append _ _, ⟨before, hBefore, hSome⟩, ?_⟩
        rw [run_snoc, hPrompt.now_busy (List.mem_of_getElem? hIndex)]
      rw [hHub] at hEmpties hRoom
      rcases Operation.step_empties hEmpties with ⟨client, rfl⟩ | ⟨payload, rfl⟩ | ⟨payload, rfl⟩
      · rcases step_leave_cases _ id client with ⟨-, hNot⟩ | ⟨_, after, hTouches, -, -, hNext⟩
        · exact absurd hEmpties (hNot id)
        · obtain rfl := Option.some.inj (hRoom.symm.trans hTouches.after)
          exact .scheduled (run_snoc kind config moves _ ▸ hRest _ hNext) hJust
      · rcases step_publish_cases _ id payload with ⟨-, hNot⟩ | ⟨_, _, -, -, -, hNext⟩
        · exact absurd hEmpties (hNot id)
        · exact .read (run_snoc kind config moves _ ▸ hRest _ hNext) hJust
      · -- The answer says that the room is empty now, but nobody reads it.
        refine .forgotten ⟨moves, index, payload, List.prefix_rfl, hIndex,
          ⟨before, hBefore, hSome⟩, room, ?_, hEmpty, rfl⟩
        rw [run_snoc, hHub]
        exact hRoom
  · have hStill := still_step (run kind config moves) (fun index hMove => hGo ⟨index, hMove⟩) id
    exact absurd (hEmpties.of_still Room.members_of_still hStill) ((Spares.refl _).not_loses id)

/-- By induction on the moves: a room is made, stays empty or has just lost its last member. -/
theorem attended (hPrompt : Prompt kind config moves)
    (hRoom : (run kind config moves).hub.rooms.get? id = some room) (hOpen : room.closed = false)
    (hEmpty : room.members = []) : Attended kind config moves id room := by
  induction moves using List.reverseRecOn generalizing room with
  | nil => cases hRoom
  | append_singleton moves move ih =>
    rw [run_snoc] at hRoom
    cases hBefore : (run kind config moves).hub.rooms.get? id with
    | none => exact attended_of_made hBefore hRoom
    | some before =>
      obtain ⟨after, hAfter, hChange⟩ := ((run kind config moves).shifts move).rooms hBefore
      obtain rfl := Option.some.inj (hRoom.symm.trans hAfter)
      have hBeforeOpen := hChange.evolves.was_open hOpen
      by_cases hMembers : before.members = []
      · exact (ih hPrompt.before hBefore hBeforeOpen hMembers).snoc hPrompt hBefore hBeforeOpen
          hMembers hRoom hOpen hEmpty
      · exact attended_of_emptied hPrompt hBefore hMembers hRoom hEmpty

/-- **No room is left behind but by a payload from outside.** After a prompt run with nothing under
way, a teardown waits for every open room without members. It bears the generation of the room, is
not late, and is due a grace period after the room was last occupied at the latest. Only a room that
lost its last member to a payload that its feed did not publish may lack one. -/
theorem vacant_room_torn_down_or_forgotten (hPrompt : Prompt kind config moves)
    (hQuiet : (run kind config moves).operations = [])
    (hRoom : (run kind config moves).hub.rooms.get? id = some room) (hOpen : room.closed = false)
    (hEmpty : room.members = []) :
    (∃ due, ⟨due, .teardown id room.generation⟩ ∈ (run kind config moves).hub.timers ∧
      (run kind config moves).hub.now ≤ due ∧
      ∃ early, early <+: moves ∧ (run kind config early).Occupied id ∧
        due ≤ (run kind config early).hub.now + config.gracePeriod) ∨
    Forgotten kind config moves id room.generation := by
  have hNothing {operation : Operation π} : operation ∉ (run kind config moves).operations := by
    rw [hQuiet]
    exact List.not_mem_nil
  cases attended hPrompt hRoom hOpen hEmpty with
  | awaited hOperation => exact absurd hOperation hNothing
  | read hOperation => exact absurd hOperation hNothing
  | scheduled hOperation => exact absurd hOperation hNothing
  | closing hOperation => exact absurd hOperation hNothing
  | waiting hTimer hDue => exact .inl ⟨_, hTimer, due_of_prompt hPrompt hTimer, hDue⟩
  | forgotten hForgotten => exact .inr hForgotten

/-! ## A payload from outside -/

/-- A client joins and leaves, and stays away. -/
def visitMoves : List (Move Nat) :=
  [.request (.subscribe priceRoom 1 0), .go 0, .go 0,
    .request (.unsubscribe priceRoom 1), .go 0, .go 0, .go 0]

/-- The teardown of the room that was left is due after six more units of time. -/
theorem vacant_room_torn_down_of_visit :
    ∃ room, (run .markPrice quickGrace (visitMoves ++ [.wait 4])).hub.rooms.get? 0 = some room ∧
      room.closed = false ∧ room.members = [] ∧
      ((∃ due, ⟨due, .teardown 0 room.generation⟩ ∈
          (run .markPrice quickGrace (visitMoves ++ [.wait 4])).hub.timers ∧
        (run .markPrice quickGrace (visitMoves ++ [.wait 4])).hub.now ≤ due ∧
        ∃ early, early <+: visitMoves ++ [.wait 4] ∧
          (run .markPrice quickGrace early).Occupied 0 ∧
          due ≤ (run .markPrice quickGrace early).hub.now + quickGrace.gracePeriod) ∨
      Forgotten .markPrice quickGrace (visitMoves ++ [.wait 4]) 0 room.generation) := by
  have hRoom : (run .markPrice quickGrace (visitMoves ++ [.wait 4])).hub.rooms.get? 0 =
      some { key := priceRoom, running := true, generation := 2 } := by decide +kernel
  have hPrompt : Prompt .markPrice quickGrace (visitMoves ++ [.wait 4]) := by
    refine (prompt_of_not_mem (by simp [visitMoves])).wait (by decide +kernel) ?_
    have hTimers : (run .markPrice quickGrace visitMoves).hub.timers = [⟨10, .teardown 0 2⟩] := by
      decide +kernel
    have hNow : (run .markPrice quickGrace visitMoves).hub.now = 0 := by decide +kernel
    rw [hTimers, hNow]
    intro due id generation hTimer
    cases List.mem_singleton.mp hTimer
    decide
  exact ⟨_, hRoom, rfl, rfl,
    vacant_room_torn_down_or_forgotten hPrompt (by decide +kernel) hRoom rfl rfl⟩

/-- A client joins and drops its mailbox, and a payload is sent to its room. -/
def dropMoves : List (Move Nat) :=
  [.mailboxes [(0, { capacity := 1 })], .request (.subscribe priceRoom 1 0), .go 0, .go 0,
    .mailboxes [(0, { capacity := 1, closed := true })],
    .request (.broadcast priceRoom 5), .go 0, .go 0]

/-- A hundred grace periods later the room is still registered and open, without members but with a
feed, and nothing that could close it is on its way. -/
theorem forgotten_room_stays :
    Prompt .markPrice quickGrace (dropMoves ++ [.wait 1000]) ∧
    let traffic := run .markPrice quickGrace (dropMoves ++ [.wait 1000])
    traffic.operations = [] ∧ traffic.hub.timers = [] ∧ traffic.hub.now = 1000 ∧
    traffic.hub.rooms.find? priceRoom = some 0 ∧
    traffic.hub.rooms.get? 0 =
      some { key := priceRoom, running := true, generation := 2, last := some 5 } := by
  refine ⟨?_, by decide +kernel⟩
  refine (prompt_of_not_mem (by simp [dropMoves])).wait (by decide +kernel) ?_
  have hTimers : (run .markPrice quickGrace dropMoves).hub.timers = [] := by decide +kernel
  simp [hTimers]

end MarketGateway.Hub.Traffic
