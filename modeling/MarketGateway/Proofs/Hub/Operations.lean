import MarketGateway.Proofs.Hub.Traffic

/-!
# What the step of an operation does

`Operation.alters` says for the steps of all operations what they leave alone. A room loses its last
member only by the steps of three operations, two of which go on to schedule a teardown
(`Operation.step_empties`), and only a teardown closes a room (`Operation.step_closes`). Rooms are
made by subscriptions that go on to join them (`Operation.step_makes`).
-/

namespace MarketGateway

variable {π : Type}

namespace Hub

variable {hub next last : Hub π}

/-! ## Steps of operations -/

theorem alters_joinRoom (hub : Hub π) (room : RoomId) (client : ClientId) (mailbox : MailboxId) :
    hub.Alters (hub.joinRoom room client mailbox).2 := by
  rcases hub.joinRoom_spec room client mailbox with ⟨-, hSpares, -⟩ |
    ⟨_, _, _, -, hTouches, -⟩
  · exact hSpares.alters
  · exact hTouches.alters

theorem alters_broadcastTo (hub : Hub π) (room : RoomId) (payload : π) :
    hub.Alters (hub.broadcastTo room payload).2 := by
  rcases hub.broadcastTo_spec room payload with ⟨-, hSpares⟩ | ⟨_, _, hTouches, -⟩
  · exact hSpares.alters
  · exact hTouches.alters

theorem alters_subscribing (hub : Hub π) (key : RoomKey) (client : ClientId) (mailbox : MailboxId)
    (progress : Subscribing) : hub.Alters (progress.step key client mailbox hub).2 := by
  cases progress with
  | looking =>
    rw [Subscribing.step]
    split
    · exact .refl hub
    · exact (hub.getOrMake_spec key).1
  | joining room =>
    rw [Subscribing.step]
    have hJoin := hub.alters_joinRoom room client mailbox
    generalize hub.joinRoom room client mailbox = result at hJoin
    obtain ⟨_ | start, next⟩ := result
    · exact hJoin
    · dsimp only
      split
      · exact hJoin.then_undisturbed (undisturbed_startFeed _ _)
      · exact hJoin
  | discarding room => exact (hub.spares_removeIfSame room).alters
  | done outcome => exact .refl hub

theorem step_subscribe (hub : Hub π) (key : RoomKey) (client : ClientId) (mailbox : MailboxId)
    (progress : Subscribing) :
    (Operation.step (.subscribe key client mailbox progress) hub).2 =
      (progress.step key client mailbox hub).2 := by
  rw [Operation.step]
  split <;> next hStep => rw [hStep]

theorem step_leave (hub : Hub π) (room : RoomId) (client : ClientId) :
    (Operation.step (.leave room client) hub).2 = (hub.leaveRoom room client).2 := by
  rw [Operation.step]
  split <;> next hStep => rw [hStep]

theorem step_publish (hub : Hub π) (room : RoomId) (payload : π) :
    (Operation.step (.publish room payload) hub).2 =
      (broadcastTo { hub with state := hub.state.message } room payload).2 :=
  rfl

/-- Every step but the one that sets the timer of a teardown. -/
theorem Operation.alters (operation : Operation π) (hub : Hub π)
    (hOther : ∀ room generation, operation ≠ schedule room generation) :
    hub.Alters (operation.step hub).2 := by
  cases operation with
  | subscribe key client mailbox progress =>
    rw [step_subscribe]
    exact hub.alters_subscribing key client mailbox progress
  | unsubscribe => exact .refl hub
  | leave room client =>
    rw [step_leave]
    rcases hub.leaveRoom_spec room client with ⟨-, hSpares⟩ | ⟨_, _, hTouches, -⟩
    · exact hSpares.alters
    · exact hTouches.alters
  | broadcast => exact .refl hub
  | send room payload => exact hub.alters_broadcastTo room payload
  | publish room payload =>
    obtain ⟨⟨hNow, hConfig, hCancelled, hRooms, hMade⟩, hTime, hTimers⟩ :=
      alters_broadcastTo { hub with state := hub.state.message } room payload
    exact ⟨⟨hNow, hConfig, hCancelled, hRooms, hMade⟩, hTime, hTimers⟩
  | read => exact .refl hub
  | schedule room generation => exact absurd rfl (hOther room generation)
  | teardown room generation =>
    rw [step]
    split
    · exact .refl hub
    · have hClose := hub.closeIfIdle_spec room generation
      generalize hub.closeIfIdle room generation = result at hClose
      obtain ⟨closed, next⟩ := result
      have hAlters : hub.Alters next := by
        rcases hClose with ⟨-, hSpares, -⟩ | ⟨-, _, _, hTouches, -⟩
        · exact hSpares.alters
        · exact hTouches.alters
      cases closed <;> exact hAlters
  | remove room =>
    exact (hub.spares_removeIfSame room).alters.then_undisturbed (undisturbed_release _)

theorem Operation.shifts (operation : Operation π) (hub : Hub π) :
    hub.Shifts (operation.step hub).2 := by
  cases operation with
  | schedule room generation => exact shifts_of_rooms (Nat.le_refl _) rfl rfl fun _ => rfl
  | _ => exact (Operation.alters _ hub (by rintro _ _ ⟨⟩)).toShifts

/-! ## What a room loses -/

/-- A room has lost a property. -/
def Loses (p : Room π → Prop) (hub next : Hub π) (id : RoomId) : Prop :=
  ∃ before after, hub.rooms.get? id = some before ∧ next.rooms.get? id = some after ∧
    p before ∧ ¬ p after

/-- A room has lost its last member. -/
abbrev Empties (hub next : Hub π) (id : RoomId) : Prop :=
  Loses (fun room => room.members ≠ []) hub next id

/-- A room was closed. -/
abbrev Closes (hub next : Hub π) (id : RoomId) : Prop :=
  Loses (fun room => room.closed = false) hub next id

variable {p : Room π → Prop} {id other : RoomId} {before after : Room π}

theorem not_loses_of_kept
    (hKept : ∀ room, hub.rooms.get? id = some room → next.rooms.get? id = some room) :
    ¬ Loses p hub next id := by
  rintro ⟨before, after, hBefore, hAfter, hSome, hNone⟩
  obtain rfl := Option.some.inj (hAfter.symm.trans (hKept before hBefore))
  exact hNone hSome

theorem Spares.not_loses (hSpares : hub.Spares next) (id : RoomId) : ¬ Loses p hub next id :=
  not_loses_of_kept fun _ hRoom => (hSpares.rooms id).trans hRoom

theorem Touches.of_loses (hTouches : hub.Touches next id before after)
    (hLoses : Loses p hub next other) : other = id ∧ p before ∧ ¬ p after := by
  by_cases hOther : other = id
  · obtain ⟨first, last, hFirst, hLast, hSome, hNone⟩ := hLoses
    subst hOther
    obtain rfl := Option.some.inj (hTouches.before.symm.trans hFirst)
    obtain rfl := Option.some.inj (hTouches.after.symm.trans hLast)
    exact ⟨rfl, hSome, hNone⟩
  · refine absurd hLoses (not_loses_of_kept fun _ hRoom => ?_)
    exact (hTouches.others other hOther).trans hRoom

theorem Touches.of_empties (hTouches : hub.Touches next id before after)
    (hEmpties : hub.Empties next other) :
    other = id ∧ before.members ≠ [] ∧ after.members = [] := by
  obtain ⟨hSame, hSome, hNone⟩ := hTouches.of_loses hEmpties
  exact ⟨hSame, hSome, Classical.not_not.mp hNone⟩

theorem Touches.change (hTouches : hub.Touches next id before after) : before.Change after := by
  obtain ⟨room, hRoom, hChange⟩ := hTouches.alters.rooms hTouches.before
  obtain rfl := Option.some.inj (hTouches.after.symm.trans hRoom)
  exact hChange

/-- A step that finds or leaves a member in a room does not close it. -/
theorem Touches.not_closes (hTouches : hub.Touches next id before after)
    (hSome : before.members ≠ [] ∨ after.members ≠ []) (other : RoomId) :
    ¬ hub.Closes next other := by
  intro hCloses
  obtain ⟨-, hOpen, hClosed⟩ := hTouches.of_loses hCloses
  obtain ⟨hBefore, hAfter⟩ :=
    hTouches.change.empty_of_closed hOpen (by simpa using hClosed)
  exact hSome.elim (fun hNot => hNot hBefore) fun hNot => hNot hAfter

/-- Feeds lose nothing for a room that does not depend on them. -/
theorem Loses.of_still (hLoses : Loses p hub last id)
    (hStill : ∀ {room other : Room π}, room.still = other.still → (p room ↔ p other))
    (hRooms : (last.rooms.get? id).map Room.still = (next.rooms.get? id).map Room.still) :
    Loses p hub next id := by
  obtain ⟨before, after, hBefore, hAfter, hSome, hNone⟩ := hLoses
  rw [hAfter, Option.map_some, eq_comm, Option.map_eq_some_iff] at hRooms
  obtain ⟨middle, hMiddle, hEq⟩ := hRooms
  exact ⟨before, middle, hBefore, hMiddle, hSome, fun hHas => hNone ((hStill hEq).mp hHas)⟩

/-! ## Rooms that lose their last member -/

/-- The room that is left schedules its teardown for its new generation if it is empty. -/
theorem step_leave_cases (hub : Hub π) (room : RoomId) (client : ClientId) :
    ((Operation.step (.leave room client) hub).1 = none ∧
      ∀ id, ¬ hub.Empties (Operation.step (.leave room client) hub).2 id) ∨
    ∃ before after, hub.Touches (Operation.step (.leave room client) hub).2 room before after ∧
      before.members ≠ [] ∧ after.members = [] ∧
      (Operation.step (.leave room client) hub).1 = some (.schedule room after.generation) := by
  have hSpec := hub.leaveRoom_spec room client
  rw [Operation.step]
  generalize hub.leaveRoom room client = result at hSpec
  obtain ⟨left, next⟩ := result
  rcases hSpec with ⟨hLeft, hSpares⟩ |
    ⟨before, after, hTouches, ⟨rfl, hOthers⟩ | ⟨rfl, hBefore, hAfter⟩⟩
  · cases hLeft
    exact .inl ⟨rfl, hSpares.not_loses⟩
  · exact .inl ⟨rfl, fun id hEmpties => hOthers (hTouches.of_empties hEmpties).2.2⟩
  · exact .inr ⟨before, after, hTouches, hBefore, hAfter, rfl⟩

/-- A feed that publishes goes on to read the generation of its room if the room is empty then. -/
theorem step_publish_cases (hub : Hub π) (room : RoomId) (payload : π) :
    ((Operation.step (.publish room payload) hub).1 = none ∧
      ∀ id, ¬ hub.Empties (Operation.step (.publish room payload) hub).2 id) ∨
    ∃ before after, hub.Touches (Operation.step (.publish room payload) hub).2 room before after ∧
      before.members ≠ [] ∧ after.members = [] ∧
      (Operation.step (.publish room payload) hub).1 = some (.read room) := by
  have hSpec := broadcastTo_spec { hub with state := hub.state.message } room payload
  have hAlters := Operation.alters (.publish room payload) hub (by rintro _ _ ⟨⟩)
  rw [step_publish] at hAlters ⊢
  rw [Operation.step]
  generalize broadcastTo { hub with state := hub.state.message } room payload = result
    at hSpec hAlters ⊢
  obtain ⟨stats, next⟩ := result
  dsimp only at hSpec hAlters ⊢
  rcases hSpec with ⟨hEmptied, -, hRooms⟩ |
    ⟨before, after, ⟨-, hBefore, hAfter, hOthers⟩, -, hEmptied⟩
  · refine .inl ⟨by simp [hEmptied], ?_⟩
    exact Spares.not_loses ⟨hAlters, hRooms⟩
  · have hTouches : hub.Touches next room before after := ⟨hAlters, hBefore, hAfter, hOthers⟩
    cases hStats : stats.emptied with
    | true =>
      obtain ⟨hSome, hNone⟩ := hEmptied.mp hStats
      exact .inr ⟨before, after, hTouches, hSome, hNone, rfl⟩
    | false =>
      refine .inl ⟨rfl, fun id hEmpties => ?_⟩
      simp [hEmptied.mpr (hTouches.of_empties hEmpties).2] at hStats

/-- A teardown closes its room if that is open, empty and in the given generation. -/
theorem step_teardown_cases (hub : Hub π) (room : RoomId) (generation : Nat) :
    ((Operation.step (.teardown room generation) hub).1 = none ∧
      hub.Spares (Operation.step (.teardown room generation) hub).2 ∧
      (hub.cancelled = true ∨ ∀ r, hub.rooms.get? room = some r →
        ¬ (r.closed = false ∧ r.members = [] ∧ r.generation = generation))) ∨
    ∃ before after,
      hub.Touches (Operation.step (.teardown room generation) hub).2 room before after ∧
      before.closed = false ∧ before.members = [] ∧ before.generation = generation ∧
      after.closed = true ∧ after.members = [] ∧
      (Operation.step (.teardown room generation) hub).1 = some (.remove room) := by
  have hClose := hub.closeIfIdle_spec room generation
  rw [Operation.step]
  split
  · next hStops =>
    refine .inl ⟨rfl, .refl hub, ?_⟩
    rcases Bool.or_eq_true_iff.mp hStops with hCancelled | hClosed
    · exact .inl hCancelled
    · refine .inr ?_
      rintro r hRoom ⟨hOpen, -⟩
      simp [Rooms.isClosed, hRoom, hOpen] at hClosed
  · generalize hub.closeIfIdle room generation = result at hClose
    obtain ⟨closed, next⟩ := result
    rcases hClose with ⟨rfl, hSpares, hBusy⟩ |
      ⟨rfl, before, after, hTouches, hOpen, hEmpty, hGeneration, hClosed, hStill⟩
    · exact .inl ⟨rfl, hSpares, .inr hBusy⟩
    · exact .inr ⟨before, after, hTouches, hOpen, hEmpty, hGeneration, hClosed, hStill, rfl⟩

/-- Nothing that members who join leave alone is lost in a subscription. -/
theorem not_loses_subscribing
    (hStill : ∀ {room other : Room π}, room.still = other.still → (p room ↔ p other))
    (hJoin : ∀ {before after : Room π}, before.Change after → after.members ≠ [] →
      p before → p after)
    (hub : Hub π) (key : RoomKey) (client : ClientId) (mailbox : MailboxId)
    (progress : Subscribing) (id : RoomId) :
    ¬ Loses p hub (progress.step key client mailbox hub).2 id := by
  cases progress with
  | looking =>
    rw [Subscribing.step]
    split
    · exact (Spares.refl hub).not_loses id
    · exact not_loses_of_kept fun room => (hub.getOrMake_spec key).2.1 id room
  | joining room =>
    rw [Subscribing.step]
    have hSpec := hub.joinRoom_spec room client mailbox
    generalize hub.joinRoom room client mailbox = result at hSpec
    obtain ⟨answer, next⟩ := result
    rcases hSpec with ⟨rfl, hSpares, -⟩ | ⟨start, before, after, rfl, hTouches, hSome⟩
    · exact hSpares.not_loses id
    · have hNot : ¬ Loses p hub next id := by
        intro hLoses
        obtain ⟨-, hBefore, hAfter⟩ := hTouches.of_loses hLoses
        exact hAfter (hJoin hTouches.change hSome hBefore)
      dsimp only
      split
      · intro hLoses
        exact hNot (hLoses.of_still hStill ((undisturbed_startFeed next room).rooms id))
      · exact hNot
  | discarding room => exact (hub.spares_removeIfSame room).not_loses id
  | done outcome => exact (Spares.refl hub).not_loses id

theorem not_closes_broadcastTo (hub : Hub π) (room : RoomId) (payload : π) (id : RoomId) :
    ¬ hub.Closes (hub.broadcastTo room payload).2 id := by
  rcases hub.broadcastTo_spec room payload with ⟨-, hSpares⟩ |
    ⟨before, after, hTouches, hSame, -⟩
  · exact hSpares.not_loses id
  · intro hCloses
    obtain ⟨-, hOpen, hClosed⟩ := hTouches.of_loses hCloses
    exact hClosed (hSame.trans hOpen)

/-- A room loses its last member when that one leaves, when its feed publishes, or when somebody
else sends a payload. -/
theorem Operation.step_empties {operation : Operation π} {id : RoomId}
    (hEmpties : hub.Empties (operation.step hub).2 id) :
    (∃ client, operation = .leave id client) ∨ (∃ payload, operation = .publish id payload) ∨
      ∃ payload, operation = .send id payload := by
  cases operation with
  | subscribe key client mailbox progress =>
    rw [step_subscribe] at hEmpties
    exact absurd hEmpties (not_loses_subscribing Room.members_of_still (fun _ hSome _ => hSome)
      hub key client mailbox progress id)
  | unsubscribe | broadcast | read | schedule =>
    exact absurd hEmpties (not_loses_of_kept fun _ hRoom => hRoom)
  | leave room client =>
    rcases hub.step_leave_cases room client with ⟨-, hNot⟩ | ⟨_, _, hTouches, -⟩
    · exact absurd hEmpties (hNot id)
    · exact .inl ⟨client, by rw [(hTouches.of_empties hEmpties).1]⟩
  | send room payload =>
    rcases hub.broadcastTo_spec room payload with ⟨-, hSpares⟩ | ⟨_, _, hTouches, -⟩
    · exact absurd hEmpties (hSpares.not_loses id)
    · exact .inr (.inr ⟨payload, by rw [(hTouches.of_empties hEmpties).1]⟩)
  | publish room payload =>
    rcases hub.step_publish_cases room payload with ⟨-, hNot⟩ | ⟨_, _, hTouches, -⟩
    · exact absurd hEmpties (hNot id)
    · exact .inr (.inl ⟨payload, by rw [(hTouches.of_empties hEmpties).1]⟩)
  | teardown room generation =>
    rcases hub.step_teardown_cases room generation with ⟨-, hSpares, -⟩ |
      ⟨_, _, hTouches, -, hEmpty, -⟩
    · exact absurd hEmpties (hSpares.not_loses id)
    · exact absurd hEmpty (hTouches.of_empties hEmpties).2.1
  | remove room =>
    exact absurd (hEmpties.of_still Room.members_of_still ((undisturbed_release _).rooms id))
      ((hub.spares_removeIfSame room).not_loses id)

/-- Only a teardown closes a room, and only while it is empty and in the generation that the
teardown bears. -/
theorem Operation.step_closes {operation : Operation π} {id : RoomId}
    (hCloses : hub.Closes (operation.step hub).2 id) :
    ∃ room, hub.rooms.get? id = some room ∧ room.members = [] ∧
      operation = .teardown id room.generation := by
  cases operation with
  | subscribe key client mailbox progress =>
    rw [step_subscribe] at hCloses
    refine absurd hCloses (not_loses_subscribing Room.closed_of_still ?_
      hub key client mailbox progress id)
    intro before after hChange hSome hOpen
    by_contra hClosed
    exact hSome (hChange.empty_of_closed hOpen (by simpa using hClosed)).2
  | unsubscribe | broadcast | read | schedule =>
    exact absurd hCloses (not_loses_of_kept fun _ hRoom => hRoom)
  | leave room client =>
    rw [step_leave] at hCloses
    rcases hub.leaveRoom_spec room client with ⟨-, hSpares⟩ |
      ⟨_, _, hTouches, ⟨-, hOthers⟩ | ⟨-, hBefore, -⟩⟩
    · exact absurd hCloses (hSpares.not_loses id)
    · exact absurd hCloses (hTouches.not_closes (.inr hOthers) id)
    · exact absurd hCloses (hTouches.not_closes (.inl hBefore) id)
  | send room payload =>
    exact absurd hCloses (hub.not_closes_broadcastTo room payload id)
  | publish room payload =>
    exact absurd hCloses
      (not_closes_broadcastTo { hub with state := hub.state.message } room payload id)
  | teardown room generation =>
    rcases hub.step_teardown_cases room generation with ⟨-, hSpares, -⟩ |
      ⟨before, after, hTouches, -, hEmpty, rfl, -⟩
    · exact absurd hCloses (hSpares.not_loses id)
    · obtain rfl := (hTouches.of_loses hCloses).1
      exact ⟨before, hTouches.before, hEmpty, rfl⟩
  | remove room =>
    exact absurd (hCloses.of_still Room.closed_of_still ((undisturbed_release _).rooms id))
      ((hub.spares_removeIfSame room).not_loses id)

/-! ## Rooms that are made -/

theorem Spares.none (hSpares : hub.Spares next) (hNone : hub.rooms.get? id = none) :
    next.rooms.get? id = none :=
  (hSpares.rooms id).trans hNone

theorem Touches.none (hTouches : hub.Touches next other before after)
    (hNone : hub.rooms.get? id = none) : next.rooms.get? id = none := by
  by_cases hSame : id = other
  · exact absurd (hNone.symm.trans (hSame ▸ hTouches.before)) (by simp)
  · exact (hTouches.others id hSame).trans hNone

theorem Undisturbed.none (hSame : hub.Undisturbed next) (hNone : hub.rooms.get? id = none) :
    next.rooms.get? id = none := by
  have hStill := hSame.rooms id
  rwa [hNone, Option.map_none, Option.map_eq_none_iff] at hStill

theorem none_broadcastTo (hub : Hub π) (room : RoomId) (payload : π)
    (hNone : hub.rooms.get? id = none) :
    (hub.broadcastTo room payload).2.rooms.get? id = none := by
  rcases hub.broadcastTo_spec room payload with ⟨-, hSpares⟩ | ⟨_, _, hTouches, -⟩
  · exact hSpares.none hNone
  · exact hTouches.none hNone

/-- A room is made by a subscription that goes on to join it. -/
theorem Operation.step_makes {operation : Operation π} {room : Room π}
    (hNone : hub.rooms.get? id = none)
    (hRoom : (operation.step hub).2.rooms.get? id = some room) :
    ∃ key client mailbox,
      (operation.step hub).1 = some (.subscribe key client mailbox (.joining id)) := by
  have hNot {next : Hub π} (hNext : next.rooms.get? id = none) :
      next.rooms.get? id ≠ some room := by
    rw [hNext]
    simp
  cases operation with
  | subscribe key client mailbox progress =>
    cases progress with
    | looking =>
      rw [step, Subscribing.step] at hRoom ⊢
      cases hRuns : hub.cancelled with
      | true =>
        simp only [hRuns, if_true] at hRoom
        exact absurd hRoom (hNot hNone)
      | false =>
        simp only [hRuns, Bool.false_eq_true, if_false] at hRoom ⊢
        obtain ⟨-, -, hMade⟩ := hub.getOrMake_spec key
        generalize hub.getOrMake key = result at hRoom hMade ⊢
        obtain ⟨found, next⟩ := result
        obtain rfl := hMade id room hNone hRoom
        exact ⟨key, client, mailbox, rfl⟩
    | joining other =>
      rw [step_subscribe, Subscribing.step] at hRoom
      have hSpec := hub.joinRoom_spec other client mailbox
      generalize hub.joinRoom other client mailbox = result at hSpec hRoom
      obtain ⟨answer, next⟩ := result
      rcases hSpec with ⟨rfl, hSpares, -⟩ | ⟨start, _, _, rfl, hTouches, -⟩
      · exact absurd hRoom (hNot (hSpares.none hNone))
      · dsimp only at hRoom
        split at hRoom
        · exact absurd hRoom (hNot ((undisturbed_startFeed next other).none (hTouches.none hNone)))
        · exact absurd hRoom (hNot (hTouches.none hNone))
    | discarding other => exact absurd hRoom (hNot ((hub.spares_removeIfSame other).none hNone))
    | done outcome => exact absurd hRoom (hNot hNone)
  | unsubscribe | broadcast | read | schedule => exact absurd hRoom (hNot hNone)
  | leave other client =>
    rw [step_leave] at hRoom
    rcases hub.leaveRoom_spec other client with ⟨-, hSpares⟩ | ⟨_, _, hTouches, -⟩
    · exact absurd hRoom (hNot (hSpares.none hNone))
    · exact absurd hRoom (hNot (hTouches.none hNone))
  | send other payload => exact absurd hRoom (hNot (none_broadcastTo hub other payload hNone))
  | publish other payload =>
    exact absurd hRoom (hNot
      (none_broadcastTo { hub with state := hub.state.message } other payload hNone))
  | teardown other generation =>
    rcases hub.step_teardown_cases other generation with ⟨-, hSpares, -⟩ | ⟨_, _, hTouches, -⟩
    · exact absurd hRoom (hNot (hSpares.none hNone))
    · exact absurd hRoom (hNot (hTouches.none hNone))
  | remove other =>
    exact absurd hRoom (hNot
      ((undisturbed_release _).none ((hub.spares_removeIfSame other).none hNone)))

/-- A member that joins an open room is in it. -/
theorem occupied_of_joining {key : RoomKey} {client : ClientId} {mailbox : MailboxId}
    (hBefore : hub.rooms.get? id = some before) (hOpen : before.closed = false)
    (hAfter : (Operation.step (.subscribe key client mailbox (.joining id)) hub).2.rooms.get? id =
      some after) : after.members ≠ [] := by
  rw [step_subscribe, Subscribing.step] at hAfter
  have hSpec := hub.joinRoom_spec id client mailbox
  generalize hub.joinRoom id client mailbox = result at hSpec hAfter
  obtain ⟨answer, next⟩ := result
  rcases hSpec with ⟨-, -, hClosed⟩ | ⟨start, _, joined, rfl, hTouches, hSome⟩
  · exact absurd (hOpen.symm.trans (hClosed before hBefore)) (by decide)
  · dsimp only at hAfter
    split at hAfter
    · have hStill := (undisturbed_startFeed next id).rooms id
      rw [hAfter, hTouches.after] at hStill
      exact (Room.members_of_still (Option.some.inj hStill)).mpr hSome
    · obtain rfl := Option.some.inj (hAfter.symm.trans hTouches.after)
      exact hSome

/-! ## What is still to be done -/

theorem Touches.generation_ne_zero {id : RoomId} {before after : Room π}
    (hTouches : hub.Touches next id before after) (hSome : before.members ≠ [])
    (hNone : after.members = []) : after.generation ≠ 0 :=
  Nat.ne_zero_of_lt (hTouches.change.evolves.generation_lt hSome hNone)

/-- How an operation can go on, with the hub after its step. No step makes a teardown: that is done
by a timer. -/
inductive Operation.Follows (hub : Hub π) (operation : Operation π) : Operation π → Prop
  | subscribe {key : RoomKey} {client : ClientId} {mailbox : MailboxId} {progress : Subscribing} :
      Follows hub operation (.subscribe key client mailbox progress)
  | leave {room : RoomId} {client : ClientId} : Follows hub operation (.leave room client)
  | send {room : RoomId} {payload : π} : Follows hub operation (.send room payload)
  | read {id : RoomId} {room : Room π} (hRoom : hub.rooms.get? id = some room)
      (hLater : room.generation ≠ 0) : Follows hub operation (.read id)
  /-- The teardown is for the generation that the room is in. -/
  | schedule {id : RoomId} {room : Room π} (hRoom : hub.rooms.get? id = some room)
      (hLater : operation = .read id ∨ room.generation ≠ 0) :
      Follows hub operation (.schedule id room.generation)
  | remove {room : RoomId} : Follows hub operation (.remove room)

theorem Operation.follows {operation rest : Operation π}
    (hRest : (operation.step hub).1 = some rest) :
    Follows (operation.step hub).2 operation rest := by
  cases operation with
  | subscribe key client mailbox progress =>
    rw [step] at hRest
    split at hRest
    · cases hRest
    · cases hRest
      exact .subscribe
  | unsubscribe | broadcast =>
    obtain ⟨_, -, rfl⟩ := Option.map_eq_some_iff.mp hRest
    constructor
  | leave room client =>
    rcases hub.step_leave_cases room client with ⟨hNone, -⟩ |
      ⟨before, after, hTouches, hSome, hEmpty, hSchedule⟩
    · exact absurd (hNone.symm.trans hRest) (by simp)
    · cases hSchedule.symm.trans hRest
      exact .schedule hTouches.after (.inr (hTouches.generation_ne_zero hSome hEmpty))
  | send => cases hRest
  | publish room payload =>
    rcases hub.step_publish_cases room payload with ⟨hNone, -⟩ |
      ⟨before, after, hTouches, hSome, hEmpty, hRead⟩
    · exact absurd (hNone.symm.trans hRest) (by simp)
    · cases hRead.symm.trans hRest
      exact .read hTouches.after (hTouches.generation_ne_zero hSome hEmpty)
  | read room =>
    obtain ⟨r, hRoom, rfl⟩ := Option.map_eq_some_iff.mp hRest
    exact .schedule hRoom (.inl rfl)
  | schedule => cases hRest
  | teardown room generation =>
    rcases hub.step_teardown_cases room generation with ⟨hNone, -⟩ |
      ⟨_, _, -, -, -, -, -, -, hRemove⟩
    · exact absurd (hNone.symm.trans hRest) (by simp)
    · cases hRemove.symm.trans hRest
      exact .remove
  | remove => cases hRest

end Hub

end MarketGateway
