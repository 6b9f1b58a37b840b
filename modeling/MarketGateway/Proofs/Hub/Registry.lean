import MarketGateway.Proofs.Hub.Moves
import MarketGateway.Proofs.Lists

/-!
# The registry of rooms

The lock of the registry and the lock of a room are never held together, so between any two steps of
a subscription or a teardown others may come: a room that was looked up can be closed before it is
joined, and a room that was closed can be replaced under its key before it is taken out.

`Rooms.Indexed` says what holds of the table in spite of that: the open rooms are those that can be
found, and nobody is in a closed one. `Operation.registers` says what the step of an operation does
to the registry. A room is only taken out by an operation that is meant for this very room.
-/

namespace MarketGateway

variable {π : Type}

namespace Rooms

variable {rooms : Rooms π} {key : RoomKey} {id other : RoomId} {room : Room π}

/-- The open rooms are those that can be found, and nobody is in a closed one. -/
structure Indexed (rooms : Rooms π) : Prop where
  keys : (rooms.registered.map Prod.fst).Nodup
  entries {key : RoomKey} {id : RoomId} (hEntry : (key, id) ∈ rooms.registered) :
    ∃ room, rooms.get? id = some room ∧ room.key = key
  opened {id : RoomId} {room : Room π} (hRoom : rooms.get? id = some room)
    (hOpen : room.closed = false) : (room.key, id) ∈ rooms.registered
  vacant {id : RoomId} {room : Room π} (hRoom : rooms.get? id = some room)
    (hClosed : room.closed = true) : room.members = []

theorem Indexed.find?_iff (hIndexed : rooms.Indexed) :
    rooms.find? key = some id ↔ (key, id) ∈ rooms.registered :=
  lookup_eq_some_iff_mem hIndexed.keys

theorem Indexed.find?_of_open (hIndexed : rooms.Indexed) (hRoom : rooms.get? id = some room)
    (hOpen : room.closed = false) : rooms.find? room.key = some id :=
  hIndexed.find?_iff.mpr (hIndexed.opened hRoom hOpen)

theorem Indexed.open_of_member (hIndexed : rooms.Indexed) (hRoom : rooms.get? id = some room)
    (hSome : room.members ≠ []) : room.closed = false := by
  cases hClosed : room.closed with
  | false => rfl
  | true => exact absurd (hIndexed.vacant hRoom hClosed) hSome

theorem indexed_empty : Indexed ({} : Rooms π) where
  keys := List.nodup_nil
  entries hEntry := absurd hEntry List.not_mem_nil
  opened hRoom := by cases hRoom
  vacant hRoom := by cases hRoom

/-- Taking out an entry whose room is closed leaves the open rooms where they are. -/
theorem Indexed.removeIfSame (hIndexed : rooms.Indexed) (hRoom : rooms.get? id = some room)
    (hClosed : room.closed = true) : (rooms.removeIfSame id).Indexed where
  keys := (List.filter_sublist.map Prod.fst).nodup hIndexed.keys
  entries hEntry := hIndexed.entries (List.mem_filter.mp hEntry).1
  opened {other found} hFound hOpen := by
    have hNe : other ≠ id := by
      rintro rfl
      obtain rfl := Option.some.inj (hRoom.symm.trans hFound)
      exact absurd (hOpen.symm.trans hClosed) (by decide)
    exact List.mem_filter.mpr ⟨hIndexed.opened hFound hOpen, by simpa using hNe⟩
  vacant hFound := hIndexed.vacant hFound

/-- The room of a key is in the registry, or one is made and entered. -/
theorem getOrMake_cases (rooms : Rooms π) (key : RoomKey) :
    (∃ id, rooms.find? key = some id ∧ rooms.getOrMake key = (id, rooms)) ∨
      (rooms.find? key = none ∧
        (rooms.getOrMake key).2.registered =
          rooms.registered ++ [(key, (rooms.getOrMake key).1)] ∧
        (rooms.getOrMake key).2.get? (rooms.getOrMake key).1 = some { key := key }) := by
  unfold Rooms.getOrMake
  split
  · next id hFind => exact .inl ⟨id, hFind, rfl⟩
  · next hNone => exact .inr ⟨hNone, rfl, List.getElem?_concat_length⟩

/-- The room that is found or made has the key that was asked for. -/
theorem Indexed.getOrMake (hIndexed : rooms.Indexed) (key : RoomKey) :
    (rooms.getOrMake key).2.Indexed ∧
      ∃ room, (rooms.getOrMake key).2.get? (rooms.getOrMake key).1 = some room ∧
        room.key = key := by
  obtain ⟨hKept, hMade⟩ := rooms.getOrMake_spec key
  rcases rooms.getOrMake_cases key with ⟨id, hFind, hSame⟩ | ⟨hNone, hRegistered, hNew⟩
  · rw [hSame]
    exact ⟨hIndexed, hIndexed.entries (hIndexed.find?_iff.mp hFind)⟩
  · have hCases {id : RoomId} {room : Room π}
        (hRoom : (rooms.getOrMake key).2.get? id = some room) :
        rooms.get? id = some room ∨ (id = (rooms.getOrMake key).1 ∧ room = { key := key }) := by
      cases hBefore : rooms.get? id with
      | none => exact .inr (hMade id room hBefore hRoom)
      | some before =>
        have hSame := hKept id before hBefore
        exact .inl (hSame.symm.trans hRoom)
    refine ⟨⟨?_, ?_, ?_, ?_⟩, _, hNew, rfl⟩
    · have hAbsent : key ∉ rooms.registered.map Prod.fst := by
        intro hMem
        obtain ⟨⟨same, id⟩, hEntry, rfl⟩ := List.mem_map.mp hMem
        have hFind := hIndexed.find?_iff.mpr hEntry
        exact absurd (hNone.symm.trans hFind) (by simp)
      rw [hRegistered, List.map_append, List.nodup_append]
      refine ⟨hIndexed.keys, List.pairwise_singleton _ _, ?_⟩
      intro first hFirst second hSecond hEq
      obtain rfl := List.mem_singleton.mp hSecond
      exact hAbsent (hEq ▸ hFirst)
    · intro entry id hEntry
      rw [hRegistered] at hEntry
      rcases List.mem_append.mp hEntry with hBefore | hLast
      · obtain ⟨room, hRoom, hKey⟩ := hIndexed.entries hBefore
        exact ⟨room, hKept id room hRoom, hKey⟩
      · cases List.mem_singleton.mp hLast
        exact ⟨_, hNew, rfl⟩
    · intro id room hRoom hOpen
      rw [hRegistered]
      rcases hCases hRoom with hBefore | ⟨rfl, rfl⟩
      · exact List.mem_append_left _ (hIndexed.opened hBefore hOpen)
      · exact List.mem_append_right _ (List.mem_singleton.mpr rfl)
    · intro id room hRoom hClosed
      rcases hCases hRoom with hBefore | ⟨-, rfl⟩
      · exact hIndexed.vacant hBefore hClosed
      · rfl

end Rooms

/-- Nobody comes into a closed room. -/
theorem Room.Change.vacant {room next : Room π} (hChange : room.Change next)
    (hVacant : room.closed = true → room.members = []) (hClosed : next.closed = true) :
    next.members = [] := by
  cases hChange with
  | kept => exact hVacant hClosed
  | pruned _ _ hBefore => exact absurd (hVacant hClosed) hBefore
  | moved _ hOpen =>
    rcases hOpen with hOpen | hSome
    · exact absurd (hOpen.symm.trans hClosed) (by decide)
    · exact absurd (hVacant hClosed) hSome
  | emptied => rfl
  | shut _ _ hEmpty => exact hEmpty

namespace Hub

variable {hub next : Hub π} {id : RoomId} {room : Room π}

/-- Rooms that change while the registry stays. -/
theorem Shifts.indexed (hShifts : hub.Shifts next) (hIndexed : hub.rooms.Indexed)
    (hNone : ∀ id, hub.rooms.get? id = none → next.rooms.get? id = none)
    (hRegistered : next.rooms.registered = hub.rooms.registered) : next.rooms.Indexed := by
  have hBefore {id : RoomId} {room : Room π} (hRoom : next.rooms.get? id = some room) :
      ∃ before, hub.rooms.get? id = some before ∧ before.Change room := by
    cases hOld : hub.rooms.get? id with
    | none => exact absurd ((hNone id hOld).symm.trans hRoom) (by simp)
    | some before =>
      obtain ⟨after, hAfter, hChange⟩ := hShifts.rooms hOld
      obtain rfl := Option.some.inj (hAfter.symm.trans hRoom)
      exact ⟨before, rfl, hChange⟩
  refine ⟨hRegistered ▸ hIndexed.keys, ?_, ?_, ?_⟩
  · intro key id hEntry
    rw [hRegistered] at hEntry
    obtain ⟨before, hOld, hKey⟩ := hIndexed.entries hEntry
    obtain ⟨after, hAfter, hChange⟩ := hShifts.rooms hOld
    exact ⟨after, hAfter, hChange.evolves.key.trans hKey⟩
  · intro id room hRoom hOpen
    obtain ⟨before, hOld, hChange⟩ := hBefore hRoom
    have hOldOpen := hChange.evolves.was_open hOpen
    rw [hRegistered, hChange.evolves.key]
    exact hIndexed.opened hOld hOldOpen
  · intro id room hRoom hClosed
    obtain ⟨before, hOld, hChange⟩ := hBefore hRoom
    exact hChange.vacant (hIndexed.vacant hOld) hClosed

/-! ## What a step does to the registry -/

theorem registered_joinRoom (hub : Hub π) (room : RoomId) (client : ClientId)
    (mailbox : MailboxId) :
    (hub.joinRoom room client mailbox).2.rooms.registered = hub.rooms.registered := by
  unfold joinRoom
  split <;> rfl

theorem registered_leaveRoom (hub : Hub π) (room : RoomId) (client : ClientId) :
    (hub.leaveRoom room client).2.rooms.registered = hub.rooms.registered := by
  unfold leaveRoom
  split <;> rfl

theorem registered_closeIfIdle (hub : Hub π) (room : RoomId) (generation : Nat) :
    (hub.closeIfIdle room generation).2.rooms.registered = hub.rooms.registered := by
  unfold closeIfIdle
  split <;> rfl

theorem registered_broadcastTo (hub : Hub π) (room : RoomId) (payload : π) :
    (hub.broadcastTo room payload).2.rooms.registered = hub.rooms.registered := by
  unfold broadcastTo
  split <;> rfl

/-- An operation that is about to take a room out of the registry. -/
inductive Operation.Discards : Operation π → RoomId → Prop
  | remove (id : RoomId) : Discards (.remove id) id
  | subscribe (key : RoomKey) (client : ClientId) (mailbox : MailboxId) (id : RoomId) :
      Discards (.subscribe key client mailbox (.discarding id)) id

/-- What the step of an operation does to the registry. -/
inductive Operation.Registers (hub : Hub π) (operation : Operation π) (next : Hub π) : Prop
  | keeps (hNone : ∀ id, hub.rooms.get? id = none → next.rooms.get? id = none)
      (hRegistered : next.rooms.registered = hub.rooms.registered)
  | makes {key : RoomKey} (hRooms : next.rooms = (hub.rooms.getOrMake key).2)
  | discards {id : RoomId} (hDiscards : operation.Discards id)
      (hSame : (hub.removeIfSame id).Undisturbed next)

theorem registers_subscribing (hub : Hub π) (key : RoomKey) (client : ClientId)
    (mailbox : MailboxId) (progress : Subscribing) :
    Operation.Registers hub (.subscribe key client mailbox progress)
      (progress.step key client mailbox hub).2 := by
  cases progress with
  | looking =>
    rw [Subscribing.step]
    split
    · exact .keeps (fun _ hNone => hNone) rfl
    · exact .makes rfl
  | joining room =>
    rw [Subscribing.step]
    have hSpec := hub.joinRoom_spec room client mailbox
    have hRegistered := hub.registered_joinRoom room client mailbox
    generalize hub.joinRoom room client mailbox = result at hSpec hRegistered
    obtain ⟨answer, next⟩ := result
    rcases hSpec with ⟨rfl, hSpares, -⟩ | ⟨start, before, after, rfl, hTouches, -⟩
    · exact .keeps (fun _ => hSpares.none) hRegistered
    · dsimp only at hRegistered ⊢
      split
      · have hSame := undisturbed_startFeed next room
        exact .keeps (fun _ hNone => hSame.none (hTouches.none hNone))
          (hSame.registered.trans hRegistered)
      · exact .keeps (fun _ => hTouches.none) hRegistered
  | discarding room => exact .discards (.subscribe key client mailbox room) (.refl _)
  | done outcome => exact .keeps (fun _ hNone => hNone) rfl

theorem Operation.registers (operation : Operation π) (hub : Hub π) :
    operation.Registers hub (operation.step hub).2 := by
  cases operation with
  | subscribe key client mailbox progress =>
    rw [step_subscribe]
    exact registers_subscribing hub key client mailbox progress
  | unsubscribe | broadcast | read | schedule => exact .keeps (fun _ hNone => hNone) rfl
  | leave room client =>
    rw [step_leave]
    refine .keeps ?_ (hub.registered_leaveRoom room client)
    intro id hNone
    rcases hub.leaveRoom_spec room client with ⟨-, hSpares⟩ | ⟨_, _, hTouches, -⟩
    · exact hSpares.none hNone
    · exact hTouches.none hNone
  | send room payload =>
    exact .keeps (fun _ => hub.none_broadcastTo room payload)
      (hub.registered_broadcastTo room payload)
  | publish room payload =>
    rw [step_publish]
    let noted : Hub π := { hub with state := hub.state.message }
    exact .keeps (fun _ hNone => noted.none_broadcastTo room payload hNone)
      (noted.registered_broadcastTo room payload)
  | teardown room generation =>
    refine .keeps ?_ ?_
    · intro id hNone
      rcases hub.step_teardown_cases room generation with ⟨-, hSpares, -⟩ | ⟨_, _, hTouches, -⟩
      · exact hSpares.none hNone
      · exact hTouches.none hNone
    · have hRegistered := hub.registered_closeIfIdle room generation
      rw [step]
      split
      · rfl
      · split <;> next hClose => rwa [hClose] at hRegistered
  | remove room => exact .discards (.remove room) (undisturbed_release (hub.removeIfSame room))

end Hub

end MarketGateway
