import MarketGateway.Proofs.Hub.Lobby

/-!
# One client of a hub

What the calls of a client say and where the client is. `Fits` holds at every moment, also while a
call is under way: the rooms in which the client is are those that it joined last, and as long as
its mailbox is open it is in all of them but the one that it is leaving. Steps of others do not
disturb that (`Fits.overlooks`), and the steps of its own call keep it (`Fits.go`).
-/

namespace MarketGateway

variable {π : Type}

/-! ## Guests without a call under way -/

namespace Guest

variable {guest : Guest} {client : ClientId}

theorem calls_of_listens (client : ClientId) (hListens : guest.listens = true) (event : Event) :
    (guest.step client event).calls = guest.calls := by
  have ⟨hLeft, hPending⟩ : guest.left = false ∧ guest.pending = [] := by
    simpa [listens] using hListens
  cases event with
  | frame text => rw [step, if_pos hListens]; rfl
  | hangUp => rw [step, if_pos hListens]; rfl
  | answer refusal => simp only [step, hPending]

theorem calls_of_answer {call : RoomCall} {rest : List RoomCall}
    (hPending : guest.pending = call :: rest) :
    (guest.step client (.answer none)).calls = guest.calls ++ [call] := by
  simp only [step, hPending]
  rfl

theorem calls_of_refusal (client : ClientId) {key : RoomKey} {rest : List RoomCall}
    (hPending : guest.pending = .join key :: rest) (failure : JoinError) :
    (guest.step client (.answer (some failure))).calls = guest.calls ∧
      (guest.step client (.answer (some failure))).held = guest.held := by
  simp only [step, hPending, and_self]

end Guest

namespace Hub

variable {hub next : Hub π} {key : RoomKey} {client : ClientId}

/-- Where the call of a client stands. -/
inductive Stage (client : ClientId) (hub : Hub π) (caller : Caller π) : Prop
  | resting (hPending : caller.guest.pending = []) (hOperation : caller.operation = none)
  | joining {key : RoomKey} {rest : List RoomCall} {progress : Subscribing}
      (hPending : caller.guest.pending = .join key :: rest)
      (hOperation : caller.operation = some (.subscribe key client client progress))
      (hKnows : (Operation.subscribe key client client progress).Knows hub)
  | leaving {key : RoomKey} {rest : List RoomCall}
      (hPending : caller.guest.pending = .leave key :: rest)
      (hOperation : caller.operation = some (.unsubscribe key client))
  /-- The room that was found is the only one of its key in which the client can be. -/
  | found {key : RoomKey} {rest : List RoomCall} {id : RoomId}
      (hPending : caller.guest.pending = .leave key :: rest)
      (hOperation : caller.operation = some (.leave id client)) (hKey : hub.keyOf? id = some key)
      (hOnly : ∀ other, hub.keyOf? other = some key → (client, client) ∈ hub.members other →
        other = id)
  | scheduling {key : RoomKey} {rest : List RoomCall} {id : RoomId} {generation : Nat}
      (hPending : caller.guest.pending = .leave key :: rest)
      (hOperation : caller.operation = some (.schedule id generation))
      (hOut : ¬ hub.Seated key client)

/-- The calls of a client say in which rooms it is. -/
structure Fits (client : ClientId) (hub : Hub π) (caller : Caller π) : Prop where
  sound : caller.guest.Sound
  stage : Stage client hub caller
  only {key : RoomKey} (hSeated : hub.Seated key client) : Guest.JoinedLast caller.guest.calls key
  all {key : RoomKey} (hOpen : hub.boxes.isOpen client = true)
    (hJoined : Guest.JoinedLast caller.guest.calls key) :
    hub.Seated key client ∨ caller.guest.pending.head? = some (.leave key)

variable {caller : Caller π}

theorem Stage.overlooks (hStage : Stage client hub caller) (hSees : Overlooks client hub next) :
    Stage client next caller := by
  cases hStage with
  | resting hPending hOperation => exact .resting hPending hOperation
  | joining hPending hOperation hKnows =>
    exact .joining hPending hOperation (hKnows.shifts hSees.shifts)
  | leaving hPending hOperation => exact .leaving hPending hOperation
  | found hPending hOperation hKey hOnly =>
    refine .found hPending hOperation (hSees.shifts.keyOf? hKey) fun other hOther hMember => ?_
    have hBefore := hSees.came hMember
    exact hOnly other (hSees.shifts.keyOf?_of_mem hBefore hOther) hBefore
  | scheduling hPending hOperation hOut =>
    exact .scheduling hPending hOperation fun hSeated => hOut (hSees.seated_before hSeated)

theorem Fits.overlooks (hFits : Fits client hub caller) (hSees : Overlooks client hub next) :
    Fits client next caller where
  sound := hFits.sound
  stage := hFits.stage.overlooks hSees
  only hSeated := hFits.only (hSees.seated_before hSeated)
  all hOpen hJoined :=
    (hFits.all (hSees.boxes hOpen) hJoined).imp_left (hSees.seated_after (hSees.boxes hOpen))

/-- The operation under way is one that the client has begun. -/
theorem Stage.operation (hStage : Stage client hub caller) {operation : Operation π}
    (hOperation : caller.operation = some operation) :
    operation.Knows hub ∧ (∀ id member, operation.Joins id member → member = (client, client)) ∧
      ∀ id other, operation.Leaves id other → other = client := by
  cases hStage with
  | resting _ hNone => exact absurd (hOperation.symm.trans hNone) (by simp)
  | joining _ hSame hKnows =>
    obtain rfl := Option.some.inj (hOperation.symm.trans hSame)
    exact ⟨hKnows, by rintro _ _ ⟨⟩; rfl, by rintro _ _ ⟨⟩; rfl⟩
  | leaving _ hSame | scheduling _ hSame =>
    obtain rfl := Option.some.inj (hOperation.symm.trans hSame)
    exact ⟨trivial, nofun, nofun⟩
  | found _ hSame =>
    obtain rfl := Option.some.inj (hOperation.symm.trans hSame)
    exact ⟨trivial, nofun, by rintro _ _ ⟨⟩; rfl⟩

/-- A client that begins its next call. -/
theorem stage_next (client : ClientId) (hub : Hub π) (guest : Guest) :
    Stage client hub (Caller.next client guest) := by
  cases hPending : guest.pending with
  | nil => exact .resting hPending (by simp [Caller.next, hPending])
  | cons call rest =>
    cases call with
    | join key =>
      have hKnows : (Operation.subscribe key client client .looking).Knows hub := trivial
      exact .joining hPending (by simp [Caller.next, hPending, RoomCall.operation]) hKnows
    | leave key => exact .leaving hPending (by simp [Caller.next, hPending, RoomCall.operation])

theorem Fits.meet (hFits : Fits client hub caller) (event : Guest.Event) :
    Fits client hub (caller.meet client event) := by
  unfold Caller.meet
  split
  · next hListens =>
    have hCalls := Guest.calls_of_listens client hListens event
    refine ⟨hFits.sound.step event, stage_next client hub _, fun hSeated => ?_,
      fun hOpen hJoined => .inl ?_⟩
    · exact hCalls.symm ▸ hFits.only hSeated
    · refine (hFits.all hOpen (hCalls ▸ hJoined)).resolve_right ?_
      have ⟨_, hPending⟩ : caller.guest.left = false ∧ caller.guest.pending = [] := by
        simpa [Guest.listens] using hListens
      simp [hPending]
  · exact hFits

/-- The call of a client to join a room is refused. -/
theorem Fits.refused {rest : List RoomCall} (hFits : Fits client hub caller)
    (hPending : caller.guest.pending = .join key :: rest) (failure : JoinError) :
    Fits client hub (caller.answer client (some failure)) where
  sound := by
    show (caller.guest.step client (.answer (some failure))).Sound
    exact hFits.sound.step _
  stage := stage_next client hub _
  only hSeated := by
    show Guest.JoinedLast (caller.guest.step client (.answer (some failure))).calls _
    rw [(Guest.calls_of_refusal client hPending failure).1]
    exact hFits.only hSeated
  all {other} hOpen hJoined := by
    replace hJoined :
      Guest.JoinedLast (caller.guest.step client (.answer (some failure))).calls other := hJoined
    rw [(Guest.calls_of_refusal client hPending failure).1] at hJoined
    exact .inl ((hFits.all hOpen hJoined).resolve_right (by simp [hPending]))

/-- The call of a client is granted. -/
theorem Fits.granted {call : RoomCall} {rest : List RoomCall} (hFits : Fits client hub caller)
    (hPending : caller.guest.pending = call :: rest)
    (hSeated : ∀ key, next.Seated key client →
      if call.key = key then call = .join key else hub.Seated key client)
    (hJoins : ∀ key, call = .join key → next.Seated key client)
    (hKept : hub.boxes.isOpen client = true → ∀ key, call.key ≠ key → hub.Seated key client →
      next.Seated key client)
    (hBoxes : next.boxes.isOpen client = true → hub.boxes.isOpen client = true) :
    Fits client next (caller.answer client none) where
  sound := by
    show (caller.guest.step client (.answer none)).Sound
    exact hFits.sound.step _
  stage := stage_next client next _
  only {key} hAfter := by
    show Guest.JoinedLast (caller.guest.step client (.answer none)).calls key
    rw [Guest.calls_of_answer hPending, Guest.joinedLast_snoc]
    have hBefore := hSeated key hAfter
    split at hBefore
    · next hKey => rwa [if_pos hKey]
    · next hKey =>
      rw [if_neg hKey]
      exact hFits.only hBefore
  all {key} hOpen hJoined := by
    replace hJoined :
      Guest.JoinedLast (caller.guest.step client (.answer none)).calls key := hJoined
    rw [Guest.calls_of_answer hPending, Guest.joinedLast_snoc] at hJoined
    split at hJoined
    · exact .inl (hJoins key hJoined)
    · next hKey =>
      refine .inl (hKept (hBoxes hOpen) key hKey ?_)
      refine (hFits.all (hBoxes hOpen) hJoined).resolve_right ?_
      rw [hPending]
      rintro ⟨rfl⟩
      exact hKey rfl

/-- The call of a client takes a step that does not concern its seats. -/
theorem Fits.goesOn (hFits : Fits client hub caller) (hSees : Overlooks client hub next)
    {rest : Operation π} (hStage : Stage client next { caller with operation := some rest }) :
    Fits client next { caller with operation := some rest } where
  sound := hFits.sound
  stage := hStage
  only hSeated := hFits.only (hSees.seated_before hSeated)
  all hOpen hJoined :=
    (hFits.all (hSees.boxes hOpen) hJoined).imp_left (hSees.seated_after (hSees.boxes hOpen))

/-- The call of a client to leave a room is granted. -/
theorem Fits.released {rest : List RoomCall} (hFits : Fits client hub caller)
    (hPending : caller.guest.pending = .leave key :: rest) (hOut : ¬ next.Seated key client)
    (hBefore : ∀ other, next.Seated other client → hub.Seated other client)
    (hKept : hub.boxes.isOpen client = true → ∀ other, key ≠ other → hub.Seated other client →
      next.Seated other client)
    (hBoxes : next.boxes.isOpen client = true → hub.boxes.isOpen client = true) :
    Fits client next (caller.answer client none) := by
  refine hFits.granted hPending (fun other hSeated => ?_) nofun hKept hBoxes
  split
  · next hKey =>
    obtain rfl : key = other := hKey
    exact absurd hSeated hOut
  · exact hBefore other hSeated

/-- The client comes into the room that was made for it, or finds it closed and starts over. -/
theorem Fits.go_entering {rest : List RoomCall} {id : RoomId} (hFits : Fits client hub caller)
    (hPending : caller.guest.pending = .join key :: rest)
    (hKnows : (Operation.subscribe key client client (.joining id)).Knows hub)
    (hNext : ∀ rest,
      ((Operation.subscribe key client client (.joining id)).step hub).1 = some rest →
      rest.Knows ((Operation.subscribe key client client (.joining id)).step hub).2) :
    Fits client ((Operation.subscribe key client client (.joining id)).step hub).2
      (caller.go client (.subscribe key client client (.joining id)) hub) := by
  have hShifts := Operation.shifts (.subscribe key client client (.joining id)) hub
  have hReseats := Operation.reseats (.subscribe key client client (.joining id)) hub
  have hOk := step_subscribe_ok hKnows
  obtain ⟨room, hRoom, hKey⟩ := hKnows
  have hPlace : hub.keyOf? id = some key := Option.map_eq_some_iff.mpr ⟨room, hRoom, hKey⟩
  have hSpec := hub.joinRoom_spec id client client
  have hRefusal : Operation.refusal hub (.subscribe key client client (.joining id)) = none := by
    simp only [Operation.refusal, Subscribing.step]
    generalize hub.joinRoom id client client = result
    obtain ⟨_ | _, _⟩ := result <;> rfl
  rw [Caller.go]
  simp only [Operation.step, Subscribing.step] at *
  generalize hub.joinRoom id client client = result at *
  obtain ⟨_ | start, next⟩ := result
  · -- the room is closed, and nobody came in
    rcases hSpec with ⟨-, hSpares, -⟩ | ⟨_, _, _, hSome, -⟩
    · have hMembers (place : RoomId) : next.members place = hub.members place := by
        rw [members, members, hSpares.rooms]
      have hSees : Overlooks client hub next :=
        ⟨hShifts, fun hAfter => hMembers _ ▸ hAfter, fun hBefore _ => hMembers _ ▸ hBefore,
          fun hOpen => hReseats.boxes client ▸ hOpen⟩
      exact hFits.goesOn hSees (.joining hPending rfl (hNext _ rfl))
    · cases hSome
  · dsimp only at *
    rw [hRefusal]
    generalize (if start then next.startFeed id else next) = next at *
    have hElsewhere (other : RoomKey) (hOther : key ≠ other) : hub.keyOf? id ≠ some other := by
      rw [hPlace]
      exact fun hSame => hOther (Option.some.inj hSame)
    refine hFits.granted hPending (fun other hSeated => ?_) (fun other hOther => ?_)
      (fun hOpen other hOther => hReseats.seated_after hShifts ?_ hOpen)
      fun hOpen => hReseats.boxes client ▸ hOpen
    · split
      · next hSame => exact congrArg RoomCall.join hSame
      · next hOther =>
        refine hReseats.seated_before hShifts ?_ hSeated
        rintro _ ⟨⟩
        rw [hShifts.keyOf? hPlace, ← hPlace]
        exact hElsewhere other hOther
    · cases hOther
      obtain ⟨place, before, after, hBefore, hSame, -, hAfter, -, hMember⟩ := hOk rfl
      exact ⟨place, hShifts.keyOf? (Option.map_eq_some_iff.mpr ⟨before, hBefore, hSame⟩),
        members_of_get? hAfter ▸ hMember⟩
    · rintro _ ⟨⟩
      exact hElsewhere other hOther

theorem Fits.go_joining {rest : List RoomCall} {progress : Subscribing}
    (hFits : Fits client hub caller) (hIndexed : hub.rooms.Indexed) (hLive : hub.cancelled = false)
    (hPending : caller.guest.pending = .join key :: rest)
    (hKnows : (Operation.subscribe key client client progress).Knows hub) :
    Fits client ((Operation.subscribe key client client progress).step hub).2
      (caller.go client (.subscribe key client client progress) hub) := by
  have hShifts := Operation.shifts (.subscribe key client client progress) hub
  have hReseats := Operation.reseats (.subscribe key client client progress) hub
  have hNext (rest : Operation π)
      (hRest : ((Operation.subscribe key client client progress).step hub).1 = some rest) :
      rest.Knows ((Operation.subscribe key client client progress).step hub).2 :=
    Operation.knows_step hIndexed hKnows hRest
  cases progress with
  | looking =>
    have hSees : Overlooks client hub _ :=
      hReseats.overlooks hShifts (by rintro _ ⟨⟩) (by rintro _ ⟨⟩)
    rw [Caller.go]
    simp only [Operation.step, Subscribing.step, hLive] at hNext hSees ⊢
    exact hFits.goesOn hSees (.joining hPending rfl (hNext _ rfl))
  | discarding id =>
    have hSees : Overlooks client hub _ :=
      hReseats.overlooks hShifts (by rintro _ ⟨⟩) (by rintro _ ⟨⟩)
    rw [Caller.go]
    exact hFits.goesOn hSees (.joining hPending rfl (hNext _ rfl))
  | done => exact hKnows.elim
  | joining id => exact hFits.go_entering hPending hKnows hNext

/-- The client goes out of the room that was found, which may call for a timer. -/
theorem Fits.go_found {rest : List RoomCall} {id : RoomId} (hFits : Fits client hub caller)
    (hPending : caller.guest.pending = .leave key :: rest) (hKey : hub.keyOf? id = some key)
    (hOnly : ∀ other, hub.keyOf? other = some key → (client, client) ∈ hub.members other →
      other = id) :
    Fits client ((Operation.leave id client).step hub).2
      (caller.go client (.leave id client) hub) := by
  have hShifts := Operation.shifts (.leave id client) hub
  have hNext := step_leave hub id client
  have hCases := hub.step_leave_cases id client
  obtain ⟨hReseats, hGone⟩ := hub.reseats_leaveRoom id client
  rw [Caller.go]
  rw [← hNext] at hReseats hGone
  generalize Operation.step (.leave id client) hub = result at *
  obtain ⟨more, next⟩ := result
  dsimp only at *
  have hBefore (other : RoomKey) : next.Seated other client → hub.Seated other client :=
    hReseats.seated_before hShifts fun _ => False.elim
  have hOut : ¬ next.Seated key client := by
    rintro ⟨place, hPlace, hMember⟩
    have hIn := (hReseats.came hMember).resolve_right not_false
    obtain rfl := hOnly place (hShifts.keyOf?_of_mem hIn hPlace) hIn
    exact hGone _ hMember rfl
  have hKept (hOpen : hub.boxes.isOpen client = true) (other : RoomKey) (hOther : key ≠ other) :
      hub.Seated other client → next.Seated other client := by
    refine hReseats.seated_after hShifts ?_ hOpen
    rintro _ ⟨rfl, -⟩
    rw [hKey]
    exact fun hSame => hOther (Option.some.inj hSame)
  have hStill (hOpen : next.boxes.isOpen client = true) : hub.boxes.isOpen client = true :=
    hReseats.boxes client ▸ hOpen
  rcases hCases with ⟨rfl, -⟩ | ⟨before, after, -, -, -, rfl⟩
  · exact hFits.released hPending hOut hBefore hKept hStill
  · refine ⟨hFits.sound, .scheduling hPending rfl hOut,
      fun hSeated => hFits.only (hBefore _ hSeated), fun {other} hOpen hJoined => ?_⟩
    by_cases hOther : key = other
    · exact .inr (by simp [hPending, hOther])
    · exact (hFits.all (hStill hOpen) hJoined).imp_left (hKept (hStill hOpen) other hOther)

theorem Fits.go (hFits : Fits client hub caller) (hIndexed : hub.rooms.Indexed)
    (hLive : hub.cancelled = false) {operation : Operation π}
    (hOperation : caller.operation = some operation) :
    Fits client (operation.step hub).2 (caller.go client operation hub) := by
  cases hFits.stage with
  | resting hPending hNone => exact absurd (hOperation.symm.trans hNone) (by simp)
  | joining hPending hSame hKnows =>
    obtain rfl := Option.some.inj (hOperation.symm.trans hSame)
    exact hFits.go_joining hIndexed hLive hPending hKnows
  | @leaving key rest hPending hSame =>
    obtain rfl := Option.some.inj (hOperation.symm.trans hSame)
    rw [Caller.go, Operation.step]
    cases hFind : hub.rooms.find? key with
    | none =>
      refine hFits.released hPending ?_ (fun _ => id) (fun _ _ _ => id) id
      rintro ⟨id, hKey, hMember⟩
      exact absurd ((find?_of_member hIndexed hMember hKey).symm.trans hFind) (by simp)
    | some id =>
      refine hFits.goesOn (overlooks_self hub)
        (.found hPending rfl ?_ fun other hOther hMember => ?_)
      · obtain ⟨room, hRoom, hKey⟩ := hIndexed.entries (hIndexed.find?_iff.mp hFind)
        exact Option.map_eq_some_iff.mpr ⟨room, hRoom, hKey⟩
      · exact Option.some.inj ((find?_of_member hIndexed hMember hOther).symm.trans hFind)
  | found hPending hSame hKey hOnly =>
    obtain rfl := Option.some.inj (hOperation.symm.trans hSame)
    exact hFits.go_found hPending hKey hOnly
  | @scheduling key rest id generation hPending hSame hOut =>
    obtain rfl := Option.some.inj (hOperation.symm.trans hSame)
    have hSees : Overlooks client hub _ :=
      (Operation.reseats (.schedule id generation) hub).overlooks
        (Operation.shifts (.schedule id generation) hub) (by rintro _ ⟨⟩) (by rintro _ ⟨⟩)
    exact hFits.released hPending (fun hSeated => hOut (hSees.seated_before hSeated))
      (fun _ => hSees.seated_before) (fun hOpen _ _ => hSees.seated_after hOpen) hSees.boxes

end Hub

end MarketGateway
