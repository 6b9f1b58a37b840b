import Mathlib.Data.List.Induction
import MarketGateway.Proofs.Hub.Callers

/-!
# What clients hold and who is in the rooms

Two records are kept of the same fact: the set of rooms that a client holds, and the members of each
room. `Lobby.Sound` is the invariant that ties them together: every client fits the hub
(`Hub.Fits`), and nobody but the clients is in a room. It holds whatever comes in between the steps
of calls (`Lobby.sound_run`).

`held_rooms_are_joined` is what follows at the moments at which a client makes no call. A client
that hangs up leaves one room after another, and each of its steps brings it nearer to the end
(`toGo_go`).
-/

namespace MarketGateway

variable {π : Type}

namespace Hub

/-- The client whose seats an operation may change. -/
def Operation.client? : Operation π → Option ClientId
  | subscribe _ client _ _ | unsubscribe _ client | leave _ client => some client
  | _ => none

theorem Operation.Joins.client? {operation : Operation π} {id : RoomId}
    {member : ClientId × MailboxId} (hJoins : operation.Joins id member) :
    operation.client? = some member.1 := by
  cases hJoins
  rfl

theorem Operation.Leaves.client? {operation : Operation π} {id : RoomId} {client : ClientId}
    (hLeaves : operation.Leaves id client) : operation.client? = some client := by
  cases hLeaves <;> rfl

/-- An operation of nobody goes on as one of nobody. -/
theorem Operation.client?_step {hub : Hub π} {operation rest : Operation π}
    (hNobody : operation.client? = none) (hRest : (operation.step hub).1 = some rest) :
    rest.client? = none := by
  cases operation with
  | subscribe | unsubscribe | leave => cases hNobody
  | broadcast | read =>
    obtain ⟨_, -, rfl⟩ := Option.map_eq_some_iff.mp hRest
    rfl
  | send | schedule | remove => cases hRest
  | publish room payload =>
    rw [step] at hRest
    dsimp only at hRest
    split at hRest <;> cases hRest
    rfl
  | teardown room generation =>
    rcases hub.step_teardown_cases room generation with ⟨hNone, -⟩ |
      ⟨_, _, -, -, -, -, -, -, hRemove⟩
    · exact absurd (hNone.symm.trans hRest) (by simp)
    · cases hRemove.symm.trans hRest
      rfl

/-- A step of an operation that somebody else knows of. -/
theorem Traffic.Tidy.beside {traffic : Traffic π} (hTidy : traffic.Tidy) {operation : Operation π}
    (hKnows : operation.Knows traffic.hub) :
    Traffic.Tidy { traffic with hub := (operation.step traffic.hub).2 } where
  indexed := by
    have hAlone : Traffic.Tidy ⟨traffic.hub, [operation]⟩ :=
      ⟨hTidy.indexed, fun other hOther => List.mem_singleton.mp hOther ▸ hKnows⟩
    exact hAlone.indexed_step (.go 0)
  knows other hOther := (hTidy.knows other hOther).shifts (operation.shifts traffic.hub)

namespace Lobby

variable {lobby : Lobby π} {client : ClientId} {caller : Caller π}

/-- Every client fits the hub, and nobody else is in a room. -/
structure Sound (lobby : Lobby π) : Prop where
  tidy : lobby.traffic.Tidy
  live : lobby.hub.cancelled = false
  others : ∀ operation ∈ lobby.traffic.operations, operation.client? = none
  members : ∀ {id : RoomId} {member : ClientId × MailboxId}, member ∈ lobby.hub.members id →
    member.2 = member.1 ∧ member.1 < lobby.callers.length
  fits : ∀ {client : ClientId} {caller : Caller π}, lobby.callers[client]? = some caller →
    Fits client lobby.hub caller

/-- One client does something by which nobody but it may get into a room. -/
theorem Sound.placed {traffic : Traffic π} {after : Caller π} (hSound : lobby.Sound)
    (hClient : client < lobby.callers.length) (hTidy : traffic.Tidy)
    (hOthers : ∀ operation ∈ traffic.operations, operation.client? = none)
    (hShifts : lobby.hub.Shifts traffic.hub)
    (hMembers : ∀ {id : RoomId} {member : ClientId × MailboxId}, member ∈ traffic.hub.members id →
      member ∈ lobby.hub.members id ∨ member = (client, client))
    (hSees : ∀ other, other ≠ client → Overlooks other lobby.hub traffic.hub)
    (hFits : Fits client traffic.hub after) :
    (Lobby.place { lobby with traffic := traffic } client after).Sound where
  tidy := hTidy
  live := hShifts.cancelled.trans hSound.live
  others := hOthers
  members hMember := by
    rw [Lobby.place, List.length_set]
    rcases hMembers hMember with hBefore | rfl
    · exact hSound.members hBefore
    · exact ⟨rfl, hClient⟩
  fits {other found} hFound := by
    rw [Lobby.place, List.getElem?_set] at hFound
    split at hFound
    · next hSame =>
      subst hSame
      cases hFound
      exact hFits
    · next hOther => exact (hSound.fits hFound).overlooks (hSees other (Ne.symm hOther))

/-- One client does something that leaves the hub as it is. -/
theorem Sound.place {after : Caller π} (hSound : lobby.Sound)
    (hClient : client < lobby.callers.length) (hFits : Fits client lobby.hub after) :
    (lobby.place client after).Sound :=
  hSound.placed hClient hSound.tidy hSound.others (Alters.refl _).toShifts .inl
    (fun _ _ => overlooks_self _) hFits

theorem lt_of_caller (hCaller : lobby.callers[client]? = some caller) :
    client < lobby.callers.length :=
  (List.getElem?_eq_some_iff.mp hCaller).1

theorem Sound.meet (hSound : lobby.Sound) (client : ClientId) (event : Guest.Event) :
    (lobby.meet client event).Sound := by
  unfold Lobby.meet
  split
  · next caller hCaller =>
    exact hSound.place (lt_of_caller hCaller) ((hSound.fits hCaller).meet event)
  · exact hSound

/-- A hub that changes as all clients overlook. -/
theorem Sound.overlooks {traffic : Traffic π} (hSound : lobby.Sound) (hTidy : traffic.Tidy)
    (hOthers : ∀ operation ∈ traffic.operations, operation.client? = none)
    (hShifts : lobby.hub.Shifts traffic.hub)
    (hMembers : ∀ {id : RoomId} {member : ClientId × MailboxId}, member ∈ traffic.hub.members id →
      member ∈ lobby.hub.members id)
    (hSees : ∀ client < lobby.callers.length, Overlooks client lobby.hub traffic.hub) :
    Sound { lobby with traffic := traffic } where
  tidy := hTidy
  live := hShifts.cancelled.trans hSound.live
  others := hOthers
  members hMember := hSound.members (hMembers hMember)
  fits hCaller := (hSound.fits hCaller).overlooks (hSees _ (lt_of_caller hCaller))

/-- The writers open no mailbox of a client. -/
theorem Sound.mail {boxes : Mailboxes π} (hSound : lobby.Sound)
    (hBoxes : ∀ client < lobby.callers.length, boxes.isOpen client = true →
      lobby.hub.boxes.isOpen client = true) : (lobby.mail boxes).Sound :=
  hSound.overlooks (hSound.tidy.step _) hSound.others (lobby.traffic.shifts _) id
    fun client hClient =>
      ⟨lobby.traffic.shifts _, id, fun hBefore _ => hBefore, hBoxes client hClient⟩

theorem isOpen_modify (boxes : Mailboxes π) (id other : MailboxId) {change : Queue π → Queue π}
    (hChange : ∀ queue, (change queue).closed = false → queue.closed = false)
    (hOpen : (boxes.modify id change).isOpen other = true) : boxes.isOpen other = true := by
  rw [Mailboxes.isOpen, Mailboxes.lookup_modify] at hOpen
  rw [Mailboxes.isOpen]
  split at hOpen
  · cases hQueue : boxes.lookup other with
    | none => simp [hQueue] at hOpen
    | some queue =>
      simp only [hQueue, Option.map_some, Option.any_some, Bool.not_eq_true'] at hOpen ⊢
      exact hChange queue hOpen
  · exact hOpen

theorem Sound.connect (hSound : lobby.Sound) (levels : Option Nat) (capacity : Nat) :
    (lobby.step (.connect levels capacity)).Sound := by
  have hMail : Sound (lobby.mail
      (lobby.hub.boxes ++ [(lobby.callers.length, { capacity := capacity })])) := by
    refine hSound.mail fun client hClient hOpen => ?_
    have hNe : (client == lobby.callers.length) = false := by simpa using Nat.ne_of_lt hClient
    rw [Mailboxes.isOpen, List.lookup_append] at hOpen
    simpa [Mailboxes.isOpen, List.lookup_cons, hNe] using hOpen
  refine ⟨hMail.tidy, hMail.live, hMail.others, fun hMember => ?_,
    fun {client caller} hCaller => ?_⟩
  · obtain ⟨hOwn, hKnown⟩ := hMail.members hMember
    rw [Lobby.step, List.length_append]
    exact ⟨hOwn, Nat.lt_succ_of_lt hKnown⟩
  · simp only [Lobby.step] at hCaller
    rw [List.getElem?_append] at hCaller
    split at hCaller
    · exact hMail.fits hCaller
    · next hNew =>
      obtain ⟨hFirst, rfl⟩ : client - lobby.callers.length = 0 ∧ _ = caller := by
        simpa [List.getElem?_singleton] using hCaller
      refine ⟨Guest.sound_run levels client [], .resting rfl rfl, ?_, fun _ hJoined => ?_⟩
      · rintro key ⟨id, -, hMember⟩
        exact absurd (hMail.members hMember).2 hNew
      · simp [Guest.JoinedLast] at hJoined

theorem Sound.go (hSound : lobby.Sound) (client : ClientId) : (lobby.step (.go client)).Sound := by
  rw [Lobby.step]
  split
  · next caller hCaller =>
    have hFits := hSound.fits hCaller
    split
    · next operation hOperation =>
      obtain ⟨hKnows, hJoins, hLeaves⟩ := hFits.stage.operation hOperation
      have hShifts := operation.shifts lobby.hub
      have hReseats := operation.reseats lobby.hub
      refine hSound.placed (lt_of_caller hCaller) (hSound.tidy.beside hKnows) hSound.others hShifts
        (fun hMember => (hReseats.came hMember).imp_right (hJoins _ _)) (fun other hOther => ?_)
        (hFits.go hSound.tidy.indexed hSound.live hOperation)
      exact hReseats.overlooks hShifts
        (fun id hJoin => hOther (congrArg Prod.fst (hJoins id _ hJoin)))
        fun id hLeave => hOther (hLeaves id other hLeave)
    · exact hSound
  · exact hSound

theorem Sound.refuse (hSound : lobby.Sound) (client : ClientId) (failure : JoinError) :
    (lobby.step (.refuse client failure)).Sound := by
  rw [Lobby.step]
  split
  · next caller hCaller =>
    have hFits := hSound.fits hCaller
    split
    · next hOperation =>
      refine hSound.place (lt_of_caller hCaller) ?_
      cases hFits.stage with
      | joining hPending => exact hFits.refused hPending failure
      | resting _ hSame | leaving _ hSame | found _ hSame | scheduling _ hSame =>
        cases hOperation.symm.trans hSame
    · exact hSound
  · exact hSound

/-- What happens apart from the clients leaves them where they are. -/
theorem Sound.reseats_apart (hSound : lobby.Sound) {move : Traffic.Move π}
    (hApart : move.isApart = true) :
    Reseats (fun _ _ => False) (fun _ _ => False) lobby.hub (lobby.traffic.step move).hub := by
  by_cases hGo : ∃ index, move = .go index
  · obtain ⟨index, rfl⟩ := hGo
    cases hIndex : lobby.traffic.operations[index]? with
    | none =>
      rw [Traffic.step, hIndex]
      exact reseats_of_rooms (fun _ => rfl) rfl
    | some operation =>
      have hNobody := hSound.others operation (List.mem_of_getElem? hIndex)
      rw [(Traffic.step_go hIndex).1]
      refine (operation.reseats lobby.hub).mono (fun id member hJoins => ?_)
        fun id client hLeaves => ?_
      · exact absurd (hNobody.symm.trans hJoins.client?) (by simp)
      · exact absurd (hNobody.symm.trans hLeaves.client?) (by simp)
  · refine lobby.traffic.reseats (fun index hMove => hGo ⟨index, hMove⟩) fun boxes hMove => ?_
    rw [hMove] at hApart
    cases hApart

theorem Sound.other (hSound : lobby.Sound) (move : Traffic.Move π) :
    (lobby.step (.other move)).Sound := by
  rw [Lobby.step]
  split
  · next hApart =>
    have hShifts := lobby.traffic.shifts move
    have hReseats := hSound.reseats_apart hApart
    refine hSound.overlooks (hSound.tidy.step move) (fun operation hAfter => ?_) hShifts
      (fun hMember => (hReseats.came hMember).resolve_right not_false)
      fun client _ => hReseats.overlooks hShifts (fun _ => not_false) fun _ => not_false
    rcases Traffic.of_mem_operations hAfter with hOld | ⟨request, rfl, rfl⟩ |
      ⟨before, hBefore, -, hRest⟩ | ⟨_, -, -, _, _, -, rfl⟩
    · exact hSound.others operation hOld
    · cases request with
      | subscribe | unsubscribe => cases hApart
      | broadcast | publish => rfl
    · exact Operation.client?_step (hSound.others before hBefore) hRest
    · rfl
  · exact hSound

theorem Sound.step (hSound : lobby.Sound) (move : Move π) : (lobby.step move).Sound := by
  cases move with
  | connect levels capacity => exact hSound.connect levels capacity
  | frame client text => exact hSound.meet client (.frame text)
  | hangUp client => exact hSound.meet client .hangUp
  | go client => exact hSound.go client
  | refuse client failure => exact hSound.refuse client failure
  | take client =>
    refine hSound.mail fun other _ hOpen =>
      isOpen_modify _ client other (fun queue hQueue => ?_) hOpen
    unfold Queue.take at hQueue
    split at hQueue <;> exact hQueue
  | drop client =>
    refine hSound.mail fun other _ hOpen =>
      isOpen_modify _ client other (fun queue hQueue => ?_) hOpen
    cases hQueue
  | other move => exact hSound.other move

theorem run_snoc (kind : FeedKind) (config : HubConfig) (moves : List (Move π)) (move : Move π) :
    run kind config (moves ++ [move]) = (run kind config moves).step move :=
  List.foldl_append

theorem sound_run (kind : FeedKind) (config : HubConfig) (moves : List (Move π)) :
    (run kind config moves).Sound := by
  induction moves using List.reverseRecOn with
  | nil =>
    refine ⟨Traffic.tidy_run kind config [], rfl, nofun, fun hMember => ?_, nofun⟩
    simp [run, hub, Traffic.run, Traffic.steps, Hub.members, Rooms.get?] at hMember
  | append_singleton moves move ih =>
    rw [run_snoc]
    exact ih.step move

/-! ## Clients that hang up -/

/-- Whether a call of the client takes a step. -/
def Move.isStepOf (client : ClientId) : Move π → Bool
  | .go caller => caller = client
  | _ => false

/-- What a client becomes by a move. -/
inductive Becomes (client : ClientId) (hub : Hub π) (move : Move π) (caller : Caller π) :
    Caller π → Prop
  | same (hNone : move.isStepOf client = true → caller.operation = none) :
      Becomes client hub move caller caller
  | meets {event : Guest.Event} (hNot : move.isStepOf client = false) :
      Becomes client hub move caller (caller.meet client event)
  | goes {operation : Operation π} (hOperation : caller.operation = some operation) :
      Becomes client hub move caller (caller.go client operation hub)
  | refused {key : RoomKey} {owner : ClientId} {mailbox : MailboxId} {failure : JoinError}
      (hOperation : caller.operation = some (.subscribe key owner mailbox .looking)) :
      Becomes client hub move caller (caller.answer client (some failure))

/-- Only the client at the place becomes another one. -/
theorem becomes_place {move : Move π} {found after : Caller π} {place : ClientId}
    (hCaller : lobby.callers[client]? = some caller) (hFound : lobby.callers[place]? = some found)
    (hSame : place = client → Becomes client lobby.hub move found after)
    (hOther : place ≠ client → move.isStepOf client = false) :
    ∃ now, (lobby.callers.set place after)[client]? = some now ∧
      Becomes client lobby.hub move caller now := by
  by_cases hPlace : place = client
  · subst hPlace
    obtain rfl := Option.some.inj (hFound.symm.trans hCaller)
    exact ⟨after, by rw [List.getElem?_set_self (lt_of_caller hCaller)], hSame rfl⟩
  · exact ⟨caller, by rw [List.getElem?_set_ne hPlace, hCaller],
      .same (by simp [hOther hPlace])⟩

theorem becomes_meet {move : Move π} (hCaller : lobby.callers[client]? = some caller)
    (place : ClientId) (event : Guest.Event) (hNot : move.isStepOf client = false) :
    ∃ after, (lobby.meet place event).callers[client]? = some after ∧
      Becomes client lobby.hub move caller after := by
  unfold Lobby.meet
  split
  · next found hFound =>
    refine becomes_place hCaller hFound ?_ fun _ => hNot
    rintro rfl
    exact .meets hNot
  · exact ⟨caller, hCaller, .same (by simp [hNot])⟩

theorem becomes_go (hCaller : lobby.callers[client]? = some caller) (place : ClientId) :
    ∃ after, (lobby.step (.go place)).callers[client]? = some after ∧
      Becomes client lobby.hub (.go place) caller after := by
  rw [Lobby.step]
  split
  · next found hFound =>
    split
    · next operation hOperation =>
      refine becomes_place hCaller hFound ?_ fun hPlace => by simpa [Move.isStepOf] using hPlace
      rintro rfl
      exact .goes hOperation
    · next hNone =>
      refine ⟨caller, hCaller, .same fun hStep => ?_⟩
      obtain rfl : place = client := by simpa [Move.isStepOf] using hStep
      exact Option.some.inj (hFound.symm.trans hCaller) ▸ hNone
  · next hNone =>
    refine ⟨caller, hCaller, .same fun hStep => ?_⟩
    obtain rfl : place = client := by simpa [Move.isStepOf] using hStep
    cases hCaller.symm.trans hNone

theorem becomes_step (hCaller : lobby.callers[client]? = some caller) (move : Move π) :
    ∃ after, (lobby.step move).callers[client]? = some after ∧
      Becomes client lobby.hub move caller after := by
  have hSelf (hNot : move.isStepOf client = false) :
      ∃ after, lobby.callers[client]? = some after ∧ Becomes client lobby.hub move caller after :=
    ⟨caller, hCaller, .same (by simp [hNot])⟩
  cases move with
  | connect levels capacity =>
    refine ⟨caller, ?_, .same (by simp [Move.isStepOf])⟩
    rw [Lobby.step, List.getElem?_append_left (lt_of_caller hCaller)]
    exact hCaller
  | frame place text => exact becomes_meet hCaller place (.frame text) rfl
  | hangUp place => exact becomes_meet hCaller place .hangUp rfl
  | go place => exact becomes_go hCaller place
  | refuse place failure =>
    rw [Lobby.step]
    split
    · next found hFound =>
      split
      · next hOperation =>
        refine becomes_place hCaller hFound ?_ fun _ => rfl
        rintro rfl
        exact .refused hOperation
      · exact hSelf rfl
    · exact hSelf rfl
  | take | drop => exact hSelf rfl
  | other move =>
    rw [Lobby.step]
    split <;> exact hSelf rfl

end Lobby

/-- Steps that an operation to leave a room takes at most. -/
def Operation.toGo : Operation π → Nat
  | unsubscribe _ _ => 3
  | leave _ _ => 2
  | schedule _ _ => 1
  | _ => 0

/-- Steps that a client which hung up takes at most until it has left all rooms. -/
def Caller.toGo (caller : Caller π) : Nat :=
  match caller.operation with
  | some operation => operation.toGo + 3 * (caller.guest.pending.length - 1)
  | none => 0

variable {hub : Hub π} {client : ClientId} {caller after : Caller π}

theorem toGo_next (client : ClientId) (guest : Guest) :
    (Caller.next client guest : Caller π).toGo ≤ 3 * guest.pending.length := by
  unfold Caller.toGo Caller.next
  cases guest.pending with
  | nil => exact Nat.le_refl 0
  | cons call rest =>
    cases call <;> simp only [List.head?_cons, Option.map_some, RoomCall.operation, Operation.toGo,
      List.length_cons, Nat.add_sub_cancel] <;> omega

theorem toGo_answer (client : ClientId) {key : RoomKey} {rest : List RoomCall}
    (hPending : caller.guest.pending = .leave key :: rest) :
    (caller.answer client none).guest.left = caller.guest.left ∧
      (caller.answer client none).toGo ≤ 3 * rest.length := by
  have hStep : (caller.guest.step client (.answer none)).pending = rest ∧
      (caller.guest.step client (.answer none)).left = caller.guest.left := by
    simp only [Guest.step, hPending]
    exact ⟨rfl, rfl⟩
  exact ⟨hStep.2, hStep.1 ▸ toGo_next client _⟩

/-- What a client does after it hung up. -/
inductive Stage.Leaving (client : ClientId) (caller : Caller π) : Prop
  | finished (hPending : caller.guest.pending = []) (hOperation : caller.operation = none)
  | ongoing {key : RoomKey} {rest : List RoomCall} {operation : Operation π}
      (hPending : caller.guest.pending = .leave key :: rest)
      (hOperation : caller.operation = some operation)
      (hKind : operation = .unsubscribe key client ∨ (∃ id, operation = .leave id client) ∨
        ∃ id generation, operation = .schedule id generation)

theorem Fits.leaving (hFits : Fits client hub caller) (hLeft : caller.guest.left = true) :
    Stage.Leaving client caller := by
  cases hFits.stage with
  | resting hPending hOperation => exact .finished hPending hOperation
  | joining hPending =>
    cases hFits.sound.stage with
    | @gone keys _ hAll =>
      cases keys with
      | nil => cases hAll.symm.trans hPending
      | cons => cases hAll.symm.trans hPending
    | listening hHere | joining hHere | leaving hHere => cases hHere.symm.trans hLeft
  | leaving hPending hOperation => exact .ongoing hPending hOperation (.inl rfl)
  | found hPending hOperation => exact .ongoing hPending hOperation (.inr (.inl ⟨_, rfl⟩))
  | scheduling hPending hOperation => exact .ongoing hPending hOperation (.inr (.inr ⟨_, _, rfl⟩))

/-- Every step of a client that hung up brings it nearer to the end. -/
theorem toGo_go (hFits : Fits client hub caller) (hLeft : caller.guest.left = true)
    {operation : Operation π} (hOperation : caller.operation = some operation) :
    (caller.go client operation hub).guest.left = true ∧
      (caller.go client operation hub).toGo < caller.toGo := by
  cases hFits.leaving hLeft with
  | finished _ hNone => cases hNone.symm.trans hOperation
  | @ongoing key rest same hPending hSame hKind =>
    obtain rfl := Option.some.inj (hSame.symm.trans hOperation)
    obtain ⟨hStays, hLess⟩ := toGo_answer client hPending
    have hToGo : caller.toGo = same.toGo + 3 * rest.length := by
      simp only [Caller.toGo, hSame, hPending, List.length_cons, Nat.add_sub_cancel]
    have hPositive : 0 < same.toGo ∧ same.refusal hub = none := by
      rcases hKind with rfl | ⟨_, rfl⟩ | ⟨_, _, rfl⟩ <;> exact ⟨by simp [Operation.toGo], rfl⟩
    have hMore : (same.step hub).1 = none ∨
        ∃ more, (same.step hub).1 = some more ∧ more.toGo < same.toGo := by
      rcases hKind with rfl | ⟨id, rfl⟩ | ⟨id, generation, rfl⟩
      · rw [Operation.step]
        cases hub.rooms.find? key with
        | none => exact .inl rfl
        | some id => exact .inr ⟨_, rfl, by simp [Operation.toGo]⟩
      · rcases hub.step_leave_cases id client with ⟨hNone, -⟩ | ⟨_, _, -, -, -, hSome⟩
        · exact .inl hNone
        · exact .inr ⟨_, hSome, by simp [Operation.toGo]⟩
      · exact .inl rfl
    rw [Caller.go, hPositive.2]
    rcases hMore with hNone | ⟨more, hSome, hFewer⟩
    · rw [hNone]
      refine ⟨hStays.trans hLeft, ?_⟩
      dsimp only
      omega
    · rw [hSome]
      refine ⟨hLeft, ?_⟩
      have hNext : Caller.toGo { caller with operation := some more } =
          more.toGo + 3 * rest.length := by
        simp only [Caller.toGo, hPending, List.length_cons, Nat.add_sub_cancel]
      dsimp only
      omega

namespace Lobby

variable {kind : FeedKind} {config : HubConfig} {moves : List (Move π)}

theorem toGo_step {lobby : Lobby π} (hSound : lobby.Sound)
    (hCaller : lobby.callers[client]? = some caller) (hLeft : caller.guest.left = true)
    (move : Move π) :
    ∃ after, (lobby.step move).callers[client]? = some after ∧ after.guest.left = true ∧
      after.toGo ≤ caller.toGo - [move].countP (Move.isStepOf client) := by
  obtain ⟨after, hAfter, hBecomes⟩ := becomes_step hCaller move
  refine ⟨after, hAfter, ?_⟩
  have hFits := hSound.fits hCaller
  have hMost : [move].countP (Move.isStepOf client) ≤ 1 := List.countP_le_length
  cases hBecomes with
  | same hNone =>
    refine ⟨hLeft, ?_⟩
    by_cases hStep : move.isStepOf client = true
    · simp [Caller.toGo, hNone hStep]
    · simp [hStep]
  | @meets event hNot =>
    have hDeaf : caller.meet client event = caller := if_neg (by simp [Guest.listens, hLeft])
    rw [hDeaf]
    exact ⟨hLeft, by simp [hNot]⟩
  | goes hOperation =>
    obtain ⟨hStays, hLess⟩ := toGo_go hFits hLeft hOperation
    exact ⟨hStays, by omega⟩
  | refused hOperation =>
    cases hFits.leaving hLeft with
    | finished _ hNone => cases hNone.symm.trans hOperation
    | ongoing _ hSame hKind =>
      obtain rfl := Option.some.inj (hSame.symm.trans hOperation)
      rcases hKind with hKind | ⟨_, hKind⟩ | ⟨_, _, hKind⟩ <;> cases hKind

theorem toGo_run (hCaller : (run kind config moves).callers[client]? = some caller)
    (hLeft : caller.guest.left = true) (later : List (Move π)) :
    ∃ after, (run kind config (moves ++ later)).callers[client]? = some after ∧
      after.guest.left = true ∧ after.toGo ≤ caller.toGo - later.countP (Move.isStepOf client) := by
  induction later using List.reverseRecOn with
  | nil => exact ⟨caller, by rwa [List.append_nil], hLeft, by simp⟩
  | append_singleton later move ih =>
    obtain ⟨middle, hMiddle, hStays, hLess⟩ := ih
    obtain ⟨after, hAfter, hStill, hFewer⟩ :=
      toGo_step (sound_run kind config (moves ++ later)) hMiddle hStays move
    rw [← List.append_assoc, run_snoc]
    refine ⟨after, hAfter, hStill, ?_⟩
    rw [List.countP_append]
    omega

/-! ## What clients and rooms agree on -/

/-- Whoever is a member of a room is in it with its own mailbox. -/
theorem Sound.mem_members {lobby : Lobby π} (hSound : lobby.Sound) {id : RoomId} {room : Room π}
    (hRoom : lobby.hub.rooms.get? id = some room) (hMember : room.hasMember client = true) :
    (client, client) ∈ lobby.hub.members id := by
  obtain ⟨⟨owner, mailbox⟩, hIn, hSame⟩ := List.any_eq_true.mp hMember
  obtain rfl : owner = client := by simpa using hSame
  have hMembers := members_of_get? hRoom ▸ hIn
  obtain rfl : mailbox = owner := (hSound.members hMembers).1
  exact hMembers

theorem Sound.seated_iff {lobby : Lobby π} (hSound : lobby.Sound) {key : RoomKey} :
    lobby.hub.Seated key client ↔ ∃ id room, lobby.hub.rooms.find? key = some id ∧
      lobby.hub.rooms.get? id = some room ∧ room.hasMember client = true := by
  constructor
  · rintro ⟨id, hKey, hMember⟩
    obtain ⟨room, hRoom, hIn⟩ := exists_of_mem_members hMember
    exact ⟨id, room, find?_of_member hSound.tidy.indexed hMember hKey, hRoom,
      List.any_eq_true.mpr ⟨_, hIn, by simp⟩⟩
  · rintro ⟨id, room, hFind, hRoom, hMember⟩
    obtain ⟨same, hSame, hKey⟩ :=
      hSound.tidy.indexed.entries (hSound.tidy.indexed.find?_iff.mp hFind)
    exact ⟨id, Option.map_eq_some_iff.mpr ⟨same, hSame, hKey⟩, hSound.mem_members hRoom hMember⟩

/-- A client that holds its rooms is in them. -/
theorem Sound.held_iff {lobby : Lobby π} (hSound : lobby.Sound)
    (hCaller : lobby.callers[client]? = some caller) (hHere : caller.guest.left = false)
    (hOpen : lobby.hub.boxes.isOpen client = true) {key : RoomKey}
    (hCall : ∀ call ∈ caller.guest.pending, call.key ≠ key) :
    caller.guest.held.contains key = true ↔ lobby.hub.Seated key client := by
  have hFits := hSound.fits hCaller
  rw [← Guest.keeps_of_here hHere, ← hFits.sound.joined]
  refine ⟨fun hJoined => (hFits.all hOpen hJoined).resolve_right fun hHead => ?_, hFits.only⟩
  exact hCall _ (List.mem_of_head? hHead) rfl

/-- A client that has left all its rooms is in none. -/
theorem Sound.not_member {lobby : Lobby π} (hSound : lobby.Sound)
    (hCaller : lobby.callers[client]? = some caller) (hLeft : caller.guest.left = true)
    (hOver : caller.toGo = 0) {id : RoomId} {room : Room π}
    (hRoom : lobby.hub.rooms.get? id = some room) : room.hasMember client = false := by
  have hFits := hSound.fits hCaller
  have hPending : caller.guest.pending = [] := by
    cases hFits.leaving hLeft with
    | finished hPending => exact hPending
    | ongoing _ hOperation =>
      have hLess := (toGo_go hFits hLeft hOperation).2
      omega
  cases hMember : room.hasMember client with
  | false => rfl
  | true =>
    have hSeated : lobby.hub.Seated room.key client :=
      ⟨id, Option.map_eq_some_iff.mpr ⟨room, hRoom, rfl⟩, hSound.mem_members hRoom hMember⟩
    have hKeeps := (hFits.sound.joined _).mp (hFits.only hSeated)
    rw [Guest.keeps_of_left hLeft, hPending] at hKeeps
    cases hKeeps

/-- Nothing is seen of a change that is none. -/
theorem map_set_of_same {α β : Type} {f : α → β} {entries : List α} {place : Nat} {entry next : α}
    (hAt : entries[place]? = some entry) (hSame : f next = f entry) :
    (entries.set place next).map f = entries.map f := by
  have hMapped : (entries.map f)[place]? = some (f entry) := by rw [List.getElem?_map, hAt]; rfl
  obtain ⟨_, hGet⟩ := List.getElem?_eq_some_iff.mp hMapped
  rw [List.map_set, hSame, ← hGet, List.set_getElem_self]

theorem refuse_step {lobby : Lobby π} (hSound : lobby.Sound) (client : ClientId)
    (failure : JoinError) :
    (lobby.step (.refuse client failure)).hub = lobby.hub ∧
      (lobby.step (.refuse client failure)).callers.map (·.guest.held) =
        lobby.callers.map (·.guest.held) ∧
      (lobby.step (.refuse client failure)).callers.map (·.guest.calls) =
        lobby.callers.map (·.guest.calls) := by
  rw [Lobby.step]
  split
  · next caller hCaller =>
    split
    · next hOperation =>
      cases (hSound.fits hCaller).stage with
      | joining hPending =>
        obtain ⟨hCalls, hHeld⟩ := Guest.calls_of_refusal client hPending failure
        exact ⟨rfl, map_set_of_same hCaller hHeld, map_set_of_same hCaller hCalls⟩
      | resting _ hSame | leaving _ hSame | found _ hSame | scheduling _ hSame =>
        cases hOperation.symm.trans hSame
    · exact ⟨rfl, rfl, rfl⟩
  · exact ⟨rfl, rfl, rfl⟩

theorem hangUp_step {lobby : Lobby π} (hCaller : lobby.callers[client]? = some caller)
    (hListens : caller.guest.listens = true) :
    ∃ after, (lobby.step (.hangUp client)).callers[client]? = some after ∧
      after.guest.left = true ∧ after.toGo ≤ 3 * caller.guest.held.size := by
  have hMeet : caller.meet client .hangUp = .next client (caller.guest.step client .hangUp) :=
    if_pos hListens
  refine ⟨caller.meet client .hangUp, ?_, ?_⟩
  · simp only [Lobby.step, Lobby.meet, hCaller]
    exact List.getElem?_set_self (lt_of_caller hCaller)
  · rw [hMeet]
    have hToGo : (Caller.next client (caller.guest.step client .hangUp) : Caller π).toGo ≤ _ :=
      toGo_next client _
    rw [Guest.step, if_pos hListens] at hToGo ⊢
    refine ⟨rfl, hToGo.trans_eq ?_⟩
    show 3 * (ClientSession.leaveAll .notes client caller.guest.held []).length = _
    rw [ClientSession.leaveAll_notes, List.length_map]
    rfl

/-- What holds of a hub and its clients after some moves. -/
structure Agrees (kind : FeedKind) (config : HubConfig) (moves : List (Move π)) : Prop where
  /-- A client whose mailbox is open holds the rooms that have it as a member; while a call is under
  way, this is so of all rooms but the one that is called for. -/
  held {client : ClientId} {caller : Caller π}
    (hCaller : (run kind config moves).callers[client]? = some caller)
    (hHere : caller.guest.left = false)
    (hOpen : (run kind config moves).hub.boxes.isOpen client = true) (key : RoomKey)
    (hCall : ∀ call ∈ caller.guest.pending, call.key ≠ key) :
    caller.guest.held.contains key = true ↔
      ∃ id room, (run kind config moves).hub.rooms.find? key = some id ∧
        (run kind config moves).hub.rooms.get? id = some room ∧ room.hasMember client = true
  /-- The calls for a room that were not refused join it, leave it, join it, and so on. -/
  calls {client : ClientId} {caller : Caller π}
    (hCaller : (run kind config moves).callers[client]? = some caller) (key : RoomKey) :
    Guest.Alternates caller.guest.calls key
  /-- A call that is refused changes neither the hub nor what its client holds. -/
  refused (client : ClientId) (failure : JoinError) :
    (run kind config (moves ++ [.refuse client failure])).hub = (run kind config moves).hub ∧
      (run kind config (moves ++ [.refuse client failure])).callers.map (·.guest.held) =
        (run kind config moves).callers.map (·.guest.held) ∧
      (run kind config (moves ++ [.refuse client failure])).callers.map (·.guest.calls) =
        (run kind config moves).callers.map (·.guest.calls)
  /-- A client that hangs up is in no room after at most three steps for each room that it held,
  whatever comes between them. -/
  gone {client : ClientId} {caller : Caller π}
    (hCaller : (run kind config moves).callers[client]? = some caller)
    (hListens : caller.guest.listens = true) (later : List (Move π))
    (hSteps : 3 * caller.guest.held.size ≤ later.countP (Move.isStepOf client)) (id : RoomId)
    (room : Room π)
    (hRoom : (run kind config (moves ++ .hangUp client :: later)).hub.rooms.get? id = some room) :
    room.hasMember client = false

/-- **What a client holds is where it is.** Whatever comes between the steps of clients, writers,
feeds and timers on a hub that nobody shuts down: between its calls, a client whose mailbox is open
holds exactly the rooms that have it as a member, the calls that it makes for a room join and leave
it in turn, and a client that hung up ends up in no room. -/
theorem held_rooms_are_joined (kind : FeedKind) (config : HubConfig) (moves : List (Move π)) :
    Agrees kind config moves where
  held hCaller hHere hOpen _ hCall :=
    ((sound_run kind config moves).held_iff hCaller hHere hOpen hCall).trans
      (sound_run kind config moves).seated_iff
  calls hCaller key := ((sound_run kind config moves).fits hCaller).sound.alternates key
  refused client failure := by
    rw [run_snoc]
    exact refuse_step (sound_run kind config moves) client failure
  gone {client caller} hCaller hListens later hSteps id room hRoom := by
    obtain ⟨middle, hMiddle, hLeft, hMost⟩ := hangUp_step hCaller hListens
    rw [← run_snoc] at hMiddle
    obtain ⟨after, hAfter, hStill, hLess⟩ := toGo_run hMiddle hLeft later
    rw [List.append_cons] at hRoom
    exact (sound_run kind config _).not_member hAfter hStill (by omega) hRoom

/-! ## Two visitors -/

def briefly : HubConfig := ⟨10, .immediate 1⟩

def visitedRoom : RoomKey := ⟨"BTCUSDT", none⟩

def visitText : String := "\x7b\"action\":\"subscribe\",\"symbol\":\"btcusdt\"\x7d"

def quitText : String := "\x7b\"action\":\"unsubscribe\",\"symbol\":\"BTCUSDT\"\x7d"

/-- Two clients ask for the same room, and take the steps into it in turn. -/
def visitMoves : List (Move Nat) :=
  [.connect none 4, .connect none 4, .frame 0 visitText, .go 0, .frame 1 visitText, .go 1, .go 0,
    .go 1]

/-- The steps of the first one out of the room, while the second one asks to leave it as well. -/
def quitMoves : List (Move Nat) := [.go 0, .frame 1 quitText, .go 1, .go 0, .go 0]

/-- The first client is in the room that it holds, and in none after it hung up. -/
theorem visitors_are_in_their_room :
    (∃ id room, (run .markPrice briefly visitMoves).hub.rooms.find? visitedRoom = some id ∧
      (run .markPrice briefly visitMoves).hub.rooms.get? id = some room ∧
      room.hasMember 0 = true) ∧
    ∀ id room, (run .markPrice briefly
        (visitMoves ++ .hangUp 0 :: quitMoves)).hub.rooms.get? id = some room →
      room.hasMember 0 = false := by
  have hAgrees := held_rooms_are_joined .markPrice briefly visitMoves
  have hSeen : (run .markPrice briefly visitMoves).callers[0]?.map
      (fun caller => (caller.guest.left, caller.guest.pending, caller.guest.held.keys)) =
        some (false, [], [visitedRoom]) := by decide +kernel
  obtain ⟨caller, hCaller, hStands⟩ := Option.map_eq_some_iff.mp hSeen
  obtain ⟨hHere, hPending, hKeys⟩ : caller.guest.left = false ∧ caller.guest.pending = [] ∧
      caller.guest.held.keys = [visitedRoom] := by simpa using hStands
  have hOpen : (run .markPrice briefly visitMoves).hub.boxes.isOpen 0 = true := by decide +kernel
  have hHeld : caller.guest.held.contains visitedRoom = true := by
    simp [HeldRooms.contains, hKeys]
  refine ⟨(hAgrees.held hCaller hHere hOpen visitedRoom ?_).mp hHeld, ?_⟩
  · intro call hCall
    rw [hPending] at hCall
    cases hCall
  · intro id room hRoom
    have hListens : caller.guest.listens = true := by simp [Guest.listens, hHere, hPending]
    have hSteps : 3 * caller.guest.held.size ≤ quitMoves.countP (Move.isStepOf 0) := by
      simp only [HeldRooms.size, hKeys]
      decide
    exact hAgrees.gone hCaller hListens quitMoves hSteps id room hRoom

end Lobby

end Hub

end MarketGateway
