import MarketGateway.Proofs.Hub.Admission
import MarketGateway.Proofs.Room.Delivery

/-!
# Who is in the rooms

Only a subscription brings somebody into a room. Somebody whose mailbox is open gets out of it again
only by leaving it, or by joining it anew: a broadcast removes those whose mailbox is closed, and a
room that is torn down is empty. `Hub.Reseats` says that of two hubs, with those who come in and
those who leave, `Operation.reseats` of every step of an operation and `Traffic.reseats` of what
happens besides.
-/

namespace MarketGateway

variable {π : Type}

namespace Mailboxes

@[simp] theorem isOpen_post (boxes : Mailboxes π) (id other : MailboxId) (payload : π) :
    (boxes.post id payload).2.isOpen other = boxes.isOpen other := by
  rw [isOpen, isOpen, lookup_post]
  split
  · cases boxes.lookup other with
    | none => rfl
    | some queue =>
      rw [Option.map_some, Option.any_some, Option.any_some]
      unfold Queue.offer
      split
      · rfl
      · split <;> rfl
  · rfl

end Mailboxes

namespace Room

/-- A delivery keeps those whose mailbox is open, and opens and closes none. -/
theorem deliver_kept (payload : π) (members : List (ClientId × MailboxId)) (stats : BroadcastStats)
    (boxes : Mailboxes π) :
    (deliver payload members stats boxes).2.1 =
        members.filter (fun member => boxes.isOpen member.2) ∧
      ∀ id, (deliver payload members stats boxes).2.2.isOpen id = boxes.isOpen id := by
  induction members generalizing stats boxes with
  | nil => exact ⟨rfl, fun _ => rfl⟩
  | cons member rest ih =>
    obtain ⟨client, mailbox⟩ := member
    have hClosed := boxes.post_closed_iff mailbox payload
    have hSame (id : MailboxId) := boxes.isOpen_post mailbox id payload
    rw [deliver]
    generalize boxes.post mailbox payload = posted at hClosed hSame
    obtain ⟨offer, after⟩ := posted
    dsimp only at hClosed hSame
    have hRest (stats : BroadcastStats) := ih stats after
    simp only [hSame] at hRest
    cases offer with
    | accepted | full =>
      have hOpen : boxes.isOpen mailbox = true := by simpa using hClosed
      simpa [hOpen] using hRest _
    | closed =>
      have hShut : boxes.isOpen mailbox = false := by simpa using hClosed
      simpa [hShut] using hRest _

/-- Who is in a room after a change, and who was in it before; the mailboxes stay open or closed. -/
structure Reseats (joins : ClientId × MailboxId → Prop) (leaves : ClientId → Prop)
    (room next : Room π) (boxes after : Mailboxes π) : Prop where
  came : ∀ member ∈ next.members, member ∈ room.members ∨ joins member
  stayed : ∀ member ∈ room.members, boxes.isOpen member.2 = true →
    member ∈ next.members ∨ leaves member.1
  boxes : ∀ id, after.isOpen id = boxes.isOpen id

variable {joins : ClientId × MailboxId → Prop} {leaves : ClientId → Prop}

theorem Reseats.refl (room : Room π) (boxes : Mailboxes π) :
    Reseats joins leaves room room boxes boxes :=
  ⟨fun _ => .inl, fun _ hIn _ => .inl hIn, fun _ => rfl⟩

theorem reseats_join (room : Room π) (client : ClientId) (mailbox : MailboxId)
    (boxes : Mailboxes π) :
    Reseats (· = (client, mailbox)) (· = client) room (room.join client mailbox boxes).2.1 boxes
      (room.join client mailbox boxes).2.2 := by
  unfold join
  split
  · exact .refl room boxes
  · refine ⟨fun member hAfter => ?_, fun member hIn _ => ?_, fun id => ?_⟩
    · exact (List.mem_append.mp hAfter).imp (fun hOld => (List.mem_filter.mp hOld).1)
        List.mem_singleton.mp
    · by_cases hSame : member.1 = client
      · exact .inr hSame
      · exact .inl (List.mem_append_left _ (List.mem_filter.mpr ⟨hIn, by simpa using hSame⟩))
    · dsimp only
      split
      · exact boxes.isOpen_post _ _ _
      · rfl

/-- Who leaves a room is out of it. -/
theorem reseats_leave (room : Room π) (client : ClientId) (boxes : Mailboxes π) :
    Reseats (fun _ => False) (· = client) room (room.leave client).2 boxes boxes ∧
      ∀ member ∈ (room.leave client).2.members, member.1 ≠ client := by
  unfold leave
  split
  · refine ⟨⟨fun member hAfter => .inl (List.mem_filter.mp hAfter).1, fun member hIn _ => ?_,
      fun _ => rfl⟩, fun member hAfter => by simpa using (List.mem_filter.mp hAfter).2⟩
    by_cases hSame : member.1 = client
    · exact .inr hSame
    · exact .inl (List.mem_filter.mpr ⟨hIn, by simpa using hSame⟩)
  · next hNot =>
    refine ⟨.refl room boxes, fun member hIn hSame => hNot ?_⟩
    exact List.any_eq_true.mpr ⟨member, hIn, by simpa using hSame⟩

theorem reseats_closeIfIdle (room : Room π) (generation : Nat) (boxes : Mailboxes π) :
    Reseats joins leaves room (room.closeIfIdle generation).2 boxes boxes := by
  unfold closeIfIdle
  split <;> exact ⟨fun _ => .inl, fun _ hIn _ => .inl hIn, fun _ => rfl⟩

theorem reseats_broadcast (room : Room π) (payload : π) (boxes : Mailboxes π) :
    Reseats joins leaves room (room.broadcast payload boxes).2.1 boxes
      (room.broadcast payload boxes).2.2 := by
  unfold broadcast
  split
  · exact .refl room boxes
  · obtain ⟨hKept, hBoxes⟩ := deliver_kept payload room.members {} boxes
    generalize deliver payload room.members {} boxes = result at hKept hBoxes
    obtain ⟨stats, kept, after⟩ := result
    obtain rfl : kept = _ := hKept
    exact ⟨fun member hAfter => .inl (List.mem_filter.mp hAfter).1,
      fun member hIn hOpen => .inl (List.mem_filter.mpr ⟨hIn, hOpen⟩), hBoxes⟩

end Room

namespace Hub

variable {hub next last : Hub π} {id : RoomId} {client : ClientId}

/-- The members of a room; there are none of a room that was never made. -/
def members (hub : Hub π) (id : RoomId) : List (ClientId × MailboxId) :=
  ((hub.rooms.get? id).map Room.members).getD []

theorem members_of_get? {room : Room π} (hRoom : hub.rooms.get? id = some room) :
    hub.members id = room.members := by
  rw [members, hRoom, Option.map_some, Option.getD_some]

/-- Who may have come into a room, or gone out of it with an open mailbox. -/
structure Reseats (joins : RoomId → ClientId × MailboxId → Prop) (leaves : RoomId → ClientId → Prop)
    (hub next : Hub π) : Prop where
  came {id : RoomId} {member : ClientId × MailboxId} (hAfter : member ∈ next.members id) :
    member ∈ hub.members id ∨ joins id member
  stayed {id : RoomId} {member : ClientId × MailboxId} (hBefore : member ∈ hub.members id)
    (hOpen : hub.boxes.isOpen member.2 = true) : member ∈ next.members id ∨ leaves id member.1
  boxes (id : MailboxId) : next.boxes.isOpen id = hub.boxes.isOpen id

variable {joins : RoomId → ClientId × MailboxId → Prop} {leaves : RoomId → ClientId → Prop}

theorem Reseats.mono {more : RoomId → ClientId × MailboxId → Prop}
    {others : RoomId → ClientId → Prop} (hReseats : Reseats joins leaves hub next)
    (hJoins : ∀ id member, joins id member → more id member)
    (hLeaves : ∀ id client, leaves id client → others id client) :
    Reseats more others hub next where
  came hAfter := (hReseats.came hAfter).imp_right (hJoins _ _)
  stayed hIn hOpen := (hReseats.stayed hIn hOpen).imp_right (hLeaves _ _)
  boxes := hReseats.boxes

theorem Reseats.trans (hFirst : Reseats joins leaves hub next)
    (hSecond : Reseats joins leaves next last) : Reseats joins leaves hub last where
  came hAfter := (hSecond.came hAfter).elim hFirst.came .inr
  stayed hBefore hOpen :=
    (hFirst.stayed hBefore hOpen).elim (hSecond.stayed · (hFirst.boxes _ ▸ hOpen)) .inr
  boxes id := (hSecond.boxes id).trans (hFirst.boxes id)

theorem reseats_of_members (hMembers : ∀ id, next.members id = hub.members id)
    (hBoxes : ∀ id, next.boxes.isOpen id = hub.boxes.isOpen id) :
    Reseats joins leaves hub next where
  came {id _} hAfter := .inl (hMembers id ▸ hAfter)
  stayed {id _} hBefore _ := .inl (hMembers id ▸ hBefore)
  boxes := hBoxes

theorem reseats_of_rooms (hRooms : ∀ id, next.rooms.get? id = hub.rooms.get? id)
    (hBoxes : next.boxes = hub.boxes) : Reseats joins leaves hub next :=
  reseats_of_members (fun id => by rw [members, members, hRooms]) fun _ => by rw [hBoxes]

theorem Undisturbed.members (hSame : hub.Undisturbed next) (id : RoomId) :
    next.members id = hub.members id := by
  have hStill (room : Option (Room π)) :
      room.map Room.members = (room.map Room.still).map Room.members := by
    rw [Option.map_map]
    rfl
  rw [Hub.members, hStill, hSame.rooms id, ← hStill, Hub.members]

theorem Undisturbed.reseats (hSame : hub.Undisturbed next) : Reseats joins leaves hub next :=
  reseats_of_members hSame.members fun _ => by rw [hSame.boxes]

/-- One room is changed. -/
theorem reseats_set {room after : Room π} (hRoom : hub.rooms.get? id = some room)
    (hRooms : next.rooms = hub.rooms.set id after)
    (hReseats : room.Reseats (joins id) (leaves id) after hub.boxes next.boxes) :
    Reseats joins leaves hub next := by
  have hBefore := members_of_get? hRoom
  have hMembers (other : RoomId) :
      next.members other = if id = other then after.members else hub.members other := by
    rw [members, hRooms, Rooms.get?_set]
    split
    · next hSame =>
      rw [← hSame, hRoom]
      rfl
    · rfl
  refine ⟨fun {other member} hAfter => ?_, fun {other member} hIn hOpen => ?_, hReseats.boxes⟩
  · rw [hMembers] at hAfter
    split at hAfter
    · next hSame =>
      subst hSame
      exact hBefore ▸ hReseats.came member hAfter
    · exact .inl hAfter
  · rw [hMembers]
    split
    · next hSame =>
      subst hSame
      exact hReseats.stayed member (hBefore ▸ hIn) hOpen
    · exact .inl hIn

/-! ## Steps -/

theorem reseats_getOrMake (hub : Hub π) (key : RoomKey) :
    Reseats joins leaves hub (hub.getOrMake key).2 := by
  obtain ⟨hKept, hMade⟩ := hub.rooms.getOrMake_spec key
  refine reseats_of_members (fun id => ?_) fun _ => rfl
  show ((((hub.rooms.getOrMake key).2.get? id).map Room.members).getD []) = _
  unfold members
  cases hBefore : hub.rooms.get? id with
  | some room => rw [hKept id room hBefore]
  | none =>
    cases hAfter : (hub.rooms.getOrMake key).2.get? id with
    | none => rfl
    | some room =>
      rw [(hMade id room hBefore hAfter).2]
      rfl

theorem reseats_joinRoom (hub : Hub π) (room : RoomId) (client : ClientId) (mailbox : MailboxId) :
    Reseats (fun id member => id = room ∧ member = (client, mailbox))
      (fun id other => id = room ∧ other = client) hub (hub.joinRoom room client mailbox).2 := by
  unfold joinRoom
  cases hRoom : hub.rooms.get? room with
  | none => exact reseats_of_rooms (fun _ => rfl) rfl
  | some r =>
    obtain ⟨hCame, hStayed, hBoxes⟩ := r.reseats_join client mailbox hub.boxes
    exact reseats_set hRoom rfl ⟨fun member hAfter => (hCame member hAfter).imp_right (⟨rfl, ·⟩),
      fun member hIn hOpen => (hStayed member hIn hOpen).imp_right (⟨rfl, ·⟩), hBoxes⟩

theorem reseats_leaveRoom (hub : Hub π) (room : RoomId) (client : ClientId) :
    Reseats (fun _ _ => False) (fun id other => id = room ∧ other = client) hub
        (hub.leaveRoom room client).2 ∧
      ∀ member ∈ (hub.leaveRoom room client).2.members room, member.1 ≠ client := by
  unfold leaveRoom
  cases hRoom : hub.rooms.get? room with
  | none => exact ⟨reseats_of_rooms (fun _ => rfl) rfl, by simp [members, hRoom]⟩
  | some r =>
    obtain ⟨⟨hCame, hStayed, hBoxes⟩, hOut⟩ := r.reseats_leave client hub.boxes
    refine ⟨reseats_set hRoom rfl ⟨hCame,
      fun member hIn hOpen => (hStayed member hIn hOpen).imp_right (⟨rfl, ·⟩), hBoxes⟩, ?_⟩
    have hAfter : (hub.rooms.set room (r.leave client).2).get? room = some (r.leave client).2 := by
      rw [Rooms.get?_set, if_pos rfl, hRoom, Option.map_some]
    rw [members_of_get? hAfter]
    exact hOut

theorem reseats_closeIfIdle (hub : Hub π) (room : RoomId) (generation : Nat) :
    Reseats joins leaves hub (hub.closeIfIdle room generation).2 := by
  unfold closeIfIdle
  cases hRoom : hub.rooms.get? room with
  | none => exact reseats_of_rooms (fun _ => rfl) rfl
  | some r => exact reseats_set hRoom rfl (r.reseats_closeIfIdle generation hub.boxes)

theorem reseats_broadcastTo (hub : Hub π) (room : RoomId) (payload : π) :
    Reseats joins leaves hub (hub.broadcastTo room payload).2 := by
  unfold broadcastTo
  cases hRoom : hub.rooms.get? room with
  | none => exact reseats_of_rooms (fun _ => rfl) rfl
  | some r => exact reseats_set hRoom rfl (r.reseats_broadcast payload hub.boxes)

/-- The operation is about to bring a member into a room. -/
inductive Operation.Joins : Operation π → RoomId → ClientId × MailboxId → Prop
  | subscribe {key : RoomKey} {client : ClientId} {mailbox : MailboxId} {room : RoomId} :
      Joins (.subscribe key client mailbox (.joining room)) room (client, mailbox)

/-- The operation is about to take a client out of a room, if only to let it in anew. -/
inductive Operation.Leaves : Operation π → RoomId → ClientId → Prop
  | leave {room : RoomId} {client : ClientId} : Leaves (.leave room client) room client
  | subscribe {key : RoomKey} {client : ClientId} {mailbox : MailboxId} {room : RoomId} :
      Leaves (.subscribe key client mailbox (.joining room)) room client

theorem reseats_subscribing (key : RoomKey) (client : ClientId) (mailbox : MailboxId)
    (progress : Subscribing) (hub : Hub π) :
    Reseats (Operation.subscribe key client mailbox progress : Operation π).Joins
      (Operation.subscribe key client mailbox progress : Operation π).Leaves hub
      (progress.step key client mailbox hub).2 := by
  cases progress with
  | looking =>
    rw [Subscribing.step]
    split
    · exact reseats_of_rooms (fun _ => rfl) rfl
    · exact hub.reseats_getOrMake key
  | joining room =>
    have hJoin : Reseats
        (Operation.subscribe key client mailbox (.joining room) : Operation π).Joins
        (Operation.subscribe key client mailbox (.joining room) : Operation π).Leaves hub
        (hub.joinRoom room client mailbox).2 := by
      refine (hub.reseats_joinRoom room client mailbox).mono ?_ ?_
      · rintro _ _ ⟨rfl, rfl⟩
        exact .subscribe
      · rintro _ _ ⟨rfl, rfl⟩
        exact .subscribe
    rw [Subscribing.step]
    generalize hub.joinRoom room client mailbox = result at hJoin
    obtain ⟨_ | start, next⟩ := result
    · exact hJoin
    · dsimp only
      split
      · exact hJoin.trans (undisturbed_startFeed next room).reseats
      · exact hJoin
  | discarding room => exact reseats_of_rooms (fun _ => rfl) rfl
  | done => exact reseats_of_rooms (fun _ => rfl) rfl

theorem Operation.reseats (operation : Operation π) (hub : Hub π) :
    Reseats operation.Joins operation.Leaves hub (operation.step hub).2 := by
  cases operation with
  | subscribe key client mailbox progress =>
    rw [step_subscribe]
    exact reseats_subscribing key client mailbox progress hub
  | unsubscribe | broadcast | read | schedule => exact reseats_of_rooms (fun _ => rfl) rfl
  | leave room client =>
    rw [step_leave]
    refine (hub.reseats_leaveRoom room client).1.mono (fun _ _ => False.elim) ?_
    rintro _ _ ⟨rfl, rfl⟩
    exact .leave
  | send room payload => exact hub.reseats_broadcastTo room payload
  | publish room payload =>
    rw [step_publish]
    obtain ⟨hCame, hStayed, hBoxes⟩ : Reseats (publish room payload : Operation π).Joins
        (publish room payload : Operation π).Leaves _ _ :=
      reseats_broadcastTo { hub with state := hub.state.message } room payload
    exact ⟨hCame, hStayed, hBoxes⟩
  | teardown room generation =>
    have hClose : Reseats (teardown room generation : Operation π).Joins
        (teardown room generation : Operation π).Leaves hub (hub.closeIfIdle room generation).2 :=
      hub.reseats_closeIfIdle room generation
    rw [step]
    split
    · exact reseats_of_rooms (fun _ => rfl) rfl
    · generalize hub.closeIfIdle room generation = result at hClose
      obtain ⟨_ | _, next⟩ := result <;> exact hClose
  | remove room =>
    have hRemove : Reseats (remove room : Operation π).Joins (remove room : Operation π).Leaves hub
        (hub.removeIfSame room) := reseats_of_rooms (fun _ => rfl) rfl
    exact hRemove.trans (undisturbed_release _).reseats

namespace Traffic

variable {traffic : Traffic π} {move : Move π}

/-- What happens besides steps of operations brings nobody into a room, and takes nobody out who has
an open mailbox. -/
theorem reseats (traffic : Traffic π) (hGo : ∀ index, move ≠ .go index)
    (hBoxes : ∀ boxes, move ≠ .mailboxes boxes) :
    Reseats joins leaves traffic.hub (traffic.step move).hub := by
  cases move with
  | request | wait => exact reseats_of_rooms (fun _ => rfl) rfl
  | go index => exact absurd rfl (hGo index)
  | fire index =>
    obtain ⟨timers, hHub | ⟨task, hHub⟩⟩ := traffic.step_fire index <;> rw [hHub]
    · exact reseats_of_rooms (fun _ => rfl) rfl
    · obtain ⟨hCame, hStayed, hBoxes⟩ : Reseats joins leaves _ _ :=
        (undisturbed_wake { traffic.hub with timers := timers } task).reseats
      exact ⟨hCame, hStayed, hBoxes⟩
  | mailboxes boxes => exact absurd rfl (hBoxes boxes)
  | connected task => exact (undisturbed_connected _ _).reseats
  | ended task error offset => exact (undisturbed_ended _ _ _ _).reseats
  | wake task => exact (undisturbed_wake _ _).reseats

end Traffic

/-! ## A client among others -/

variable {key : RoomKey}

/-- The key of a room that was made. -/
def keyOf? (hub : Hub π) (id : RoomId) : Option RoomKey := (hub.rooms.get? id).map Room.key

/-- A client is in a room of the key, with its own mailbox. -/
def Seated (hub : Hub π) (key : RoomKey) (client : ClientId) : Prop :=
  ∃ id, hub.keyOf? id = some key ∧ (client, client) ∈ hub.members id

theorem Shifts.keyOf? (hShifts : hub.Shifts next) {id : RoomId} (hKey : hub.keyOf? id = some key) :
    next.keyOf? id = some key := by
  obtain ⟨room, hRoom, rfl⟩ := Option.map_eq_some_iff.mp hKey
  obtain ⟨after, hAfter, hChange⟩ := hShifts.rooms hRoom
  exact Option.map_eq_some_iff.mpr ⟨after, hAfter, hChange.evolves.key⟩

/-- A room in which somebody is was made. -/
theorem exists_of_mem_members {id : RoomId} {member : ClientId × MailboxId}
    (hMember : member ∈ hub.members id) :
    ∃ room, hub.rooms.get? id = some room ∧ member ∈ room.members := by
  unfold members at hMember
  cases hRoom : hub.rooms.get? id with
  | none => simp [hRoom] at hMember
  | some room => exact ⟨room, rfl, by simpa [hRoom] using hMember⟩

theorem Shifts.keyOf?_of_mem (hShifts : hub.Shifts next) {id : RoomId}
    {member : ClientId × MailboxId} (hMember : member ∈ hub.members id)
    (hKey : next.keyOf? id = some key) :
    hub.keyOf? id = some key := by
  obtain ⟨room, hRoom, -⟩ := exists_of_mem_members hMember
  have hBefore : hub.keyOf? id = some room.key := Option.map_eq_some_iff.mpr ⟨room, hRoom, rfl⟩
  rw [← hKey, hBefore, hShifts.keyOf? hBefore]

/-- Who is in a room of a key is in the one that the key leads to. -/
theorem find?_of_member (hIndexed : hub.rooms.Indexed) {id : RoomId}
    {member : ClientId × MailboxId} (hMember : member ∈ hub.members id)
    (hKey : hub.keyOf? id = some key) : hub.rooms.find? key = some id := by
  obtain ⟨room, hRoom, hIn⟩ := exists_of_mem_members hMember
  obtain ⟨same, hSame, rfl⟩ := Option.map_eq_some_iff.mp hKey
  obtain rfl := Option.some.inj (hRoom.symm.trans hSame)
  exact hIndexed.find?_of_open hRoom (hIndexed.open_of_member hRoom (List.ne_nil_of_mem hIn))

section

variable {joins : RoomId → ClientId × MailboxId → Prop} {leaves : RoomId → ClientId → Prop}

/-- Unless the client joins a room of the key, it was in one before. -/
theorem Reseats.seated_before (hReseats : Reseats joins leaves hub next) (hShifts : hub.Shifts next)
    (hJoins : ∀ id, joins id (client, client) → next.keyOf? id ≠ some key)
    (hSeated : next.Seated key client) : hub.Seated key client := by
  obtain ⟨id, hKey, hMember⟩ := hSeated
  have hBefore := (hReseats.came hMember).resolve_right fun hJoin => hJoins id hJoin hKey
  exact ⟨id, hShifts.keyOf?_of_mem hBefore hKey, hBefore⟩

/-- Unless the client leaves a room of the key, it stays in the one that it is in. -/
theorem Reseats.seated_after (hReseats : Reseats joins leaves hub next) (hShifts : hub.Shifts next)
    (hLeaves : ∀ id, leaves id client → hub.keyOf? id ≠ some key)
    (hOpen : hub.boxes.isOpen client = true) (hSeated : hub.Seated key client) :
    next.Seated key client := by
  obtain ⟨id, hKey, hMember⟩ := hSeated
  exact ⟨id, hShifts.keyOf? hKey,
    (hReseats.stayed hMember hOpen).resolve_right fun hLeave => hLeaves id hLeave hKey⟩

end

/-- What a client without a call of its own sees of a step. -/
structure Overlooks (client : ClientId) (hub next : Hub π) : Prop where
  shifts : hub.Shifts next
  came {id : RoomId} (hAfter : (client, client) ∈ next.members id) :
    (client, client) ∈ hub.members id
  stayed {id : RoomId} (hBefore : (client, client) ∈ hub.members id)
    (hOpen : hub.boxes.isOpen client = true) : (client, client) ∈ next.members id
  boxes (hOpen : next.boxes.isOpen client = true) : hub.boxes.isOpen client = true

theorem Reseats.overlooks {joins : RoomId → ClientId × MailboxId → Prop}
    {leaves : RoomId → ClientId → Prop} (hReseats : Reseats joins leaves hub next)
    (hShifts : hub.Shifts next) (hJoins : ∀ id, ¬ joins id (client, client))
    (hLeaves : ∀ id, ¬ leaves id client) : Overlooks client hub next where
  shifts := hShifts
  came hAfter := (hReseats.came hAfter).resolve_right (hJoins _)
  stayed hBefore hOpen := (hReseats.stayed hBefore hOpen).resolve_right (hLeaves _)
  boxes hOpen := hReseats.boxes client ▸ hOpen

theorem Overlooks.seated_before (hSees : Overlooks client hub next)
    (hSeated : next.Seated key client) : hub.Seated key client := by
  obtain ⟨id, hKey, hMember⟩ := hSeated
  exact ⟨id, hSees.shifts.keyOf?_of_mem (hSees.came hMember) hKey, hSees.came hMember⟩

theorem Overlooks.seated_after (hSees : Overlooks client hub next)
    (hOpen : hub.boxes.isOpen client = true) (hSeated : hub.Seated key client) :
    next.Seated key client := by
  obtain ⟨id, hKey, hMember⟩ := hSeated
  exact ⟨id, hSees.shifts.keyOf? hKey, hSees.stayed hMember hOpen⟩

theorem overlooks_self (hub : Hub π) : Overlooks client hub hub :=
  ⟨(Alters.refl hub).toShifts, id, fun hBefore _ => hBefore, id⟩

end Hub

end MarketGateway
