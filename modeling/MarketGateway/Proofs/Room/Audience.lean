import MarketGateway.Proofs.Room.Delivery

/-!
# The audience of a room

An audience is a room with the mailboxes of all clients. Every mailbox belongs to one client, its
owner, who may use several. Members come, go, read their mailboxes and drop them in any order,
between broadcasts (`Audience.run`); the room is not closed.

What one client can see of it are the last payload, its own seat in the room and its own mailboxes
(`Audience.Alike`). What other clients do changes nothing of that (`alike_of_unconcerned`), and what
concerns the client does the same to all audiences that look alike to it (`Alike.step`). So an
audience looks to a client as it does when the others do nothing (`alike_run`).
-/

namespace MarketGateway

/-- What can happen to an audience. -/
inductive Act (π : Type)
  /-- The owner of the mailbox joins with it. -/
  | join (mailbox : MailboxId)
  | leave (client : ClientId)
  | broadcast (payload : π)
  | take (mailbox : MailboxId)
  | drain (mailbox : MailboxId)
  | drop (mailbox : MailboxId)
  | feedStopped
  deriving DecidableEq

/-- A room and the mailboxes of all clients. -/
structure Audience (π : Type) where
  room : Room π
  boxes : Mailboxes π
  deriving DecidableEq

variable {π : Type}

/-- Whether an act is a broadcast or is done by a client. -/
def Act.concerns (owner : MailboxId → ClientId) (client : ClientId) : Act π → Bool
  | .join mailbox | .take mailbox | .drain mailbox | .drop mailbox => owner mailbox == client
  | .leave other => other == client
  | .broadcast _ => true
  | .feedStopped => false

/-- The payload of a broadcast. -/
def Act.payload? : Act π → Option π
  | .broadcast payload => some payload
  | _ => none

namespace Audience

/-- A new room among mailboxes. -/
def fresh (key : RoomKey) (boxes : Mailboxes π) : Audience π :=
  ⟨⟨key, [], false, none, 0, false⟩, boxes⟩

def step (owner : MailboxId → ClientId) (audience : Audience π) : Act π → Audience π
  | .join mailbox =>
    let (_, room, boxes) := audience.room.join (owner mailbox) mailbox audience.boxes
    ⟨room, boxes⟩
  | .leave client => ⟨(audience.room.leave client).2, audience.boxes⟩
  | .broadcast payload =>
    let (_, room, boxes) := audience.room.broadcast payload audience.boxes
    ⟨room, boxes⟩
  | .take mailbox => ⟨audience.room, audience.boxes.modify mailbox fun queue => queue.take.2⟩
  | .drain mailbox => ⟨audience.room, (audience.boxes.drain mailbox).2⟩
  | .drop mailbox => ⟨audience.room, audience.boxes.close mailbox⟩
  | .feedStopped => ⟨audience.room.feedStopped, audience.boxes⟩

/-- The audience after a list of acts. -/
def run (owner : MailboxId → ClientId) (audience : Audience π) (acts : List (Act π)) :
    Audience π :=
  acts.foldl (step owner) audience

variable {owner : MailboxId → ClientId} {audience other : Audience π} {client : ClientId}
  {mailbox : MailboxId} {act : Act π}

theorem run_cons (owner : MailboxId → ClientId) (audience : Audience π) (act : Act π)
    (acts : List (Act π)) :
    audience.run owner (act :: acts) = (audience.step owner act).run owner acts := rfl

theorem run_snoc (owner : MailboxId → ClientId) (audience : Audience π) (acts : List (Act π))
    (act : Act π) :
    audience.run owner (acts ++ [act]) = (audience.run owner acts).step owner act := by
  rw [run, run, List.foldl_append]
  rfl

/-! ## Seats -/

/-- The room is open, and its members are different clients with mailboxes of their own. -/
structure Seated (owner : MailboxId → ClientId) (audience : Audience π) : Prop where
  isOpen : audience.room.closed = false
  owned : ∀ member ∈ audience.room.members, owner member.2 = member.1
  apart : (audience.room.members.map Prod.fst).Nodup

theorem seated_fresh (owner : MailboxId → ClientId) (key : RoomKey) (boxes : Mailboxes π) :
    (fresh key boxes).Seated owner :=
  ⟨rfl, fun _ hMember => absurd hMember List.not_mem_nil, List.nodup_nil⟩

namespace Seated

theorem boxes_apart (hSeated : audience.Seated owner) :
    (audience.room.members.map Prod.snd).Nodup := by
  have hOwners : (audience.room.members.map Prod.snd).map owner =
      audience.room.members.map Prod.fst := by
    rw [List.map_map]
    exact List.map_congr_left hSeated.owned
  exact List.Nodup.of_map owner (hOwners ▸ hSeated.apart)

theorem mem_boxes_iff (hSeated : audience.Seated owner) :
    mailbox ∈ audience.room.members.map Prod.snd ↔
      (owner mailbox, mailbox) ∈ audience.room.members := by
  constructor
  · intro hMem
    obtain ⟨⟨holder, box⟩, hMember, rfl⟩ := List.mem_map.mp hMem
    have hOwner := hSeated.owned _ hMember
    dsimp only at hOwner ⊢
    rwa [hOwner]
  · exact fun hMember => List.mem_map_of_mem hMember

end Seated

/-- Whether a member stays when something happens. -/
def stays (owner : MailboxId → ClientId) (audience : Audience π) (member : ClientId × MailboxId) :
    Act π → Bool
  | .join mailbox => member.1 != owner mailbox
  | .leave client => member.1 != client
  | .broadcast _ => audience.boxes.isOpen member.2
  | .take _ | .drain _ | .drop _ | .feedStopped => true

/-- Who comes. -/
def comes (owner : MailboxId → ClientId) : Act π → List (ClientId × MailboxId)
  | .join mailbox => [(owner mailbox, mailbox)]
  | _ => []

theorem closed_step (hSeated : audience.Seated owner) (act : Act π) :
    (audience.step owner act).room.closed = false := by
  have hOpen := hSeated.isOpen
  cases act with
  | leave client =>
    rw [step, Room.leave]
    split <;> exact hOpen
  | feedStopped => simp [step, Room.feedStopped, hOpen]
  | join | broadcast => simp [step, Room.join, Room.broadcast, hOpen]
  | take | drain | drop => exact hOpen

theorem last_step (hSeated : audience.Seated owner) (act : Act π) :
    (audience.step owner act).room.last = act.payload?.or audience.room.last := by
  have hOpen := hSeated.isOpen
  cases act with
  | leave client =>
    rw [step, Room.leave]
    split <;> rfl
  | feedStopped => simp [step, Room.feedStopped, hOpen, Act.payload?]
  | join | broadcast => simp [step, Room.join, Room.broadcast, hOpen, Act.payload?]
  | take | drain | drop => rfl

theorem members_step (hSeated : audience.Seated owner) (act : Act π) :
    (audience.step owner act).room.members =
      (audience.room.members.filter fun member => audience.stays owner member act) ++
        comes owner act := by
  have hOpen := hSeated.isOpen
  cases act with
  | join mailbox => simp [step, Room.join, hOpen, stays, comes]
  | leave client =>
    rw [step, Room.leave]
    split
    · simp [stays, comes]
    · next hNone =>
      have hAll : ∀ member ∈ audience.room.members, (member.1 != client) = true := by
        rintro ⟨holder, mailbox⟩ hMember
        have hOther : holder ≠ client := by
          rintro rfl
          exact hNone (List.any_eq_true.mpr ⟨_, hMember, beq_self_eq_true _⟩)
        simpa using hOther
      simp only [stays, comes, List.filter_eq_self.mpr hAll, List.append_nil]
  | broadcast payload =>
    have hDelivered := Room.deliver_spec payload hSeated.boxes_apart {} audience.boxes
    simp only [step, Room.broadcast, hOpen, Bool.false_eq_true, if_false, stays, comes,
      List.append_nil]
    exact hDelivered.kept
  | feedStopped => simp [step, Room.feedStopped, hOpen, stays, comes]
  | take | drain | drop => simp [step, stays, comes]

theorem Seated.step (hSeated : audience.Seated owner) (act : Act π) :
    (audience.step owner act).Seated owner := by
  have hMembers := members_step hSeated act
  have hOld : ((audience.room.members.filter fun member =>
      audience.stays owner member act).map Prod.fst).Nodup :=
    (List.filter_sublist.map Prod.fst).nodup hSeated.apart
  refine ⟨closed_step hSeated act, ?_, ?_⟩
  · intro member hMember
    rw [hMembers] at hMember
    rcases List.mem_append.mp hMember with hStays | hComes
    · exact hSeated.owned member (List.mem_filter.mp hStays).1
    · cases act with
      | join mailbox => rw [List.mem_singleton.mp hComes]
      | leave | broadcast | take | drain | drop | feedStopped =>
        exact absurd hComes List.not_mem_nil
  · rw [hMembers, List.map_append]
    cases act with
    | join mailbox =>
      refine List.nodup_append.mpr ⟨hOld, List.nodup_singleton _, ?_⟩
      intro holder hHolder last hLast
      obtain ⟨member, hMember, rfl⟩ := List.mem_map.mp hHolder
      obtain rfl := List.mem_singleton.mp hLast
      simpa [stays] using (List.mem_filter.mp hMember).2
    | leave | broadcast | take | drain | drop | feedStopped => simpa [comes] using hOld

theorem Seated.run (hSeated : audience.Seated owner) (acts : List (Act π)) :
    (audience.run owner acts).Seated owner := by
  induction acts generalizing audience with
  | nil => exact hSeated
  | cons act rest ih => exact ih (hSeated.step act)

/-! ## Mailboxes -/

/-- What an act puts into a mailbox. -/
def sends (owner : MailboxId → ClientId) (audience : Audience π) (mailbox : MailboxId) :
    Act π → Option π
  | .join joined => if joined = mailbox then audience.room.last else none
  | .broadcast payload =>
    if (owner mailbox, mailbox) ∈ audience.room.members then some payload else none
  | _ => none

/-- What an act of its owner makes of a mailbox. -/
def handle (mailbox : MailboxId) (queue : Queue π) : Act π → Queue π
  | .take taken => if taken = mailbox then queue.take.2 else queue
  | .drain drained => if drained = mailbox then queue.drain.2 else queue
  | .drop dropped => if dropped = mailbox then queue.close else queue
  | _ => queue

/-- A queue that gets an item, or none. -/
def accept (queue : Queue π) : Option π → Queue π
  | some payload => (queue.offer payload).2
  | none => queue

theorem lookup_step (hSeated : audience.Seated owner) (act : Act π) (mailbox : MailboxId) :
    (audience.step owner act).boxes.lookup mailbox =
      (audience.boxes.lookup mailbox).map fun queue =>
        handle mailbox (accept queue (audience.sends owner mailbox act)) act := by
  have hOpen := hSeated.isOpen
  cases act with
  | join joined =>
    simp only [step, Room.join, hOpen, Bool.false_eq_true, if_false, sends, handle]
    cases audience.room.last with
    | none => simp [accept]
    | some payload =>
      rw [Mailboxes.lookup_post]
      by_cases hEq : joined = mailbox
      · simp [hEq, accept]
      · simp [hEq, Ne.symm hEq, accept]
  | broadcast payload =>
    have hDelivered := Room.deliver_spec payload hSeated.boxes_apart {} audience.boxes
    simp only [step, Room.broadcast, hOpen, Bool.false_eq_true, if_false, sends, handle]
    rw [hDelivered.lookup]
    by_cases hMember : (owner mailbox, mailbox) ∈ audience.room.members
    · rw [if_pos (hSeated.mem_boxes_iff.mpr hMember)]
      simp [hMember, accept]
    · rw [if_neg (mt hSeated.mem_boxes_iff.mp hMember)]
      simp [hMember, accept]
  | take taken =>
    rw [step, Mailboxes.lookup_modify]
    by_cases hEq : mailbox = taken
    · simp [hEq, sends, handle, accept]
    · simp [hEq, Ne.symm hEq, sends, handle, accept]
  | drain drained =>
    rw [step, Mailboxes.drain, Mailboxes.lookup_modify]
    by_cases hEq : mailbox = drained
    · simp [hEq, sends, handle, accept]
    · simp [hEq, Ne.symm hEq, sends, handle, accept]
  | drop dropped =>
    rw [step, Mailboxes.close, Mailboxes.lookup_modify]
    by_cases hEq : mailbox = dropped
    · simp [hEq, sends, handle, accept]
    · simp [hEq, Ne.symm hEq, sends, handle, accept]
  | leave | feedStopped => simp [step, sends, handle, accept]

/-! ## What a client can see -/

/-- Two audiences look the same to a client. -/
structure Alike (owner : MailboxId → ClientId) (client : ClientId) (audience other : Audience π) :
    Prop where
  last : audience.room.last = other.room.last
  seat : audience.room.members.filter (·.1 == client) = other.room.members.filter (·.1 == client)
  boxes : ∀ mailbox, owner mailbox = client →
    audience.boxes.lookup mailbox = other.boxes.lookup mailbox

namespace Alike

theorem refl (owner : MailboxId → ClientId) (client : ClientId) (audience : Audience π) :
    audience.Alike owner client audience :=
  ⟨rfl, rfl, fun _ _ => rfl⟩

theorem symm (hAlike : audience.Alike owner client other) : other.Alike owner client audience :=
  ⟨hAlike.last.symm, hAlike.seat.symm, fun mailbox hOwner => (hAlike.boxes mailbox hOwner).symm⟩

theorem trans {last : Audience π} (hFirst : audience.Alike owner client other)
    (hSecond : other.Alike owner client last) : audience.Alike owner client last :=
  ⟨hFirst.last.trans hSecond.last, hFirst.seat.trans hSecond.seat,
    fun mailbox hOwner => (hFirst.boxes mailbox hOwner).trans (hSecond.boxes mailbox hOwner)⟩

theorem mem_iff (hAlike : audience.Alike owner client other) (mailbox : MailboxId) :
    (client, mailbox) ∈ audience.room.members ↔ (client, mailbox) ∈ other.room.members := by
  have hSeat := congrArg ((client, mailbox) ∈ ·) hAlike.seat
  simpa using hSeat

theorem sends_eq (hAlike : audience.Alike owner client other) (hOwner : owner mailbox = client)
    (act : Act π) : audience.sends owner mailbox act = other.sends owner mailbox act := by
  cases act with
  | join joined => simp only [sends, hAlike.last]
  | broadcast payload => simp only [sends, hOwner, hAlike.mem_iff mailbox]
  | leave | take | drain | drop | feedStopped => rfl

/-- The same act does the same to audiences that look alike. -/
theorem step (hAlike : audience.Alike owner client other) (hFirst : audience.Seated owner)
    (hSecond : other.Seated owner) (act : Act π) :
    (audience.step owner act).Alike owner client (other.step owner act) := by
  refine ⟨?_, ?_, ?_⟩
  · rw [last_step hFirst, last_step hSecond, hAlike.last]
  · have hStays : ∀ member ∈ other.room.members.filter (·.1 == client),
        audience.stays owner member act = other.stays owner member act := by
      intro member hMember
      obtain ⟨hIn, hClient⟩ := List.mem_filter.mp hMember
      have hOwner : owner member.2 = client := by
        rw [hSecond.owned member hIn]
        simpa using hClient
      cases act with
      | broadcast => simp only [stays, Mailboxes.isOpen, hAlike.boxes _ hOwner]
      | join | leave | take | drain | drop | feedStopped => rfl
    rw [members_step hFirst, members_step hSecond, List.filter_append, List.filter_append,
      List.filter_comm, hAlike.seat, List.filter_congr hStays, List.filter_comm]
  · intro mailbox hOwner
    rw [lookup_step hFirst, lookup_step hSecond, hAlike.boxes mailbox hOwner,
      hAlike.sends_eq hOwner]

theorem run (hAlike : audience.Alike owner client other) (hFirst : audience.Seated owner)
    (hSecond : other.Seated owner) (acts : List (Act π)) :
    (audience.run owner acts).Alike owner client (other.run owner acts) := by
  induction acts generalizing audience other with
  | nil => exact hAlike
  | cons act rest ih =>
    exact ih (hAlike.step hFirst hSecond act) (hFirst.step act) (hSecond.step act)

end Alike

/-- What does not concern a client changes nothing that it can see. -/
theorem alike_of_unconcerned (hSeated : audience.Seated owner)
    (hAct : act.concerns owner client = false) :
    (audience.step owner act).Alike owner client audience := by
  refine ⟨?_, ?_, ?_⟩
  · rw [last_step hSeated]
    cases act with
    | broadcast => cases hAct
    | join | leave | take | drain | drop | feedStopped => rfl
  · have hStays : ∀ member ∈ audience.room.members.filter (·.1 == client),
        audience.stays owner member act = true := by
      intro member hMember
      have hClient : member.1 = client := by simpa using (List.mem_filter.mp hMember).2
      cases act with
      | join mailbox =>
        have hOther : owner mailbox ≠ client := by simpa [Act.concerns] using hAct
        simpa [stays, hClient] using hOther.symm
      | leave holder =>
        have hOther : holder ≠ client := by simpa [Act.concerns] using hAct
        simpa [stays, hClient] using hOther.symm
      | broadcast => cases hAct
      | take | drain | drop | feedStopped => rfl
    have hComes : (comes owner act).filter (·.1 == client) = [] := by
      cases act with
      | join mailbox => simpa [comes, Act.concerns] using hAct
      | leave | broadcast | take | drain | drop | feedStopped => rfl
    rw [members_step hSeated, List.filter_append, List.filter_comm, hComes, List.append_nil,
      List.filter_eq_self.mpr hStays]
  · intro mailbox hOwner
    have hOther (id : MailboxId) (hId : (owner id == client) = false) : id ≠ mailbox := by
      rintro rfl
      simp [hOwner] at hId
    rw [lookup_step hSeated]
    cases act with
    | join joined => simp [sends, handle, accept, hOther joined hAct]
    | broadcast => cases hAct
    | take taken => simp [sends, handle, accept, hOther taken hAct]
    | drain drained => simp [sends, handle, accept, hOther drained hAct]
    | drop dropped => simp [sends, handle, accept, hOther dropped hAct]
    | leave | feedStopped => simp [sends, handle, accept]

/-- By induction on the acts: those that do not concern the client can be left out. -/
theorem alike_filter (hSeated : audience.Seated owner) (client : ClientId) (acts : List (Act π)) :
    (audience.run owner acts).Alike owner client
      (audience.run owner (acts.filter (·.concerns owner client))) := by
  induction acts generalizing audience with
  | nil => exact .refl owner client audience
  | cons act rest ih =>
    have hNext := hSeated.step act
    cases hAct : act.concerns owner client with
    | true => simpa only [List.filter_cons, hAct, if_true, run_cons] using ih hNext
    | false =>
      have hSkip := (alike_of_unconcerned hSeated hAct).run hNext hSeated
        (rest.filter (·.concerns owner client))
      simpa only [List.filter_cons, hAct, Bool.false_eq_true, if_false, run_cons] using
        (ih hNext).trans hSkip

/-- Audiences that look alike to a client still do after acts of which the same concern it. -/
theorem alike_run (hAlike : audience.Alike owner client other) (hFirst : audience.Seated owner)
    (hSecond : other.Seated owner) {acts acts' : List (Act π)}
    (hSame : acts.filter (·.concerns owner client) = acts'.filter (·.concerns owner client)) :
    (audience.run owner acts).Alike owner client (other.run owner acts') := by
  have hLeft := alike_filter hFirst client acts
  have hRight := alike_filter hSecond client acts'
  rw [hSame] at hLeft
  exact (hLeft.trans (hAlike.run hFirst hSecond _)).trans hRight.symm

end Audience

end MarketGateway
