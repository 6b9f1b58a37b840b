import Mathlib.Data.List.Induction
import MarketGateway.Proofs.Room.Audience

/-!
# What a client receives

What arrives at a mailbox can be told from the acts alone (`Audience.arrives`): with a join the last
payload so far, and with every broadcast its payload while the owner's last join was with this
mailbox and it has not left since (`seat?`). All of that is received except what finds the mailbox
full, and what was collected from a mailbox and what is in it are what was received
(`accounted_run`). `members_apart` adds that nothing of it depends on the other clients, and what a
broadcast reports.
-/

namespace MarketGateway

variable {π : Type}

/-- What the acts of a history bring one after another, each by the acts before it. -/
def inTurn {α β : Type} (brings : List α → α → List β) (past : List α) : List α → List β
  | [] => []
  | act :: rest => brings past act ++ inTurn brings (past ++ [act]) rest

theorem inTurn_snoc {α β : Type} (brings : List α → α → List β) (past acts : List α) (act : α) :
    inTurn brings past (acts ++ [act]) =
      inTurn brings past acts ++ brings (past ++ acts) act := by
  induction acts generalizing past with
  | nil => simp [inTurn]
  | cons first rest ih => simp [inTurn, ih]

namespace Audience

/-! ## What the acts tell -/

/-- The last payload that was broadcast. -/
def lastPayload? (past : List (Act π)) : Option π := (past.filterMap Act.payload?).getLast?

/-- The mailbox with which a client joined last, unless it left since then. -/
def seat? (owner : MailboxId → ClientId) (client : ClientId) (past : List (Act π)) :
    Option MailboxId :=
  past.foldl
    (fun seat act =>
      match act with
      | .join mailbox => if owner mailbox = client then some mailbox else seat
      | .leave other => if other = client then none else seat
      | _ => seat)
    none

/-- The payload that arrives at a mailbox with an act that comes after others. -/
def arrives (owner : MailboxId → ClientId) (mailbox : MailboxId) (past : List (Act π)) :
    Act π → Option π
  | .join joined => if joined = mailbox then lastPayload? past else none
  | .broadcast payload =>
    if seat? owner (owner mailbox) past = some mailbox then some payload else none
  | _ => none

/-- What an act takes out of a mailbox. -/
def takes (mailbox : MailboxId) (queue : Queue π) : Act π → List π
  | .take taken => if taken = mailbox then queue.take.1.toList else []
  | .drain drained => if drained = mailbox then queue.drain.1 else []
  | _ => []

/-- All that arrives at a mailbox in a run without finding it full. -/
def received (owner : MailboxId → ClientId) (start : Audience π) (mailbox : MailboxId)
    (acts : List (Act π)) : List π :=
  inTurn
    (fun past act =>
      if (start.run owner past).boxes.isFull mailbox then []
      else (arrives owner mailbox past act).toList)
    [] acts

/-- All that is taken out of a mailbox in a run. -/
def collected (owner : MailboxId → ClientId) (start : Audience π) (mailbox : MailboxId)
    (acts : List (Act π)) : List π :=
  inTurn
    (fun past act =>
      match (start.run owner past).boxes.lookup mailbox with
      | some queue => takes mailbox queue act
      | none => [])
    [] acts

variable {owner : MailboxId → ClientId} {audience : Audience π} {mailbox : MailboxId}
  {key : RoomKey} {boxes : Mailboxes π}

theorem lastPayload?_snoc (past : List (Act π)) (act : Act π) :
    lastPayload? (past ++ [act]) = act.payload?.or (lastPayload? past) := by
  rw [lastPayload?, lastPayload?, List.filterMap_append]
  cases hPayload : act.payload? <;> simp [hPayload]

theorem last_run (owner : MailboxId → ClientId) (key : RoomKey) (boxes : Mailboxes π)
    (acts : List (Act π)) :
    ((fresh key boxes).run owner acts).room.last = lastPayload? acts := by
  induction acts using List.reverseRecOn with
  | nil => rfl
  | append_singleton acts act ih =>
    have hSeated := (seated_fresh owner key boxes).run acts
    rw [run_snoc, last_step hSeated, ih, lastPayload?_snoc]

theorem seat?_snoc (owner : MailboxId → ClientId) (client : ClientId) (past : List (Act π))
    (act : Act π) :
    seat? owner client (past ++ [act]) = (match act with
      | .join mailbox => if owner mailbox = client then some mailbox else seat? owner client past
      | .leave other => if other = client then none else seat? owner client past
      | _ => seat? owner client past) := by
  rw [seat?, List.foldl_append]
  rfl

/-! ## Accounts -/

/-- A mailbox with a receiver: what was collected from it and what is in it are what was in it and
what was received, and its owner has a seat with it exactly if the acts tell so. -/
structure Accounted (owner : MailboxId → ClientId) (start : Audience π) (mailbox : MailboxId)
    (queue : Queue π) (acts : List (Act π)) : Prop where
  box : ∃ now, (start.run owner acts).boxes.lookup mailbox = some now ∧ now.closed = false ∧
    now.capacity = queue.capacity ∧
    collected owner start mailbox acts ++ now.items =
      queue.items ++ received owner start mailbox acts
  seat : (owner mailbox, mailbox) ∈ (start.run owner acts).room.members ↔
    seat? owner (owner mailbox) acts = some mailbox

theorem accept_spec {queue : Queue π} (hOpen : queue.closed = false) (arrival : Option π) :
    (accept queue arrival).closed = false ∧ (accept queue arrival).capacity = queue.capacity ∧
      (accept queue arrival).items =
        queue.items ++ if queue.capacity ≤ queue.items.length then [] else arrival.toList := by
  cases arrival with
  | none => simp [accept, hOpen]
  | some payload =>
    by_cases hFull : queue.capacity ≤ queue.items.length
    · simp [accept, Queue.offer, hOpen, hFull]
    · simp [accept, Queue.offer, hOpen, hFull]

/-- One act on a mailbox whose receiver stays. -/
theorem handle_accept {queue : Queue π} (hOpen : queue.closed = false) {act : Act π}
    (hKept : act ≠ .drop mailbox) (past : List (Act π)) :
    (handle mailbox (accept queue (arrives owner mailbox past act)) act).closed = false ∧
    (handle mailbox (accept queue (arrives owner mailbox past act)) act).capacity =
      queue.capacity ∧
    takes mailbox queue act ++
        (handle mailbox (accept queue (arrives owner mailbox past act)) act).items =
      queue.items ++ if queue.capacity ≤ queue.items.length then []
        else (arrives owner mailbox past act).toList := by
  have hAccept := accept_spec hOpen (arrives owner mailbox past act)
  cases act with
  | join | leave | broadcast | feedStopped => exact hAccept
  | take taken =>
    by_cases hEq : taken = mailbox
    · cases hItems : queue.items <;>
        simp [handle, accept, arrives, takes, Queue.take, hEq, hItems, hOpen]
    · simp [handle, accept, arrives, takes, hEq, hOpen]
  | drain drained =>
    by_cases hEq : drained = mailbox
    · simp [handle, accept, arrives, takes, Queue.drain, hEq, hOpen]
    · simp [handle, accept, arrives, takes, hEq, hOpen]
  | drop dropped =>
    have hNe : dropped ≠ mailbox := fun hEq => hKept (hEq ▸ rfl)
    simp [handle, accept, arrives, takes, hNe, hOpen]

theorem Accounted.sends_eq {queue : Queue π} {acts : List (Act π)}
    (hAccounted : Accounted owner (fresh key boxes) mailbox queue acts) (act : Act π) :
    ((fresh key boxes).run owner acts).sends owner mailbox act =
      arrives owner mailbox acts act := by
  cases act with
  | join joined => rw [sends, arrives, last_run]
  | broadcast payload => simp only [sends, arrives, hAccounted.seat]
  | leave | take | drain | drop | feedStopped => rfl

theorem Accounted.snoc {queue : Queue π} {acts : List (Act π)}
    (hAccounted : Accounted owner (fresh key boxes) mailbox queue acts) {act : Act π}
    (hKept : act ≠ .drop mailbox) :
    Accounted owner (fresh key boxes) mailbox queue (acts ++ [act]) := by
  have hSeated := (seated_fresh owner key boxes).run acts
  obtain ⟨now, hNow, hOpen, hCapacity, hItems⟩ := hAccounted.box
  constructor
  · obtain ⟨hOpen', hCapacity', hItems'⟩ :=
      @handle_accept _ owner mailbox now hOpen act hKept acts
    have hFull : ((fresh key boxes).run owner acts).boxes.isFull mailbox =
        decide (now.capacity ≤ now.items.length) := by
      rw [Mailboxes.isFull, hNow]
      rfl
    have hReceived : received owner (fresh key boxes) mailbox (acts ++ [act]) =
        received owner (fresh key boxes) mailbox acts ++
          if now.capacity ≤ now.items.length then []
          else (arrives owner mailbox acts act).toList := by
      rw [received, inTurn_snoc, List.nil_append, hFull]
      simp only [decide_eq_true_eq, received]
    have hCollected : collected owner (fresh key boxes) mailbox (acts ++ [act]) =
        collected owner (fresh key boxes) mailbox acts ++ takes mailbox now act := by
      rw [collected, inTurn_snoc, List.nil_append, hNow, collected]
    refine ⟨_, ?_, hOpen', hCapacity'.trans hCapacity, ?_⟩
    · rw [run_snoc, lookup_step hSeated, hNow, hAccounted.sends_eq]
      rfl
    · rw [hCollected, hReceived, List.append_assoc, hItems', ← List.append_assoc, hItems,
        List.append_assoc]
  · have hBox : ((fresh key boxes).run owner acts).boxes.isOpen mailbox = true := by
      simp [Mailboxes.isOpen, hNow, hOpen]
    rw [run_snoc, members_step hSeated, List.mem_append, List.mem_filter, hAccounted.seat,
      seat?_snoc]
    cases act with
    | join joined =>
      by_cases hOwner : owner joined = owner mailbox
      · by_cases hEq : joined = mailbox
        · simp [comes, hEq]
        · simp [comes, stays, hOwner, hEq, Ne.symm hEq]
      · have hNe : mailbox ≠ joined := by
          rintro rfl
          exact hOwner rfl
        simp [comes, stays, hOwner, Ne.symm hOwner, hNe]
    | leave client =>
      by_cases hClient : client = owner mailbox
      · simp [comes, stays, hClient]
      · simp [comes, stays, hClient, Ne.symm hClient]
    | broadcast payload => simp [comes, stays, hBox]
    | take | drain | drop | feedStopped => simp [comes, stays]

/-- By induction on the acts, from the last one on. -/
theorem accounted_run {queue : Queue π} (hQueue : boxes.lookup mailbox = some queue)
    (hOpen : queue.closed = false) {acts : List (Act π)} (hKept : .drop mailbox ∉ acts) :
    Accounted owner (fresh key boxes) mailbox queue acts := by
  induction acts using List.reverseRecOn with
  | nil =>
    refine ⟨⟨queue, hQueue, hOpen, rfl, ?_⟩, ?_⟩
    · simp [collected, received, inTurn]
    · simp [run, fresh, seat?]
  | append_singleton acts act ih =>
    rw [List.mem_append, List.mem_singleton, not_or] at hKept
    exact (ih hKept.1).snoc (Ne.symm hKept.2)

/-! ## Broadcasts -/

/-- A broadcast counts every member once and removes those whose mailbox is not open. -/
theorem broadcast_counts (hSeated : audience.Seated owner) (payload : π) :
    (audience.room.broadcast payload audience.boxes).1.delivered +
        (audience.room.broadcast payload audience.boxes).1.dropped +
        (audience.room.broadcast payload audience.boxes).1.pruned =
      audience.room.members.length ∧
    (audience.room.broadcast payload audience.boxes).2.1.members =
      audience.room.members.filter fun member => audience.boxes.isOpen member.2 := by
  have hDelivered := Room.deliver_spec payload hSeated.boxes_apart {} audience.boxes
  have hCounts := hDelivered.counts
  simp only [Room.broadcast, hSeated.isOpen, Bool.false_eq_true, if_false]
  exact ⟨by simpa using hCounts, hDelivered.kept⟩

/-- Parts of two runs with equally many acts that concern a client have the same ones. -/
theorem filter_eq_of_prefix {α : Type} {concerns : α → Bool} {acts acts' early early' : List α}
    (hSame : acts.filter concerns = acts'.filter concerns) (hEarly : early <+: acts)
    (hEarly' : early' <+: acts') (hCount : early.countP concerns = early'.countP concerns) :
    early.filter concerns = early'.filter concerns := by
  have hPrefix := hEarly.filter concerns
  have hPrefix' := hEarly'.filter concerns
  rw [hSame] at hPrefix
  rw [List.countP_eq_length_filter, List.countP_eq_length_filter] at hCount
  exact (List.prefix_of_prefix_length_le hPrefix hPrefix' (Nat.le_of_eq hCount)).eq_of_length hCount

/-- **No client affects another.** Two runs of a new room have the same broadcasts, joins, leaves,
collections and drops of one client in the same order, and anything of the others in between: then
the client's mailboxes are the same after all parts of the runs that correspond. In each run a
client receives the last payload with each join and then every payload while it stays, in order,
except those that find its mailbox full. And a broadcast counts every member before it once and
removes exactly those with a closed mailbox. -/
theorem members_apart (owner : MailboxId → ClientId) (key : RoomKey) (client : ClientId)
    (boxes boxes' : Mailboxes π) (acts acts' : List (Act π))
    (hBoxes : ∀ mailbox, owner mailbox = client → boxes.lookup mailbox = boxes'.lookup mailbox)
    (hSame : acts.filter (·.concerns owner client) = acts'.filter (·.concerns owner client)) :
    (∀ early early', early <+: acts → early' <+: acts' →
      early.countP (·.concerns owner client) = early'.countP (·.concerns owner client) →
      ∀ mailbox, owner mailbox = client →
        ((fresh key boxes).run owner early).boxes.lookup mailbox =
          ((fresh key boxes').run owner early').boxes.lookup mailbox) ∧
    (∀ mailbox queue, boxes.lookup mailbox = some queue → queue.closed = false →
      .drop mailbox ∉ acts →
      ∃ now, ((fresh key boxes).run owner acts).boxes.lookup mailbox = some now ∧
        now.capacity = queue.capacity ∧
        collected owner (fresh key boxes) mailbox acts ++ now.items =
          queue.items ++ received owner (fresh key boxes) mailbox acts) ∧
    ∀ payload,
      let before := (fresh key boxes).run owner acts
      let (stats, after, _) := before.room.broadcast payload before.boxes
      stats.delivered + stats.dropped + stats.pruned = before.room.members.length ∧
      after.members = before.room.members.filter fun member => before.boxes.isOpen member.2 := by
  have hFresh := seated_fresh owner key boxes
  refine ⟨?_, ?_, ?_⟩
  · intro early early' hEarly hEarly' hCount
    have hStart : (fresh key boxes).Alike owner client (fresh key boxes') := ⟨rfl, rfl, hBoxes⟩
    have hParts := filter_eq_of_prefix hSame hEarly hEarly' hCount
    exact (alike_run hStart hFresh (seated_fresh owner key boxes') hParts).boxes
  · intro mailbox queue hQueue hOpen hKept
    have hAccounted : Accounted owner (fresh key boxes) mailbox queue acts :=
      accounted_run hQueue hOpen hKept
    obtain ⟨now, hNow, -, hCapacity, hItems⟩ := hAccounted.box
    exact ⟨now, hNow, hCapacity, hItems⟩
  · intro payload
    exact broadcast_counts (hFresh.run acts) payload

/-- A client with room for one payload, beside one that comes and drops its mailbox. -/
def busyActs : List (Act Nat) :=
  [.join 2, .broadcast 10, .join 1, .broadcast 11, .take 2, .take 1, .drop 2, .broadcast 12,
    .feedStopped]

/-- The client gets the payload before it joined, misses the next one for its full mailbox, and has
the last one left, as it would alone. -/
theorem members_apart_of_busyActs :
    received id (fresh ⟨"BTCUSDT", none⟩ [(1, ⟨1, [], false⟩), (2, ⟨4, [], false⟩)]) 1 busyActs =
      [10, 12] ∧
    ∀ mailbox, id mailbox = 1 →
      ((fresh ⟨"BTCUSDT", none⟩ [(1, ⟨1, [], false⟩), (2, ⟨4, [], false⟩)]).run id
          busyActs).boxes.lookup mailbox =
        ((fresh ⟨"BTCUSDT", none⟩ [(1, ⟨1, [], false⟩)]).run id
          [.broadcast 10, .join 1, .broadcast 11, .take 1, .broadcast 12]).boxes.lookup mailbox :=
  ⟨by decide +kernel,
    (members_apart id ⟨"BTCUSDT", none⟩ 1 [(1, ⟨1, [], false⟩), (2, ⟨4, [], false⟩)]
      [(1, ⟨1, [], false⟩)] busyActs [.broadcast 10, .join 1, .broadcast 11, .take 1, .broadcast 12]
      (by intro mailbox hOwner; cases hOwner; rfl) (by decide +kernel)).1
      busyActs _ (List.prefix_rfl) (List.prefix_rfl) (by decide +kernel)⟩

end Audience

end MarketGateway
