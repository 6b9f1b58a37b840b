import Mathlib.Data.List.Nodup
import MarketGateway.Proofs.Lists
import MarketGateway.Room

/-!
# Deliveries

What the operations on mailboxes do to a single one. A delivery to members with different mailboxes
offers the payload once to the mailbox of each, counts every member once, and removes exactly those
whose mailbox is not open (`deliver_spec`).
-/

namespace MarketGateway

variable {π : Type}

namespace Mailboxes

/-- Whether a mailbox exists and its receiver is there. -/
def isOpen (boxes : Mailboxes π) (id : MailboxId) : Bool :=
  (boxes.lookup id).any fun queue => !queue.closed

/-- Whether a mailbox holds as much as it can. -/
def isFull (boxes : Mailboxes π) (id : MailboxId) : Bool :=
  (boxes.lookup id).any fun queue => queue.capacity ≤ queue.items.length

variable {id other : MailboxId}

theorem lookup_post (boxes : Mailboxes π) (id other : MailboxId) (payload : π) :
    (boxes.post id payload).2.lookup other =
      if other = id then (boxes.lookup other).map fun queue => (queue.offer payload).2
      else boxes.lookup other := by
  induction boxes with
  | nil => simp [post]
  | cons box rest ih =>
    obtain ⟨i, queue⟩ := box
    rw [post]
    by_cases hId : i = id
    · subst hId
      by_cases hOther : other = i
      · simp [hOther]
      · have hBeq : (other == i) = false := beq_eq_false_iff_ne.mpr hOther
        simp [hOther, List.lookup_cons, hBeq]
    · by_cases hOther : other = i
      · have hNe : other ≠ id := hOther ▸ hId
        simp [hId, hOther]
      · have hBeq : (other == i) = false := beq_eq_false_iff_ne.mpr hOther
        simpa [hId, List.lookup_cons, hBeq] using ih

theorem post_closed_iff (boxes : Mailboxes π) (id : MailboxId) (payload : π) :
    (boxes.post id payload).1 = .closed ↔ boxes.isOpen id = false := by
  induction boxes with
  | nil => simp [post, isOpen]
  | cons box rest ih =>
    obtain ⟨i, queue⟩ := box
    rw [post]
    by_cases hId : i = id
    · subst hId
      cases hClosed : queue.closed
      · by_cases hFull : queue.capacity ≤ queue.items.length <;>
          simp [isOpen, Queue.offer, hClosed, hFull]
      · simp [isOpen, Queue.offer, hClosed]
    · have hBeq : (id == i) = false := beq_eq_false_iff_ne.mpr fun h => hId h.symm
      simpa [hId, isOpen, List.lookup_cons, hBeq] using ih

theorem isOpen_post_of_ne (boxes : Mailboxes π) (payload : π) (hNe : other ≠ id) :
    (boxes.post id payload).2.isOpen other = boxes.isOpen other := by
  rw [isOpen, isOpen, lookup_post, if_neg hNe]

theorem lookup_modify (boxes : Mailboxes π) (id other : MailboxId) (change : Queue π → Queue π) :
    (boxes.modify id change).lookup other =
      if other = id then (boxes.lookup other).map change else boxes.lookup other :=
  lookup_change boxes id other change

end Mailboxes

namespace Room

/-- What a delivery comes to, when the counts so far are added. -/
structure Delivered (payload : π) (members : List (ClientId × MailboxId)) (stats : BroadcastStats)
    (boxes : Mailboxes π) (result : BroadcastStats × List (ClientId × MailboxId) × Mailboxes π) :
    Prop where
  counts : result.1.delivered + result.1.dropped + result.1.pruned =
    stats.delivered + stats.dropped + stats.pruned + members.length
  kept : result.2.1 = members.filter fun member => boxes.isOpen member.2
  lookup : ∀ id, result.2.2.lookup id =
    if id ∈ members.map Prod.snd then (boxes.lookup id).map fun queue => (queue.offer payload).2
    else boxes.lookup id

theorem deliver_spec (payload : π) {members : List (ClientId × MailboxId)}
    (hApart : (members.map Prod.snd).Nodup) (stats : BroadcastStats) (boxes : Mailboxes π) :
    Delivered payload members stats boxes (deliver payload members stats boxes) := by
  induction members generalizing stats boxes with
  | nil => exact ⟨rfl, rfl, fun _ => rfl⟩
  | cons member rest ih =>
    obtain ⟨client, mailbox⟩ := member
    obtain ⟨hHead, hRest⟩ := List.nodup_cons.mp hApart
    have hClosed := boxes.post_closed_iff mailbox payload
    have hOpen (hOffer : (boxes.post mailbox payload).1 ≠ .closed) :
        boxes.isOpen mailbox = true := by
      simpa using mt hClosed.mpr hOffer
    -- The mailboxes of the others are as open as before the first post.
    have hOthers : (rest.filter fun member => (boxes.post mailbox payload).2.isOpen member.2) =
        rest.filter fun member => boxes.isOpen member.2 := by
      refine List.filter_congr ?_
      intro member hMember
      have hNe : member.2 ≠ mailbox := by
        rintro rfl
        exact hHead (List.mem_map.mpr ⟨member, hMember, rfl⟩)
      exact boxes.isOpen_post_of_ne payload hNe
    have hBoxes (id : MailboxId) : (if id ∈ rest.map Prod.snd then
          ((boxes.post mailbox payload).2.lookup id).map fun queue => (queue.offer payload).2
        else (boxes.post mailbox payload).2.lookup id) =
        if id ∈ ((client, mailbox) :: rest).map Prod.snd then
          (boxes.lookup id).map fun queue => (queue.offer payload).2
        else boxes.lookup id := by
      rw [boxes.lookup_post mailbox id payload]
      by_cases hEq : id = mailbox
      · subst hEq
        rw [if_neg hHead, if_pos rfl, List.map_cons, if_pos List.mem_cons_self]
      · have hMem : id ∈ ((client, mailbox) :: rest).map Prod.snd ↔ id ∈ rest.map Prod.snd := by
          simp [hEq]
        simp only [if_neg hEq, hMem]
    have hNext (stats : BroadcastStats) := ih hRest stats (boxes.post mailbox payload).2
    rw [deliver]
    generalize boxes.post mailbox payload = posted at hClosed hOpen hOthers hBoxes hNext
    obtain ⟨offer, posted⟩ := posted
    cases offer with
    | accepted =>
      obtain ⟨hCounts, hKept, hLookup⟩ := hNext { stats with delivered := stats.delivered + 1 }
      refine ⟨?_, ?_, fun id => (hLookup id).trans (hBoxes id)⟩
      · simp only [List.length_cons] at hCounts ⊢
        omega
      · simp [hOpen, hKept, hOthers]
    | full =>
      obtain ⟨hCounts, hKept, hLookup⟩ := hNext { stats with dropped := stats.dropped + 1 }
      refine ⟨?_, ?_, fun id => (hLookup id).trans (hBoxes id)⟩
      · simp only [List.length_cons] at hCounts ⊢
        omega
      · simp [hOpen, hKept, hOthers]
    | closed =>
      obtain ⟨hCounts, hKept, hLookup⟩ := hNext { stats with pruned := stats.pruned + 1 }
      refine ⟨?_, ?_, fun id => (hLookup id).trans (hBoxes id)⟩
      · simp only [List.length_cons] at hCounts ⊢
        omega
      · simp [hClosed.mp rfl, hKept, hOthers]

end Room

end MarketGateway
