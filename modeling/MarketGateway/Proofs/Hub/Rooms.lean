import Mathlib.Tactic.ByContra
import MarketGateway.Hub

/-!
# How rooms change

`Room.Change` lists what a step under the lock of a room can do to it, and `join_spec`,
`leave_spec`, `broadcast_spec` and `closeIfIdle_spec` say which of that each operation does, with
what it answers. Over many steps its generation tells how a room has changed (`Room.Evolves`): its
members come or go completely only in a new one.
-/

namespace MarketGateway

variable {π : Type}

namespace Room

variable {room next last : Room π}

/-- What one step can do to a room. -/
inductive Change (room : Room π) : Room π → Prop
  | kept (running : Bool) (last : Option π) :
      Change room { room with running := running, last := last }
  /-- Members are removed by a broadcast that leaves others. -/
  | pruned {members : List (ClientId × MailboxId)} (running : Bool) (last : Option π)
      (hBefore : room.members ≠ []) (hMembers : members ≠ []) :
      Change room { room with members := members, running := running, last := last }
  /-- A member joins, or leaves others. -/
  | moved {members : List (ClientId × MailboxId)} (running : Bool)
      (hOpen : room.closed = false ∨ room.members ≠ []) (hMembers : members ≠ []) :
      Change room
        { room with members := members, generation := room.generation + 1, running := running }
  | emptied (running : Bool) (last : Option π) (hBefore : room.members ≠ []) :
      Change room
        { room with
          members := [], generation := room.generation + 1, running := running, last := last }
  | shut (running : Bool) (hOpen : room.closed = false) (hEmpty : room.members = []) :
      Change room { room with closed := true, running := running, last := none }

theorem Change.refl (room : Room π) : room.Change room := .kept room.running room.last

/-- The room apart from its feed. -/
def still (room : Room π) : Room π := { room with running := false }

theorem still_feedStopped (room : Room π) : room.feedStopped.still = room.still := by
  unfold feedStopped
  split <;> rfl

theorem Change.of_still (hChange : room.Change next) (hStill : last.still = next.still) :
    room.Change last := by
  obtain ⟨key, members, running, payload, generation, closed⟩ := last
  cases hChange with
  | kept =>
    cases hStill
    exact .kept running _
  | pruned _ _ hBefore hMembers =>
    cases hStill
    exact .pruned running _ hBefore hMembers
  | moved _ hOpen hMembers =>
    cases hStill
    exact .moved running hOpen hMembers
  | emptied _ _ hBefore =>
    cases hStill
    exact .emptied running _ hBefore
  | shut _ hOpen hEmpty =>
    cases hStill
    exact .shut running hOpen hEmpty

theorem members_of_still (hStill : room.still = next.still) :
    room.members ≠ [] ↔ next.members ≠ [] := by
  have hMembers : room.members = next.members := (congrArg Room.members hStill :)
  rw [hMembers]

theorem closed_of_still (hStill : room.still = next.still) :
    room.closed = false ↔ next.closed = false := by
  have hClosed : room.closed = next.closed := (congrArg Room.closed hStill :)
  rw [hClosed]

/-- Without members before and after, the generation stays. -/
theorem Change.generation_of_empty (hChange : room.Change next) (hBefore : room.members = [])
    (hAfter : next.members = []) : next.generation = room.generation := by
  cases hChange with
  | kept | shut => rfl
  | pruned _ _ hSome => exact absurd hBefore hSome
  | moved _ _ hSome => exact absurd hAfter hSome
  | emptied _ _ hSome => exact absurd hBefore hSome

/-- A room that is closed by a step has no members before and after it. -/
theorem Change.empty_of_closed (hChange : room.Change next) (hBefore : room.closed = false)
    (hAfter : next.closed = true) : room.members = [] ∧ next.members = [] := by
  cases hChange with
  | shut _ _ hEmpty => exact ⟨hEmpty, hEmpty⟩
  | kept | pruned | moved | emptied => exact absurd (hBefore.symm.trans hAfter) (by decide)

/-! ## Many steps -/

/-- What steps can do to a room. -/
structure Evolves (room next : Room π) : Prop where
  key : next.key = room.key
  generation : room.generation ≤ next.generation
  /-- Members come and go completely only in a new generation. -/
  occupancy : next.generation = room.generation → (next.members = [] ↔ room.members = [])
  closed : room.closed = true → next.closed = true

theorem Evolves.refl (room : Room π) : room.Evolves room :=
  ⟨rfl, Nat.le_refl _, fun _ => Iff.rfl, id⟩

theorem Evolves.trans (hFirst : room.Evolves next) (hSecond : next.Evolves last) :
    room.Evolves last where
  key := hSecond.key.trans hFirst.key
  generation := Nat.le_trans hFirst.generation hSecond.generation
  occupancy hSame := by
    have hMiddle : next.generation = room.generation :=
      Nat.le_antisymm (hSame ▸ hSecond.generation) hFirst.generation
    exact (hSecond.occupancy (hSame.trans hMiddle.symm)).trans (hFirst.occupancy hMiddle)
  closed hClosed := hSecond.closed (hFirst.closed hClosed)

theorem Evolves.was_open (hEvolves : room.Evolves next) (hOpen : next.closed = false) :
    room.closed = false := by
  cases hClosed : room.closed with
  | false => rfl
  | true => exact absurd (hOpen.symm.trans (hEvolves.closed hClosed)) (by decide)

theorem Change.evolves (hChange : room.Change next) : room.Evolves next := by
  cases hChange with
  | kept => exact ⟨rfl, Nat.le_refl _, fun _ => Iff.rfl, id⟩
  | pruned _ _ hBefore hMembers =>
    exact ⟨rfl, Nat.le_refl _, fun _ => iff_of_false hMembers hBefore, id⟩
  | moved => exact ⟨rfl, Nat.le_succ _, fun hSame => absurd hSame (Nat.succ_ne_self _), id⟩
  | emptied => exact ⟨rfl, Nat.le_succ _, fun hSame => absurd hSame (Nat.succ_ne_self _), id⟩
  | shut => exact ⟨rfl, Nat.le_refl _, fun _ => Iff.rfl, fun _ => rfl⟩

/-- A room that loses its members enters a new generation. -/
theorem Evolves.generation_lt (hEvolves : room.Evolves next) (hBefore : room.members ≠ [])
    (hAfter : next.members = []) : room.generation < next.generation := by
  refine Nat.lt_of_le_of_ne hEvolves.generation ?_
  intro hSame
  exact hBefore ((hEvolves.occupancy hSame.symm).mp hAfter)

/-! ## Operations -/

theorem join_spec (room : Room π) (client : ClientId) (mailbox : MailboxId)
    (boxes : Mailboxes π) :
    (room.closed = true ∧ room.join client mailbox boxes = (none, room, boxes)) ∨
      ∃ start next boxes', room.join client mailbox boxes = (some start, next, boxes') ∧
        room.Change next ∧ next.members ≠ [] := by
  have hMembers : room.members.filter (·.1 != client) ++ [(client, mailbox)] ≠ [] :=
    List.append_ne_nil_of_right_ne_nil _ (List.cons_ne_nil _ _)
  unfold join
  split
  · next hClosed => exact .inl ⟨hClosed, rfl⟩
  · next hOpen =>
    have hOpen' := Bool.eq_false_iff.mpr hOpen
    exact .inr ⟨_, _, _, rfl, .moved true (.inl hOpen') hMembers, hMembers⟩

theorem leave_spec (room : Room π) (client : ClientId) :
    (room.leave client = (.notMember, room)) ∨
      (∃ next, room.leave client = (.others, next) ∧ room.Change next ∧ next.members ≠ []) ∨
      ∃ next, room.leave client = (.emptied next.generation, next) ∧ room.Change next ∧
        room.members ≠ [] ∧ next.members = [] := by
  unfold leave
  split
  · next hMember =>
    have hBefore : room.members ≠ [] := by
      intro hNone
      simp [hasMember, hNone] at hMember
    cases hMembers : room.members.filter (·.1 != client) with
    | nil => exact .inr (.inr ⟨_, rfl, .emptied room.running room.last hBefore, hBefore, rfl⟩)
    | cons first rest =>
      exact .inr (.inl ⟨_, rfl, .moved room.running (.inr hBefore) (List.cons_ne_nil _ _),
        List.cons_ne_nil _ _⟩)
  · exact .inl rfl

/-- Every member is kept or counted as pruned. -/
theorem deliver_pruned (payload : π) (members : List (ClientId × MailboxId))
    (stats : BroadcastStats) (boxes : Mailboxes π) :
    (deliver payload members stats boxes).1.pruned +
        (deliver payload members stats boxes).2.1.length = stats.pruned + members.length := by
  induction members generalizing stats boxes with
  | nil => rfl
  | cons member rest ih =>
    obtain ⟨client, mailbox⟩ := member
    rw [deliver]
    generalize boxes.post mailbox payload = posted
    obtain ⟨offer, boxes⟩ := posted
    cases offer with
    | accepted =>
      have hRest := ih { stats with delivered := stats.delivered + 1 } boxes
      dsimp only at hRest ⊢
      generalize deliver payload rest _ boxes = result at hRest ⊢
      exact congrArg (· + 1) hRest
    | full =>
      have hRest := ih { stats with dropped := stats.dropped + 1 } boxes
      dsimp only at hRest ⊢
      generalize deliver payload rest _ boxes = result at hRest ⊢
      exact congrArg (· + 1) hRest
    | closed =>
      have hRest := ih { stats with pruned := stats.pruned + 1 } boxes
      simp only [List.length_cons] at hRest ⊢
      omega

/-- A broadcast answers that it emptied the room exactly if it did. -/
theorem broadcast_spec (room : Room π) (payload : π) (boxes : Mailboxes π) :
    room.Change (room.broadcast payload boxes).2.1 ∧
      (room.broadcast payload boxes).2.1.closed = room.closed ∧
      ((room.broadcast payload boxes).1.emptied = true ↔
        room.members ≠ [] ∧ (room.broadcast payload boxes).2.1.members = []) := by
  unfold broadcast
  split
  · exact ⟨.refl room, rfl, by simp⟩
  · have hPruned := deliver_pruned payload room.members {} boxes
    generalize deliver payload room.members {} boxes = result at hPruned
    obtain ⟨stats, kept, boxes⟩ := result
    simp only [Nat.zero_add] at hPruned
    cases kept with
    | cons first others =>
      have hBefore : room.members ≠ [] := by
        intro hNone
        simp [hNone] at hPruned
      simpa using Change.pruned room.running (some payload) hBefore (List.cons_ne_nil first others)
    | nil =>
      by_cases hBefore : room.members = []
      · have hNone : stats.pruned = 0 := by simpa [hBefore] using hPruned
        have hKept : room.Change _ := .kept room.running (some payload)
        simpa [hNone, hBefore] using hKept
      · have hSome : 0 < stats.pruned := by
          rw [List.length_nil, Nat.add_zero] at hPruned
          rw [hPruned]
          exact List.length_pos_iff.mpr hBefore
        simpa [hSome, hBefore] using Change.emptied room.running (some payload) hBefore

theorem closeIfIdle_spec (room : Room π) (generation : Nat) :
    (room.closeIfIdle generation = (false, room) ∧
      ¬ (room.closed = false ∧ room.members = [] ∧ room.generation = generation)) ∨
    (∃ next, room.closeIfIdle generation = (true, next) ∧ room.Change next ∧
      room.closed = false ∧ room.members = [] ∧ room.generation = generation ∧
      next.closed = true ∧ next.members = []) := by
  by_cases hIdle : room.closed = false ∧ room.members = [] ∧ room.generation = generation
  · have ⟨hOpen, hEmpty, hGeneration⟩ := hIdle
    refine .inr ⟨_, if_neg ?_, .shut false hOpen hEmpty, hOpen, hEmpty, hGeneration, rfl, hEmpty⟩
    simp [hOpen, hEmpty, hGeneration]
  · refine .inl ⟨if_pos ?_, hIdle⟩
    by_contra hNot
    simp only [Bool.or_eq_true, not_or, Bool.not_eq_true] at hNot
    exact hIdle ⟨hNot.1.1, by simpa using hNot.1.2, by simpa using hNot.2⟩

end Room

end MarketGateway
