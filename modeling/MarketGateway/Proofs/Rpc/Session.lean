import MarketGateway.Proofs.Lists
import MarketGateway.Rpc.Session
import Mathlib.Data.List.Basic
import Mathlib.Data.List.Nodup
import Mathlib.Data.List.Perm.Basic

/-!
# What the steps of a session do to its table

A response frame answers one request: `Answers text id reply` says that `text` decodes to a frame
that carries `id` and that `reply` is its content. Everything that ends the wait of some callers
does so in one way: the entries under certain ids leave the table and their tickets get an answer.
`dispatch_spec`, `abandon_eq` and `close_eq` give the ids and the answer for each of these steps.
-/

namespace MarketGateway.Rpc

/-- A text answers the request with an id. -/
def Answers (text id : String) (reply : Reply) : Prop :=
  ∃ frame, Json.readAll ResponseFrame.form.read text = .ok frame ∧ frame.id = some id ∧
    reply = Session.replyOf frame

theorem Answers.unique {text id other : String} {reply second : Reply}
    (hFirst : Answers text id reply) (hSecond : Answers text other second) :
    id = other ∧ reply = second := by
  obtain ⟨frame, hRead, hId, rfl⟩ := hFirst
  obtain ⟨same, hReadSame, hIdSame, rfl⟩ := hSecond
  obtain rfl : frame = same := Except.ok.inj (hRead.symm.trans hReadSame)
  exact ⟨Option.some.inj (hId.symm.trans hIdSame), rfl⟩

/-- A frame gives a result or what the exchange refused, nothing else. -/
theorem Answers.content {text id : String} {reply : Reply} (hAnswers : Answers text id reply) :
    (∃ result, reply = .ok result) ∨ ∃ refusal, reply = .error (.exchange refusal) := by
  obtain ⟨frame, _, _, rfl⟩ := hAnswers
  unfold Session.replyOf
  split
  · exact .inr ⟨_, rfl⟩
  · exact .inl ⟨_, rfl⟩
  · exact .inl ⟨_, rfl⟩

namespace Session

variable {session : Session} {id : String} {ticket : Ticket}

/-! ## The table -/

theorem mem_without {pending : List (String × Ticket)} {entry : String × Ticket} :
    entry ∈ without pending id ↔ entry ∈ pending ∧ entry.1 ≠ id := by
  simp [without]

theorem without_of_not_mem {pending : List (String × Ticket)}
    (hAbsent : id ∉ pending.map Prod.fst) : without pending id = pending := by
  refine List.filter_eq_self.mpr ?_
  intro entry hEntry
  have hNe : entry.1 ≠ id := fun hEq => hAbsent (hEq ▸ List.mem_map_of_mem hEntry)
  simpa using hNe

theorem lookup_of_answered {reply : Reply} (hDelivery : session.delivery ticket = .answered reply) :
    session.answers.lookup ticket = some reply := by
  unfold delivery at hDelivery
  split at hDelivery
  · cases hDelivery
  · split at hDelivery
    · next hSome => rw [hSome, Delivery.answered.inj hDelivery]
    · cases hDelivery

/-- No answer will come for a ticket that neither waits nor has one. -/
theorem absent_of_gone (hDelivery : session.delivery ticket = .gone) :
    ticket ∉ session.pending.map Prod.snd ∧ ticket ∉ session.answers.map Prod.fst := by
  unfold delivery at hDelivery
  split at hDelivery
  · cases hDelivery
  · next hNotPending =>
      split at hDelivery
      · cases hDelivery
      · next hNone =>
          refine ⟨fun hMem => hNotPending ?_, fun hMem => ?_⟩
          · obtain ⟨entry, hEntry, hTicket⟩ := List.mem_map.mp hMem
            exact List.any_eq_true.mpr ⟨entry, hEntry, by simp [hTicket]⟩
          · obtain ⟨answer, hAnswer, hTicket⟩ := List.mem_map.mp hMem
            have hDiffers := List.lookup_eq_none_iff.mp hNone answer hAnswer
            simp [hTicket] at hDiffers

/-! ## What the steps do -/

/-- The entries that a condition on ids selects leave the table, and their tickets get a reply. -/
def release (session : Session) (ends : String → Bool) (reply : Reply) : Session :=
  { session with
    pending := session.pending.filter (fun entry => !ends entry.1)
    answers := session.answers ++
      (session.pending.filter (fun entry => ends entry.1)).map (fun entry => (entry.2, reply)) }

theorem release_none (session : Session) (reply : Reply) :
    session.release (fun _ => false) reply = session := by
  simp [release]

theorem resolve_eq (hIds : (session.pending.map Prod.fst).Nodup) (id : String) (reply : Reply) :
    (session.resolve id reply).1 = session.release (· == id) reply := by
  have hPending : without session.pending id =
      session.pending.filter (fun entry => !(entry.1 == id)) := rfl
  unfold resolve release
  rw [filter_eq_lookup hIds, hPending]
  cases session.pending.lookup id <;> simp

/-- A frame resolves the request that it answers, and does nothing if it answers none. -/
theorem dispatch_cases (session : Session) (text : String) :
    ((session.dispatch text).1 = session ∧ ∀ id reply, ¬ Answers text id reply) ∨
      ∃ id reply, Answers text id reply ∧
        (session.dispatch text).1 = (session.resolve id reply).1 := by
  unfold dispatch
  split
  · next fault hRead =>
      refine .inl ⟨rfl, ?_⟩
      rintro id reply ⟨frame, hFrame, -⟩
      cases hRead.symm.trans hFrame
  · next frame hRead =>
      split
      · next hId =>
          refine .inl ⟨rfl, ?_⟩
          rintro id reply ⟨same, hSame, hSome, -⟩
          obtain rfl : frame = same := Except.ok.inj (hRead.symm.trans hSame)
          cases hId.symm.trans hSome
      · next id hId => exact .inr ⟨id, _, ⟨frame, hRead, hId, rfl⟩, rfl⟩

/-- A frame releases the request that it answers, and nothing if it answers none. -/
theorem dispatch_spec (hIds : (session.pending.map Prod.fst).Nodup) (text : String) :
    ∃ ends reply, (∀ id given, Answers text id given ↔ ends id = true ∧ given = reply) ∧
      (session.dispatch text).1 = session.release ends reply := by
  rcases dispatch_cases session text with ⟨hSame, hNone⟩ | ⟨id, reply, hAnswers, hResolve⟩
  · refine ⟨fun _ => false, .ok .null, ?_, hSame.trans (session.release_none _).symm⟩
    intro id given
    simp [hNone id given]
  · refine ⟨(· == id), reply, ?_, hResolve.trans (resolve_eq hIds id reply)⟩
    intro other given
    constructor
    · intro hOther
      obtain ⟨rfl, rfl⟩ := hOther.unique hAnswers
      exact ⟨by simp, rfl⟩
    · rintro ⟨hOther, rfl⟩
      obtain rfl : other = id := by simpa using hOther
      exact hAnswers

theorem abandon_eq (session : Session) (id : String) :
    (session.abandon id).1 = { session with pending := without session.pending id } := by
  unfold abandon
  split
  · rfl
  · next hNone =>
      have hAbsent : id ∉ session.pending.map Prod.fst := by
        intro hMem
        obtain ⟨entry, hEntry, hId⟩ := List.mem_map.mp hMem
        exact hNone (List.lookup_isSome_iff.mpr ⟨entry, hEntry, by simp [hId]⟩)
      rw [without_of_not_mem hAbsent]

theorem close_eq (session : Session) :
    session.close.2.1 =
      { session.release (fun _ => true) (.error .connectionClosed) with closed := true } := by
  simp [close, release]

@[simp] theorem closed_resolve (session : Session) (id : String) (reply : Reply) :
    (session.resolve id reply).1.closed = session.closed := rfl

@[simp] theorem closed_dispatch (session : Session) (text : String) :
    (session.dispatch text).1.closed = session.closed := by
  rcases dispatch_cases session text with ⟨hSame, -⟩ | ⟨id, reply, -, hResolve⟩
  · rw [hSame]
  · rw [hResolve, closed_resolve]

@[simp] theorem closed_abandon (session : Session) (id : String) :
    (session.abandon id).1.closed = session.closed := by
  rw [abandon_eq]

@[simp] theorem closed_register (session : Session) (id : String) :
    (session.register id).2.1.closed = session.closed := by
  unfold register
  split <;> rfl

theorem register_of_closed (hClosed : session.closed = true) (id : String) :
    session.register id = (.error .connectionClosed, session, []) := by
  simp [register, hClosed]

theorem register_of_open (hOpen : session.closed = false) (id : String) :
    session.register id = (.ok session.nextTicket,
      { session with
        pending := without session.pending id ++ [(id, session.nextTicket)]
        nextTicket := session.nextTicket + 1 },
      [.rpcPending (without session.pending id ++ [(id, session.nextTicket)]).length]) := by
  simp [register, hOpen]

end Session

end MarketGateway.Rpc
