import MarketGateway.Proofs.Rpc.Session
import Mathlib.Logic.Relation

/-!
# The ticket of one caller

What can happen to a ticket while its caller waits. `Session.Quiet` relates a session to what it
becomes by a step of anyone: a registration, a caller that leaves or takes its reply, the end of the
connection. Frames are apart, since only a frame brings a reply.

`Session.Tracks` says of a ticket that it stands under no other id than its own and that each reply
under it is the end of the connection or one of the given ones. Quiet steps keep it
(`Tracks.quiet`), and a frame adds a reply only if it answers the id while the entry stands
(`Tracks.dispatch`). Ids need not be distinct: a request that another one displaced is told that the
connection ended.
-/

namespace MarketGateway.Rpc.Session

/-- A step that brings no reply from the exchange. -/
inductive Quiet : Session → Session → Prop
  | register (session : Session) (id : String) : Quiet session (session.register id).2.1
  | abandon (session : Session) (id : String) : Quiet session (session.abandon id).1
  | take (session : Session) (ticket : Ticket) : Quiet session (session.take ticket).2
  | close (session : Session) : Quiet session session.close.2.1

/-- Tickets are handed out in order. -/
structure Fresh (session : Session) : Prop where
  pending : ∀ entry ∈ session.pending, entry.2 < session.nextTicket
  answers : ∀ answer ∈ session.answers, answer.1 < session.nextTicket

/-- A ticket that stands for a request with an id, and the replies that it may have. -/
structure Tracks (session : Session) (id : String) (ticket : Ticket) (given : Reply → Prop) :
    Prop where
  handed : ticket < session.nextTicket
  pending : ∀ other, (other, ticket) ∈ session.pending → other = id
  answers : ∀ reply, (ticket, reply) ∈ session.answers →
    reply = .error .connectionClosed ∨ given reply

variable {session next : Session} {id : String} {ticket : Ticket} {given : Reply → Prop}

theorem mem_answers_resolve {reply : Reply} {answer : Ticket × Reply}
    (hMem : answer ∈ (session.resolve id reply).1.answers) :
    answer ∈ session.answers ∨ ((id, answer.1) ∈ session.pending ∧ answer.2 = reply) := by
  unfold resolve at hMem
  split at hMem
  · next found hLookup =>
      rcases List.mem_append.mp hMem with hOld | hNew
      · exact .inl hOld
      · obtain rfl : answer = (found, reply) := by simpa using hNew
        obtain ⟨front, back, hEq, _⟩ := List.lookup_eq_some_iff.mp hLookup
        exact .inr ⟨by simp [hEq], rfl⟩
  · exact .inl hMem

/-! ## Tickets that are not handed out yet -/

theorem fresh_empty : Fresh {} := ⟨by simp, by simp⟩

theorem Fresh.quiet (hFresh : session.Fresh) (hQuiet : Quiet session next) : next.Fresh := by
  cases hQuiet with
  | register id =>
      cases hClosed : session.closed with
      | true => rwa [register_of_closed hClosed]
      | false =>
          rw [register_of_open hClosed]
          refine ⟨?_, fun answer hAnswer => Nat.lt_succ_of_lt (hFresh.answers answer hAnswer)⟩
          intro entry hEntry
          rcases List.mem_append.mp hEntry with hOld | hNew
          · exact Nat.lt_succ_of_lt (hFresh.pending entry (mem_without.mp hOld).1)
          · obtain rfl : entry = (id, session.nextTicket) := by simpa using hNew
            exact Nat.lt_succ_self _
  | abandon id =>
      rw [abandon_eq]
      exact ⟨fun entry hEntry => hFresh.pending entry (mem_without.mp hEntry).1, hFresh.answers⟩
  | take taken =>
      exact ⟨hFresh.pending, fun answer hAnswer =>
        hFresh.answers answer (List.mem_of_mem_filter hAnswer)⟩
  | close =>
      refine ⟨by simp [close], ?_⟩
      intro answer hAnswer
      rcases List.mem_append.mp hAnswer with hOld | hFailed
      · exact hFresh.answers answer hOld
      · obtain ⟨entry, hEntry, rfl⟩ := List.mem_map.mp hFailed
        exact hFresh.pending entry hEntry

theorem Fresh.quiets (hFresh : session.Fresh) (hQuiets : Relation.ReflTransGen Quiet session next) :
    next.Fresh := by
  induction hQuiets with
  | refl => exact hFresh
  | tail _ hQuiet ih => exact ih.quiet hQuiet

theorem Fresh.dispatch (hFresh : session.Fresh) (text : String) :
    (session.dispatch text).1.Fresh := by
  rcases dispatch_cases session text with ⟨hSame, -⟩ | ⟨id, reply, _, hResolve⟩
  · rwa [hSame]
  · rw [hResolve]
    refine ⟨fun entry hEntry => hFresh.pending entry (mem_without.mp hEntry).1, ?_⟩
    intro answer hAnswer
    rcases mem_answers_resolve hAnswer with hOld | ⟨hPending, _⟩
    · exact hFresh.answers answer hOld
    · exact hFresh.pending _ hPending

/-! ## The ticket of a waiting caller -/

theorem Tracks.mono {more : Reply → Prop} (hTracks : session.Tracks id ticket given)
    (hMore : ∀ reply, given reply → more reply) : session.Tracks id ticket more :=
  ⟨hTracks.handed, hTracks.pending,
    fun reply hAnswer => (hTracks.answers reply hAnswer).imp_right (hMore reply)⟩

/-- A ticket that is just handed out has no reply. -/
theorem tracks_register (hFresh : session.Fresh) (hOpen : session.closed = false) (id : String)
    (given : Reply → Prop) : (session.register id).2.1.Tracks id session.nextTicket given := by
  rw [register_of_open hOpen]
  refine ⟨Nat.lt_succ_self _, ?_, ?_⟩
  · intro other hMem
    rcases List.mem_append.mp hMem with hOld | hNew
    · exact absurd (hFresh.pending _ (mem_without.mp hOld).1) (Nat.lt_irrefl _)
    · simpa using hNew
  · intro reply hMem
    exact absurd (hFresh.answers _ hMem) (Nat.lt_irrefl _)

theorem Tracks.quiet (hTracks : session.Tracks id ticket given) (hQuiet : Quiet session next) :
    next.Tracks id ticket given := by
  cases hQuiet with
  | register other =>
      cases hClosed : session.closed with
      | true => rwa [register_of_closed hClosed]
      | false =>
          rw [register_of_open hClosed]
          refine ⟨Nat.lt_succ_of_lt hTracks.handed, ?_, hTracks.answers⟩
          intro name hMem
          rcases List.mem_append.mp hMem with hOld | hNew
          · exact hTracks.pending name (mem_without.mp hOld).1
          · obtain ⟨_, hTicket⟩ : name = other ∧ ticket = session.nextTicket := by simpa using hNew
            exact absurd hTicket (Nat.ne_of_lt hTracks.handed)
  | abandon other =>
      rw [abandon_eq]
      exact ⟨hTracks.handed, fun name hMem => hTracks.pending name (mem_without.mp hMem).1,
        hTracks.answers⟩
  | take taken =>
      exact ⟨hTracks.handed, hTracks.pending, fun reply hAnswer =>
        hTracks.answers reply (List.mem_of_mem_filter hAnswer)⟩
  | close =>
      refine ⟨hTracks.handed, by simp [close], ?_⟩
      intro reply hAnswer
      rcases List.mem_append.mp hAnswer with hOld | hFailed
      · exact hTracks.answers reply hOld
      · obtain ⟨entry, _, hEq⟩ := List.mem_map.mp hFailed
        exact .inl (Prod.mk.inj hEq).2.symm

theorem Tracks.quiets (hTracks : session.Tracks id ticket given)
    (hQuiets : Relation.ReflTransGen Quiet session next) : next.Tracks id ticket given := by
  induction hQuiets with
  | refl => exact hTracks
  | tail _ hQuiet ih => exact ih.quiet hQuiet

theorem Tracks.dispatch (hTracks : session.Tracks id ticket given) {text : String}
    (hGiven : ∀ reply, (id, ticket) ∈ session.pending → Answers text id reply → given reply) :
    (session.dispatch text).1.Tracks id ticket given := by
  rcases dispatch_cases session text with ⟨hSame, -⟩ | ⟨other, reply, hAnswers, hResolve⟩
  · rwa [hSame]
  · rw [hResolve]
    refine ⟨hTracks.handed, fun name hMem => hTracks.pending name (mem_without.mp hMem).1, ?_⟩
    intro found hMem
    rcases mem_answers_resolve hMem with hOld | ⟨hPending, hFound⟩
    · exact hTracks.answers found hOld
    · obtain rfl := hTracks.pending other hPending
      obtain rfl : found = reply := hFound
      exact .inr (hGiven found hPending hAnswers)

end MarketGateway.Rpc.Session
