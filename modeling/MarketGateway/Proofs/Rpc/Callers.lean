import MarketGateway.Proofs.Rpc.Session
import Mathlib.Data.List.Induction
import Mathlib.Data.List.Perm.Subperm

/-!
# The callers of one session

`Callers` is a session together with those who wait on it. A run is any list of events: a request
is registered, a frame comes in, a caller gives up, a caller looks for its answer, the session is
closed. `Pending events id` says of a run, without a look at any table, that the request is
registered and that nothing has ended its wait since; `Ended events id outcome` says that its wait
was ended and how.

`run_faithful` ties the table to these: with ids that are registered once each, the table
holds the requests that are pending, and what callers find is what ended their waits, once each.
The invariant `Callers.Sound` accounts for every ticket that was handed out: it stands in the table
or in the log of outcomes, never in both and never twice.
-/

namespace MarketGateway.Rpc

/-- How the wait of a caller ends. -/
inductive Outcome
  | replied (reply : Reply)
  | gaveUp

/-- A session and its callers. -/
structure Callers where
  session : Session := {}
  /-- Callers that were let in, with the ids of their requests. -/
  admitted : List (String × Ticket) := []
  /-- Requests that were turned away, and why. -/
  refused : List (String × RpcError) := []
  /-- Outcomes of callers that took a reply or gave up. -/
  ended : List (Ticket × Outcome) := []

namespace Callers

/-- What can happen to a session and its callers. -/
inductive Event
  | register (id : String)
  | frame (text : String)
  /-- The caller stops waiting. -/
  | giveUp (id : String)
  /-- The caller looks for its answer. -/
  | collect (id : String)
  | close

/-- A caller looks for its answer and leaves if there is one or none can come. -/
def collect (world : Callers) (ticket : Ticket) : Callers :=
  if world.ended.any (·.1 == ticket) then world
  else
    match world.session.take ticket with
    | (.waiting, _) => world
    | (.answered reply, session) =>
      { world with session := session, ended := world.ended ++ [(ticket, .replied reply)] }
    | (.gone, session) =>
      { world with
        session := session
        ended := world.ended ++ [(ticket, .replied (.error .connectionClosed))] }

def step (world : Callers) : Event → Callers
  | .register id =>
    match world.session.register id with
    | (.ok ticket, session, _) =>
      { world with session := session, admitted := world.admitted ++ [(id, ticket)] }
    | (.error failure, session, _) =>
      { world with session := session, refused := world.refused ++ [(id, failure)] }
  | .frame text => { world with session := (world.session.dispatch text).1 }
  | .giveUp id =>
    { world with
      session := (world.session.abandon id).1
      ended := world.ended ++
        (world.session.pending.lookup id).toList.map (fun ticket => (ticket, .gaveUp)) }
  | .collect id =>
    match world.admitted.lookup id with
    | some ticket => world.collect ticket
    | none => world
  | .close => { world with session := world.session.close.2.1 }

def run (events : List Event) : Callers := events.foldl step {}

/-- Every outcome with the ticket of its caller, those that lie ready included. -/
def log (world : Callers) : List (Ticket × Outcome) :=
  world.ended ++ world.session.answers.map (fun answer => (answer.1, .replied answer.2))

/-- The outcomes of the callers with an id. -/
def outcomes (world : Callers) (id : String) : List Outcome :=
  (world.admitted.filter (·.1 == id)).flatMap fun caller =>
    (world.log.filter (·.1 == caller.2)).map Prod.snd

/-! ## Reading a run -/

/-- The ids that are registered, in order. -/
def registered (events : List Event) : List String :=
  events.filterMap fun
    | .register id => some id
    | _ => none

/-- The event ends the wait of a pending request in this way. -/
def Event.Releases (id : String) (outcome : Outcome) : Event → Prop
  | .frame text => ∃ reply, Answers text id reply ∧ outcome = .replied reply
  | .giveUp other => other = id ∧ outcome = .gaveUp
  | .close => outcome = .replied (.error .connectionClosed)
  | .register _ | .collect _ => False

/-- The request was registered with an open session, and nothing has ended its wait. -/
def Pending (events : List Event) (id : String) : Prop :=
  ∃ before since, events = before ++ .register id :: since ∧ .close ∉ before ∧
    ∀ event ∈ since, ∀ outcome, ¬ event.Releases id outcome

/-- The request was pending until an event ended its wait in this way. -/
def Ended (events : List Event) (id : String) (outcome : Outcome) : Prop :=
  ∃ before event since, events = before ++ event :: since ∧ Pending before id ∧
    event.Releases id outcome

/-- The request was registered after the session was closed. -/
def CameLate (events : List Event) (id : String) : Prop :=
  ∃ before since, events = before ++ .register id :: since ∧ .close ∈ before

variable {events : List Event} {event : Event} {id : String} {outcome : Outcome}

theorem pending_snoc :
    Pending (events ++ [event]) id ↔
      (event = .register id ∧ .close ∉ events) ∨
        (Pending events id ∧ ∀ outcome, ¬ event.Releases id outcome) := by
  constructor
  · rintro ⟨before, since, hEq, hOpen, hQuiet⟩
    rcases snoc_eq_append_cons.mp hEq with ⟨rest, rfl, rfl⟩ | ⟨rfl, rfl, rfl⟩
    · refine .inr ⟨⟨before, rest, rfl, hOpen, ?_⟩, hQuiet event (by simp)⟩
      exact fun e he => hQuiet e (List.mem_append_left _ he)
    · exact .inl ⟨rfl, hOpen⟩
  · rintro (⟨rfl, hOpen⟩ | ⟨⟨before, since, rfl, hOpen, hQuiet⟩, hLast⟩)
    · exact ⟨events, [], rfl, hOpen, by simp⟩
    · refine ⟨before, since ++ [event], by simp, hOpen, ?_⟩
      intro e he
      rcases List.mem_append.mp he with hOld | hNew
      · exact hQuiet e hOld
      · obtain rfl : e = event := by simpa using hNew
        exact hLast

theorem ended_snoc :
    Ended (events ++ [event]) id outcome ↔
      Ended events id outcome ∨ (Pending events id ∧ event.Releases id outcome) := by
  constructor
  · rintro ⟨before, e, since, hEq, hPending, hReleases⟩
    rcases snoc_eq_append_cons.mp hEq with ⟨rest, rfl, rfl⟩ | ⟨rfl, rfl, rfl⟩
    · exact .inl ⟨before, e, rest, rfl, hPending, hReleases⟩
    · exact .inr ⟨hPending, hReleases⟩
  · rintro (⟨before, e, since, rfl, hPending, hReleases⟩ | ⟨hPending, hReleases⟩)
    · exact ⟨before, e, since ++ [event], by simp, hPending, hReleases⟩
    · exact ⟨events, event, [], rfl, hPending, hReleases⟩

theorem cameLate_snoc :
    CameLate (events ++ [event]) id ↔
      CameLate events id ∨ (event = .register id ∧ .close ∈ events) := by
  constructor
  · rintro ⟨before, since, hEq, hClosed⟩
    rcases snoc_eq_append_cons.mp hEq with ⟨rest, rfl, rfl⟩ | ⟨rfl, rfl, rfl⟩
    · exact .inl ⟨before, rest, rfl, hClosed⟩
    · exact .inr ⟨rfl, hClosed⟩
  · rintro (⟨before, since, rfl, hClosed⟩ | ⟨rfl, hClosed⟩)
    · exact ⟨before, since ++ [event], by simp, hClosed⟩
    · exact ⟨events, [], rfl, hClosed⟩

theorem registered_snoc :
    registered (events ++ [event]) = registered events ++ registered [event] := by
  simp [registered]

/-! ## What one step does -/

/-- A request is let in. -/
structure Entered (world next : Callers) (id : String) : Prop where
  isOpen : world.session.closed = false
  admitted : next.admitted = world.admitted ++ [(id, world.session.nextTicket)]
  pending : next.session.pending = world.session.pending ++ [(id, world.session.nextTicket)]
  log : next.log = world.log
  nextTicket : next.session.nextTicket = world.session.nextTicket + 1

/-- The waits under certain ids end in one way; nobody is let in. -/
structure Released (world next : Callers) (ends : String → Bool) (outcome : Outcome) : Prop where
  admitted : next.admitted = world.admitted
  pending : next.session.pending = world.session.pending.filter (fun entry => !ends entry.1)
  log : next.log.Perm (world.log ++
    (world.session.pending.filter (fun entry => ends entry.1)).map fun entry => (entry.2, outcome))
  nextTicket : next.session.nextTicket = world.session.nextTicket

/-- Every ticket is accounted for: it waits in the table or has one outcome. -/
structure Sound (world : Callers) : Prop where
  tickets : world.admitted.map Prod.snd = List.range world.session.nextTicket
  pending : world.session.pending.Sublist world.admitted
  account : (world.admitted.map Prod.snd).Perm
    (world.session.pending.map Prod.snd ++ world.log.map Prod.fst)
  closed : world.session.closed = true → world.session.pending = []

variable {world next : Callers}

theorem Released.nothing (hAdmitted : next.admitted = world.admitted)
    (hPending : next.session.pending = world.session.pending) (hLog : next.log.Perm world.log)
    (hTicket : next.session.nextTicket = world.session.nextTicket) (outcome : Outcome) :
    Released world next (fun _ => false) outcome :=
  ⟨hAdmitted, by simpa using hPending, by simpa using hLog, hTicket⟩

theorem Sound.nodup (hSound : world.Sound) :
    (world.session.pending.map Prod.snd ++ world.log.map Prod.fst).Nodup :=
  hSound.account.nodup_iff.mp (hSound.tickets ▸ List.nodup_range)

theorem Sound.ids (hSound : world.Sound) (hIds : (world.admitted.map Prod.fst).Nodup) :
    (world.session.pending.map Prod.fst).Nodup :=
  (hSound.pending.map Prod.fst).nodup hIds

/-- A reply that is taken stays in the log. -/
theorem log_perm_of_taken {ticket : Ticket} {reply : Reply}
    (hTickets : (world.session.answers.map Prod.fst).Nodup)
    (hLookup : world.session.answers.lookup ticket = some reply) :
    ({ world with
        session := (world.session.take ticket).2
        ended := world.ended ++ [(ticket, .replied reply)] } : Callers).log.Perm world.log := by
  have hFound : world.session.answers.filter (·.1 == ticket) = [(ticket, reply)] := by
    rw [filter_eq_lookup hTickets, hLookup]
    rfl
  have hSplit := List.filter_append_perm (fun answer => answer.1 == ticket) world.session.answers
  rw [hFound] at hSplit
  simp only [log, List.append_assoc]
  refine List.Perm.append_left world.ended ?_
  exact hSplit.map (fun answer => (answer.1, Outcome.replied answer.2))

theorem collect_released (hSound : world.Sound) {ticket : Ticket}
    (hAdmitted : ticket ∈ world.admitted.map Prod.snd) (outcome : Outcome) :
    Released world (world.collect ticket) (fun _ => false) outcome := by
  have hNodup : (world.session.answers.map Prod.fst).Nodup := by
    have hLog := (List.nodup_append.mp hSound.nodup).2.1
    rw [log, List.map_append, List.map_map] at hLog
    exact (List.nodup_append.mp hLog).2.1
  unfold collect
  split
  · exact .nothing rfl rfl (.refl _) rfl outcome
  · next hNotEnded =>
      split
      · exact .nothing rfl rfl (.refl _) rfl outcome
      · next reply session hTake =>
          obtain ⟨hDelivery, rfl⟩ := Prod.mk.inj hTake
          have hLog := log_perm_of_taken hNodup (Session.lookup_of_answered hDelivery)
          exact .nothing (by rfl) (by rfl) hLog (by rfl) outcome
      · next session hTake =>
          -- A ticket that was handed out is accounted for, so its caller is never told this.
          obtain ⟨hDelivery, rfl⟩ := Prod.mk.inj hTake
          obtain ⟨hNotPending, hNotReady⟩ := Session.absent_of_gone hDelivery
          have hPlace := hSound.account.mem_iff.mp hAdmitted
          simp only [log, List.map_append, List.map_map, List.mem_append] at hPlace
          rcases hPlace with hPending | hEnded | hReady
          · exact absurd hPending hNotPending
          · obtain ⟨entry, hEntry, hTicket⟩ := List.mem_map.mp hEnded
            exact absurd (List.any_eq_true.mpr ⟨entry, hEntry, by simp [hTicket]⟩) hNotEnded
          · exact absurd hReady hNotReady

theorem closed_step (world : Callers) (event : Event) :
    (world.step event).session.closed = true ↔ world.session.closed = true ∨ event = .close := by
  cases event with
  | register id =>
      cases hClosed : world.session.closed with
      | true => simp [step, Session.register_of_closed hClosed, hClosed]
      | false => simp [step, Session.register_of_open hClosed, hClosed]
  | frame text => simp [step]
  | giveUp id => simp [step]
  | collect id =>
      simp only [step, reduceCtorEq, or_false]
      split
      · unfold collect
        split
        · rfl
        · split
          · rfl
          · next hTake =>
              obtain ⟨_, rfl⟩ := Prod.mk.inj hTake
              rfl
          · next hTake =>
              obtain ⟨_, rfl⟩ := Prod.mk.inj hTake
              rfl
      · rfl
  | close => simp [step, Session.close]

theorem mem_refused_step (world : Callers) (event : Event) (id : String) (failure : RpcError) :
    (id, failure) ∈ (world.step event).refused ↔ (id, failure) ∈ world.refused ∨
      (failure = .connectionClosed ∧ event = .register id ∧ world.session.closed = true) := by
  cases event with
  | register other =>
      cases hClosed : world.session.closed with
      | true =>
          simp only [step, Session.register_of_closed hClosed, List.mem_append, List.mem_singleton,
            Prod.mk.injEq, Event.register.injEq, and_true]
          grind
      | false => simp [step, Session.register_of_open hClosed]
  | frame text => simp [step]
  | giveUp other => simp [step]
  | collect other =>
      simp only [step, reduceCtorEq, false_and, and_false, or_false]
      split
      · unfold collect
        split
        · rfl
        · split <;> rfl
      · rfl
  | close => simp [step]

/-- A step lets one request in or ends waits in one way. -/
theorem step_cases (hSound : world.Sound) (hIds : (world.admitted.map Prod.fst).Nodup)
    (hNew : ∀ id, event = .register id → id ∉ world.admitted.map Prod.fst) :
    (∃ id, event = .register id ∧ Entered world (world.step event) id) ∨
      ∃ ends outcome, (∀ id given, event.Releases id given ↔ ends id = true ∧ given = outcome) ∧
        (∀ id, event = .register id → world.session.closed = true) ∧
        Released world (world.step event) ends outcome := by
  have hNothing : ∀ id given, False ↔ (fun _ : String => false) id = true ∧ given = Outcome.gaveUp := by
    simp
  cases event with
  | register id =>
      cases hClosed : world.session.closed with
      | true =>
          refine .inr ⟨fun _ => false, .gaveUp, hNothing, fun _ _ => rfl, ?_⟩
          simp only [step, Session.register_of_closed hClosed]
          exact .nothing (by rfl) (by rfl) (by exact .refl _) (by rfl) _
      | false =>
          have hAbsent : id ∉ world.session.pending.map Prod.fst :=
            fun hMem => hNew id rfl ((hSound.pending.map Prod.fst).subset hMem)
          refine .inl ⟨id, rfl, ?_⟩
          simp only [step, Session.register_of_open hClosed, Session.without_of_not_mem hAbsent]
          exact ⟨hClosed, rfl, rfl, rfl, rfl⟩
  | frame text =>
      obtain ⟨ends, reply, hEnds, hDispatch⟩ := Session.dispatch_spec (hSound.ids hIds) text
      refine .inr ⟨ends, .replied reply, ?_, by simp, ?_⟩
      · intro id given
        simp only [Event.Releases, hEnds]
        grind
      · simp only [step, hDispatch]
        refine ⟨rfl, rfl, ?_, rfl⟩
        simp [log, Session.release, Function.comp_def]
  | giveUp id =>
      refine .inr ⟨(· == id), .gaveUp, ?_, by simp, ?_⟩
      · intro other given
        simp only [Event.Releases, beq_iff_eq]
        exact and_congr_left fun _ => eq_comm
      · simp only [step, Session.abandon_eq]
        refine ⟨rfl, rfl, ?_, rfl⟩
        rw [filter_eq_lookup (hSound.ids hIds)]
        simp only [log, List.map_map, List.append_assoc]
        exact List.perm_append_comm.append_left world.ended
  | collect id =>
      refine .inr ⟨fun _ => false, .gaveUp, hNothing, by simp, ?_⟩
      simp only [step]
      split
      · next ticket hLookup =>
          have hMem : ticket ∈ world.admitted.map Prod.snd := by
            obtain ⟨front, back, hEq, _⟩ := List.lookup_eq_some_iff.mp hLookup
            simp [hEq]
          exact collect_released hSound hMem _
      · exact .nothing rfl rfl (.refl _) rfl _
  | close =>
      refine .inr ⟨fun _ => true, .replied (.error .connectionClosed), ?_, by simp, ?_⟩
      · simp [Event.Releases]
      · simp only [step, Session.close_eq]
        refine ⟨rfl, rfl, ?_, rfl⟩
        simp [log, Session.release, Function.comp_def]

/-! ## Whole runs -/

theorem Entered.account (hStep : Entered world next id) (hSound : world.Sound) :
    (next.admitted.map Prod.snd).Perm
      (next.session.pending.map Prod.snd ++ next.log.map Prod.fst) := by
  rw [hStep.admitted, hStep.pending, hStep.log, List.map_append, List.map_append, List.append_assoc]
  refine (hSound.account.append_right _).trans ?_
  rw [List.append_assoc]
  exact List.perm_append_comm.append_left _

theorem Released.account {ends : String → Bool} (hStep : Released world next ends outcome)
    (hSound : world.Sound) :
    (next.admitted.map Prod.snd).Perm
      (next.session.pending.map Prod.snd ++ next.log.map Prod.fst) := by
  rw [hStep.admitted, hStep.pending]
  refine hSound.account.trans ?_
  have hSplit := (List.filter_append_perm (fun entry => ends entry.1)
    world.session.pending).map Prod.snd
  have hLog := hStep.log.map Prod.fst
  rw [List.map_append] at hSplit
  rw [List.map_append, List.map_map] at hLog
  refine (hSplit.symm.append_right _).trans ?_
  refine List.Perm.trans ?_ (hLog.symm.append_left _)
  simp only [Function.comp_def]
  rw [List.append_assoc]
  exact List.perm_append_comm.trans (by simp)

theorem Sound.step (hSound : world.Sound) (hIds : (world.admitted.map Prod.fst).Nodup)
    (hNew : ∀ id, event = .register id → id ∉ world.admitted.map Prod.fst) :
    (world.step event).Sound := by
  rcases step_cases hSound hIds hNew with ⟨id, rfl, hStep⟩ | ⟨ends, outcome, hEnds, _, hStep⟩
  · refine ⟨?_, ?_, hStep.account hSound, ?_⟩
    · rw [hStep.admitted, hStep.nextTicket, List.map_append, hSound.tickets, List.range_succ]
      rfl
    · rw [hStep.admitted, hStep.pending]
      exact hSound.pending.append (.refl _)
    · intro hClosed
      rcases (closed_step world _).mp hClosed with hOld | hClose
      · rw [hStep.isOpen] at hOld
        cases hOld
      · cases hClose
  · refine ⟨?_, ?_, hStep.account hSound, ?_⟩
    · rw [hStep.admitted, hStep.nextTicket, hSound.tickets]
    · rw [hStep.admitted, hStep.pending]
      exact List.filter_sublist.trans hSound.pending
    · intro hClosed
      rw [hStep.pending]
      rcases (closed_step world event).mp hClosed with hOld | rfl
      · rw [hSound.closed hOld, List.filter_nil]
      · have hAll (id : String) : ends id = true := ((hEnds id _).mp rfl).1
        simp [hAll]

/-- A caller with the id has the outcome. -/
def Has (world : Callers) (id : String) (outcome : Outcome) : Prop :=
  ∃ ticket, (id, ticket) ∈ world.admitted ∧ (ticket, outcome) ∈ world.log

/-- A new ticket has no outcome yet. -/
theorem Entered.has_iff {other : String} (hStep : Entered world next id) (hSound : world.Sound) :
    next.Has other outcome ↔ world.Has other outcome := by
  rw [Has, hStep.admitted, hStep.log]
  refine exists_congr fun ticket => and_congr_left fun hLog => ?_
  have hHanded : ticket ∈ world.admitted.map Prod.snd :=
    hSound.account.mem_iff.mpr (List.mem_append_right _ (List.mem_map_of_mem (f := Prod.fst) hLog))
  rw [hSound.tickets, List.mem_range] at hHanded
  rw [List.mem_append, List.mem_singleton, Prod.mk.injEq]
  exact or_iff_left fun hEq => Nat.ne_of_lt hHanded hEq.2

theorem Released.mem_pending {ends : String → Bool} (hStep : Released world next ends outcome) :
    id ∈ next.session.pending.map Prod.fst ↔
      id ∈ world.session.pending.map Prod.fst ∧ ends id = false := by
  rw [hStep.pending]
  simp only [List.mem_map, List.mem_filter, Bool.not_eq_true']
  constructor
  · rintro ⟨entry, ⟨hEntry, hStays⟩, rfl⟩
    exact ⟨⟨entry, hEntry, rfl⟩, hStays⟩
  · rintro ⟨⟨entry, hEntry, rfl⟩, hStays⟩
    exact ⟨entry, ⟨hEntry, hStays⟩, rfl⟩

theorem Released.has_iff {ends : String → Bool} {given : Outcome}
    (hStep : Released world next ends outcome) (hSound : world.Sound) :
    next.Has id given ↔ world.Has id given ∨
      (id ∈ world.session.pending.map Prod.fst ∧ ends id = true ∧ given = outcome) := by
  have hTickets : (world.admitted.map Prod.snd).Nodup := hSound.tickets ▸ List.nodup_range
  simp only [Has, hStep.admitted, hStep.log.mem_iff, List.mem_append, List.mem_map,
    List.mem_filter, and_or_left, exists_or, Prod.mk.injEq]
  refine or_congr_right ⟨?_, ?_⟩
  · rintro ⟨ticket, hAdmitted, entry, ⟨hEntry, hEnd⟩, rfl, rfl⟩
    have hSame : entry.1 = id := congrArg Prod.fst
      (List.inj_on_of_nodup_map hTickets (hSound.pending.subset hEntry) hAdmitted rfl)
    exact ⟨⟨entry, hEntry, hSame⟩, hSame ▸ hEnd, rfl⟩
  · rintro ⟨⟨entry, hEntry, rfl⟩, hEnd, rfl⟩
    exact ⟨entry.2, hSound.pending.subset hEntry, entry, ⟨hEntry, hEnd⟩, rfl, rfl⟩

/-- What the table and the log hold after a run is what the run says. -/
structure Agrees (events : List Event) (world : Callers) : Prop where
  sound : world.Sound
  ids : (world.admitted.map Prod.fst).Sublist (registered events)
  closed : world.session.closed = true ↔ .close ∈ events
  pending : ∀ id, id ∈ world.session.pending.map Prod.fst ↔ Pending events id
  outcomes : ∀ id outcome, world.Has id outcome ↔ Ended events id outcome
  refused : ∀ id failure,
    (id, failure) ∈ world.refused ↔ failure = .connectionClosed ∧ CameLate events id

theorem agrees_nil : Agrees [] {} where
  sound := ⟨rfl, .slnil, .nil, fun _ => rfl⟩
  ids := .slnil
  closed := by simp
  pending := by simp [Pending]
  outcomes := by simp [Has, Ended]
  refused := by simp [CameLate]

theorem Agrees.step (hAgrees : Agrees events world)
    (hDistinct : (registered (events ++ [event])).Nodup) :
    Agrees (events ++ [event]) (world.step event) := by
  rw [registered_snoc] at hDistinct
  obtain ⟨hOld, _, hApart⟩ := List.nodup_append.mp hDistinct
  have hSound := hAgrees.sound
  have hIds : (world.admitted.map Prod.fst).Nodup := hAgrees.ids.nodup hOld
  have hNew : ∀ id, event = .register id → id ∉ world.admitted.map Prod.fst := by
    rintro id rfl hMem
    exact hApart id (hAgrees.ids.subset hMem) id (by simp [registered]) rfl
  have hClosed : (world.step event).session.closed = true ↔ .close ∈ events ++ [event] := by
    rw [closed_step, hAgrees.closed, List.mem_append, List.mem_singleton, eq_comm (b := event)]
  have hRefused (id : String) (failure : RpcError) : (id, failure) ∈ (world.step event).refused ↔
      failure = .connectionClosed ∧ CameLate (events ++ [event]) id := by
    rw [mem_refused_step, hAgrees.refused, cameLate_snoc, hAgrees.closed, ← and_or_left]
  have hStepSound := hSound.step hIds hNew
  rcases step_cases hSound hIds hNew with ⟨id, rfl, hStep⟩ | ⟨ends, outcome, hEnds, hLate, hStep⟩
  · have hOpen : .close ∉ events := by
      rw [← hAgrees.closed, hStep.isOpen]
      simp
    refine ⟨hStepSound, ?_, hClosed, ?_, ?_, hRefused⟩
    · rw [hStep.admitted, registered_snoc, List.map_append]
      exact hAgrees.ids.append (.refl _)
    · intro other
      rw [hStep.pending, pending_snoc, List.map_append, List.mem_append, hAgrees.pending]
      simp only [List.map_cons, List.map_nil, List.mem_singleton, Event.register.injEq,
        Event.Releases, not_false_eq_true, implies_true, and_true, hOpen]
      rw [or_comm, eq_comm]
    · intro other given
      rw [hStep.has_iff hSound, ended_snoc, ← hAgrees.outcomes]
      simp only [Event.Releases, and_false, or_false]
  · refine ⟨hStepSound, ?_, hClosed, ?_, ?_, hRefused⟩
    · rw [hStep.admitted, registered_snoc]
      exact hAgrees.ids.trans (List.sublist_append_left _ _)
    · intro id
      have hNotIn : ¬ (event = .register id ∧ .close ∉ events) := by
        rintro ⟨hEq, hOpen⟩
        exact hOpen (hAgrees.closed.mp (hLate id hEq))
      rw [pending_snoc, or_iff_right hNotIn, ← hAgrees.pending, hStep.mem_pending]
      simp [hEnds]
    · intro id given
      rw [hStep.has_iff hSound, ended_snoc, ← hAgrees.outcomes, ← hAgrees.pending, hEnds]

theorem agrees_run (events : List Event) (hDistinct : (registered events).Nodup) :
    Agrees events (run events) := by
  induction events using List.reverseRecOn with
  | nil => exact agrees_nil
  | append_singleton events event ih =>
      have hOld : (registered events).Nodup :=
        ((registered_snoc ▸ hDistinct : (registered events ++ registered [event]).Nodup)).of_append_left
      rw [run, List.foldl_append]
      exact (ih hOld).step hDistinct

/-! ## The table and the outcomes -/

theorem mem_outcomes : outcome ∈ world.outcomes id ↔ world.Has id outcome := by
  simp only [Has, outcomes, List.mem_flatMap, List.mem_filter, List.mem_map, beq_iff_eq]
  constructor
  · rintro ⟨caller, ⟨hAdmitted, rfl⟩, entry, ⟨hLog, hTicket⟩, rfl⟩
    exact ⟨caller.2, hAdmitted, hTicket ▸ hLog⟩
  · rintro ⟨ticket, hAdmitted, hLog⟩
    exact ⟨(id, ticket), ⟨hAdmitted, rfl⟩, (ticket, outcome), ⟨hLog, rfl⟩, rfl⟩

theorem length_outcomes_le_one (hSound : world.Sound) (hIds : (world.admitted.map Prod.fst).Nodup)
    (id : String) : (world.outcomes id).length ≤ 1 := by
  have hLog : (world.log.map Prod.fst).Nodup := (List.nodup_append.mp hSound.nodup).2.1
  rw [outcomes, filter_eq_lookup hIds]
  cases world.admitted.lookup id with
  | none => simp
  | some ticket =>
      simp only [Option.toList_some, List.map_cons, List.map_nil, List.flatMap_cons,
        List.flatMap_nil, List.append_nil, List.length_map, filter_eq_lookup hLog]
      cases world.log.lookup ticket <;> simp

theorem ended_replied_iff {reply : Reply} : Ended events id (.replied reply) ↔
    (∃ before text since, events = before ++ .frame text :: since ∧ Pending before id ∧
      Answers text id reply) ∨
    (reply = .error .connectionClosed ∧
      ∃ before since, events = before ++ .close :: since ∧ Pending before id) := by
  constructor
  · rintro ⟨before, event, since, hEq, hPending, hReleases⟩
    cases event with
    | frame text =>
        obtain ⟨given, hAnswers, hSame⟩ := hReleases
        obtain rfl := Outcome.replied.inj hSame
        exact .inl ⟨before, text, since, hEq, hPending, hAnswers⟩
    | close => exact .inr ⟨Outcome.replied.inj hReleases, before, since, hEq, hPending⟩
    | giveUp other => cases hReleases.2
    | register other => exact hReleases.elim
    | collect other => exact hReleases.elim
  · rintro (⟨before, text, since, hEq, hPending, hAnswers⟩ | ⟨rfl, before, since, hEq, hPending⟩)
    · exact ⟨before, .frame text, since, hEq, hPending, reply, hAnswers, rfl⟩
    · exact ⟨before, .close, since, hEq, hPending, rfl⟩

theorem ended_gaveUp_iff : Ended events id .gaveUp ↔
    ∃ before since, events = before ++ .giveUp id :: since ∧ Pending before id := by
  constructor
  · rintro ⟨before, event, since, hEq, hPending, hReleases⟩
    cases event with
    | frame text =>
        obtain ⟨_, _, hSame⟩ := hReleases
        cases hSame
    | close => cases hReleases
    | giveUp other =>
        obtain ⟨rfl, _⟩ := hReleases
        exact ⟨before, since, hEq, hPending⟩
    | register other => exact hReleases.elim
    | collect other => exact hReleases.elim
  · rintro ⟨before, since, hEq, hPending⟩
    exact ⟨before, .giveUp id, since, hEq, hPending, rfl, rfl⟩

/-- Table, outcomes and refusals are what the run says. -/
structure Faithful (events : List Event) (world : Callers) : Prop where
  /-- No caller has two outcomes. -/
  once : ∀ id, (world.outcomes id).length ≤ 1
  /-- A reply is the content of the first frame that answered the request while it was pending, or
  the end of the connection for one that was pending when the session was closed. -/
  replied : ∀ id reply, .replied reply ∈ world.outcomes id ↔
    (∃ before text since, events = before ++ .frame text :: since ∧ Pending before id ∧
      Answers text id reply) ∨
    (reply = .error .connectionClosed ∧
      ∃ before since, events = before ++ .close :: since ∧ Pending before id)
  gaveUp : ∀ id, .gaveUp ∈ world.outcomes id ↔
    ∃ before since, events = before ++ .giveUp id :: since ∧ Pending before id
  /-- The table holds the pending requests, each once. -/
  distinct : (world.session.pending.map Prod.fst).Nodup
  pending : ∀ id, id ∈ world.session.pending.map Prod.fst ↔ Pending events id
  /-- Whoever comes after the end is turned away, and nobody else. -/
  refused : ∀ id failure,
    (id, failure) ∈ world.refused ↔ failure = .connectionClosed ∧ CameLate events id
  /-- After the end the table is empty and lets nobody in. -/
  closed : .close ∈ events → world.session.pending = [] ∧
    ∀ id, (world.session.register id).1 = .error .connectionClosed

/-- **Each wait ends once.** With ids that are registered once each, every run of a session gives
each caller the one outcome that the run has for it, and its table holds the pending requests. -/
theorem run_faithful (events : List Event) (hDistinct : (registered events).Nodup) :
    Faithful events (run events) := by
  have hAgrees := agrees_run events hDistinct
  have hIds : ((run events).admitted.map Prod.fst).Nodup := hAgrees.ids.nodup hDistinct
  have hOutcomes (id : String) (outcome : Outcome) :
      outcome ∈ (run events).outcomes id ↔ Ended events id outcome :=
    mem_outcomes.trans (hAgrees.outcomes id outcome)
  refine
    { once := length_outcomes_le_one hAgrees.sound hIds
      replied := fun id reply => (hOutcomes id _).trans ended_replied_iff
      gaveUp := fun id => (hOutcomes id _).trans ended_gaveUp_iff
      distinct := hAgrees.sound.ids hIds
      pending := hAgrees.pending
      refused := hAgrees.refused
      closed := ?_ }
  intro hClose
  have hClosed := hAgrees.closed.mpr hClose
  refine ⟨hAgrees.sound.closed hClosed, ?_⟩
  intro id
  rw [Session.register_of_closed hClosed]

/-- One request is answered twice, one is given up, one is still pending at the end, one comes
late. -/
def shortEvents : List Event :=
  [.register "a", .register "b", .register "c", .frame "\x7b\"id\":\"b\",\"result\":7\x7d",
    .giveUp "a", .frame "\x7b\"id\":\"b\",\"result\":8\x7d", .collect "b", .close, .register "d"]

theorem run_faithful_of_shortEvents :
    (registered shortEvents).Nodup ∧ Faithful shortEvents (run shortEvents) :=
  have hDistinct : (registered shortEvents).Nodup := by decide
  ⟨hDistinct, run_faithful shortEvents hDistinct⟩

end Callers

end MarketGateway.Rpc
