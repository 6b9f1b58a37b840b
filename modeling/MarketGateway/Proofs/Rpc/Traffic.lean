import MarketGateway.Proofs.Rpc.Gauge
import MarketGateway.Proofs.Rpc.OneReconnection

/-!
# Connections that overlap

Anyone may open a connection of a trading client at any time, a caller as well as a reconnection in
the background, and the connection that is replaced does not end at once: its session is closed in
a step of its own, its callers find out later, and its reader comes to the end later still. So in
`Traffic` sends and exchanges of connections are under way side by side, and a run takes their
single steps in any order. What a client does at a stroke falls into these steps: a send into those
of `Sending.advance` (`send_eq_depart`, `settle_eq_advance`), a handshake into `install` and
`retire` (`onHandshake_ok`), and a close into two halves (`closeSession_shut`), since the number of
pending requests is set after the table was let go. So every run of a client is a run of this kind
(`Traffic.reaches_play`).

Beside the client a run keeps the connection whose session was the last to set that number. The
invariant is that what was set then is what waits on that session now, unless it is being closed
(`Client.Tracked`), and that a connection which is not in its place any more is over, or is about to
be closed by whoever replaced it (`Traffic.Displaced`).
-/

namespace MarketGateway.Rpc

namespace Client

/-- What happens to one connection at most, in one step. -/
def Happening.isSingle : Happening → Bool
  | .passed _ | .written _ | .frame _ _ | .lost _ _ | .connecting | .handshake (.error _)
  | .shutDown => true
  | .sent _ _ _ _ | .looked _ | .handshake (.ok ()) | .reconnectAsked | .reconnectTurn _ => false

/-- The requests that wait on the current session. -/
def waiting (client : Client) : Nat :=
  match client.current with
  | some id => (client.sessionAt id).pending.length
  | none => 0

/-- What the gauge of pending requests shows. -/
def pendingGauge (client : Client) : Int := Metric.pendingGauge client.metrics

/-- A send that makes no step by itself: it is over, or its request waits and its time is not. -/
def Stage.Rests (client : Client) : Stage → Prop
  | .returned _ _ => True
  | .waiting id ticket due =>
    ticket ∈ (client.sessionAt id).pending.map Prod.snd ∧ client.now < due
  | .called | .chosen _ | .entered _ _ | .leaving _ _ => False

instance (client : Client) : (stage : Stage) → Decidable (stage.Rests client)
  | .returned _ _ => inferInstanceAs (Decidable True)
  | .waiting id ticket due =>
    inferInstanceAs (Decidable
      (ticket ∈ (client.sessionAt id).pending.map Prod.snd ∧ client.now < due))
  | .called | .chosen _ | .entered _ _ | .leaving _ _ => inferInstanceAs (Decidable False)

end Client

/-- A client with what is under way. -/
structure Traffic where
  client : Client
  /-- What was in the place of a new connection, for each whose opener has not closed it yet. -/
  replaced : List (Option LinkId) := []
  sends : List (Client.Request × Client.Stage) := []
  /-- The connection whose session set the number of pending requests last. -/
  setter : Option LinkId := none

namespace Traffic

/-- What happens next. -/
inductive Move
  | happens (happening : Client.Happening) (hSingle : happening.isSingle = true)
  /-- A reconnection whose attempt failed waits, gives up or crashes. -/
  | backsOff (task : Reconnector) (offset : Binary64)
  /-- A handshake is over, and the new connection takes the place of the current one. -/
  | opens
  /-- The opener with this number closes the session of the connection that was replaced. -/
  | retires (index : Nat)
  /-- Someone who is closing a session has let go of its table. -/
  | shuts (link : LinkId)
  | sends (request : Client.Request)
  /-- The send with this number takes its next step. -/
  | advances (index : Nat)

/-- The connection whose session a move works on. -/
def link? (traffic : Traffic) : Move → Option LinkId
  | .happens (.frame id _) _ | .happens (.lost id _) _ | .shuts id => some id
  | .happens .shutDown _ => traffic.client.current
  | .retires index => traffic.replaced[index]?.join
  | .advances index => traffic.sends[index]?.bind (·.2.link?)
  | .happens _ _ | .backsOff _ _ | .opens | .sends _ => none

def change (traffic : Traffic) : Move → Traffic
  | .happens happening _ => { traffic with client := traffic.client.apply happening }
  | .backsOff task offset => { traffic with client := (task.backOff offset traffic.client).2 }
  | .opens =>
    { traffic with
      client := traffic.client.install.2
      replaced := traffic.replaced ++ [traffic.client.install.1] }
  | .retires index =>
    match traffic.replaced[index]? with
    | none => traffic
    | some previous =>
      { traffic with
        client := traffic.client.retire previous
        replaced := traffic.replaced.eraseIdx index }
  | .shuts id => { traffic with client := traffic.client.shut id }
  | .sends request => { traffic with sends := traffic.sends ++ [(request, .called)] }
  | .advances index =>
    match traffic.sends[index]? with
    | none => traffic
    | some (request, stage) =>
      let after := (⟨traffic.client, stage, 0⟩ : Client.Sending).advance request
      { traffic with
        client := after.client
        sends := traffic.sends.set index (request, after.stage) }

def step (traffic : Traffic) (move : Move) : Traffic :=
  let next := traffic.change move
  { next with
    setter :=
      if next.client.counts = traffic.client.counts then traffic.setter else traffic.link? move }

/-- A new client after some moves. -/
def run (config : RpcConfig) (signer : Trade.Signer) (moves : List Move) : Traffic :=
  moves.foldl step { client := .new config signer }

theorem run_snoc (config : RpcConfig) (signer : Trade.Signer) (moves : List Move) (move : Move) :
    run config signer (moves ++ [move]) = (run config signer moves).step move := by
  simp [run]

/-- No close is under way: openers have closed what they replaced, and the reader of each session
that is over has come to the end. -/
structure Settled (traffic : Traffic) : Prop where
  openers : traffic.replaced = []
  readers : ∀ link ∈ traffic.client.links, link.session.closed = true → link.reading = false

/-- Nothing goes on without time or input: writers and sends have nothing to do, either. -/
structure Quiescent (traffic : Traffic) : Prop extends Settled traffic where
  writers : ∀ link ∈ traffic.client.links, link.outbound.items = []
  sends : ∀ entry ∈ traffic.sends, entry.2.Rests traffic.client

/-- The session that set the number of pending requests last is not the current one. -/
def Outdated (traffic : Traffic) : Prop :=
  ∃ old, traffic.setter = some old ∧ traffic.client.current ≠ some old

end Traffic

namespace Client

variable {client next : Client} {id : LinkId} {place setter : Option LinkId}

/-! ## The last number that was set -/

/-- What the gauge tells of the session that set it last. -/
structure Tracked (client : Client) (setter : Option LinkId) : Prop where
  sound : ∀ id standing, client.standing id = some standing → standing.Sound
  unset : setter = none → client.counts = [] ∧
    ∀ id standing, client.standing id = some standing → standing.waiting = 0
  /-- The number is right, or the session is being closed and it will be set once more. -/
  set : ∀ id, setter = some id → ∃ standing, client.standing id = some standing ∧
    (client.counts.getLast? = some standing.waiting ∨
      standing.closed = true ∧ standing.reading = true)

theorem Tracked.congr (hTracked : client.Tracked setter)
    (hStandings : ∀ id, next.standing id = client.standing id)
    (hCounts : next.counts = client.counts) : next.Tracked setter where
  sound id standing hStanding := hTracked.sound id standing (hStandings id ▸ hStanding)
  unset hNone := by
    obtain ⟨hEmpty, hWaiting⟩ := hTracked.unset hNone
    exact ⟨hCounts.trans hEmpty, fun id standing hStanding =>
      hWaiting id standing (hStandings id ▸ hStanding)⟩
  set id hSetter := by
    obtain ⟨standing, hStanding, hLast⟩ := hTracked.set id hSetter
    exact ⟨standing, (hStandings id).trans hStanding, hCounts ▸ hLast⟩

/-- A session that sets the number sets it to what waits on it. -/
theorem Tracked.sets {after : Standing} (hSound : ∀ other standing,
      next.standing other = some standing → standing.Sound)
    (hAfter : next.standing id = some after)
    (hCounts : next.counts = client.counts ++ [after.waiting]) : next.Tracked (some id) where
  sound := hSound
  unset hNone := by cases hNone
  set other hSetter := by
    cases hSetter
    exact ⟨after, hAfter, .inl (by simp [hCounts])⟩

/-- A table that is let go before the number is set. -/
theorem Tracked.shuts {before after : Standing} (hTracked : client.Tracked setter)
    (hSound : ∀ other standing, next.standing other = some standing → standing.Sound)
    (hBefore : client.standing id = some before) (hAfter : next.standing id = some after)
    (hOthers : ∀ other, id ≠ other → next.standing other = client.standing other)
    (hCounts : next.counts = client.counts) (hEmpty : after.waiting = 0)
    (hClosed : after.closed = true) (hReading : after.reading = before.reading) :
    next.Tracked setter where
  sound := hSound
  unset hNone := by
    obtain ⟨hUnset, hWaiting⟩ := hTracked.unset hNone
    refine ⟨hCounts.trans hUnset, fun other standing hStanding => ?_⟩
    by_cases hSame : id = other
    · subst hSame
      cases hAfter.symm.trans hStanding
      exact hEmpty
    · exact hWaiting other standing (hOthers other hSame ▸ hStanding)
  set other hSetter := by
    obtain ⟨standing, hStanding, hLast⟩ := hTracked.set other hSetter
    by_cases hSame : id = other
    · subst hSame
      cases hBefore.symm.trans hStanding
      refine ⟨after, hAfter, ?_⟩
      cases hReads : before.reading with
      | true => exact .inr ⟨hClosed, hReading.trans hReads⟩
      | false =>
        -- Nothing was there to let go: the reader had closed the session before it ended.
        have hBeforeSound := hTracked.sound id before hBefore
        have hNone := hBeforeSound.waiting (hBeforeSound.closed hReads)
        rcases hLast with hTold | ⟨-, hRuns⟩
        · exact .inl (by rw [hCounts, hTold, hNone, hEmpty])
        · cases hReads.symm.trans hRuns
    · exact ⟨standing, (hOthers other hSame).trans hStanding, hCounts ▸ hLast⟩

theorem Tracked.works (hTracked : client.Tracked setter) (hWorks : Works place client next) :
    next.Tracked (if next.counts = client.counts then setter else place) := by
  cases hWorks with
  | nothing hStandings hCounts =>
    rw [if_pos hCounts]
    exact hTracked.congr hStandings hCounts
  | @link id before after told hPlace hBefore hStep hStandings hCounts =>
    have hAfter : next.standing id = some after := by rw [hStandings, if_pos rfl]
    have hOthers (other : LinkId) (hOther : id ≠ other) :
        next.standing other = client.standing other := by rw [hStandings, if_neg hOther]
    have hSound (other : LinkId) (standing : Standing)
        (hStanding : next.standing other = some standing) : standing.Sound := by
      by_cases hSame : id = other
      · subst hSame
        cases hAfter.symm.trans hStanding
        exact hStep.sound (hTracked.sound id before hBefore)
      · exact hTracked.sound other standing (hOthers other hSame ▸ hStanding)
    rcases hStep.tells with hTold | ⟨hSilent, hWhat⟩
    · rw [hTold] at hCounts
      rw [if_neg (by simp [hCounts]), hPlace]
      exact .sets hSound hAfter hCounts
    · rw [hSilent, List.append_nil] at hCounts
      rw [if_pos hCounts]
      rcases hWhat with rfl | ⟨hEmpty, hClosed, hReading⟩
      · refine hTracked.congr (fun other => ?_) hCounts
        by_cases hSame : id = other
        · rw [← hSame, hAfter, hBefore]
        · exact hOthers other hSame
      · exact hTracked.shuts hSound hBefore hAfter hOthers hCounts hEmpty hClosed hReading

/-- A new connection has nothing that waits, and only it is new. -/
theorem standing_install (client : Client) (id : LinkId) :
    client.install.2.standing id =
      if id = client.links.length then some ⟨0, false, true⟩ else client.standing id := by
  rcases Nat.lt_trichotomy id client.links.length with hOld | rfl | hBeyond
  · rw [if_neg (Nat.ne_of_lt hOld), standing, standing, install, List.getElem?_append_left hOld]
  · simp [standing, install, Link.standing]
  · rw [if_neg (Nat.ne_of_gt hBeyond), standing, standing, install,
      List.getElem?_eq_none (by simp; omega), List.getElem?_eq_none (by omega)]

theorem Tracked.install (hTracked : client.Tracked setter) : client.install.2.Tracked setter where
  sound id standing hStanding := by
    rw [standing_install] at hStanding
    split at hStanding
    · cases hStanding
      exact ⟨nofun, nofun⟩
    · exact hTracked.sound id standing hStanding
  unset hNone := by
    obtain ⟨hUnset, hWaiting⟩ := hTracked.unset hNone
    refine ⟨hUnset, fun id standing hStanding => ?_⟩
    rw [standing_install] at hStanding
    split at hStanding
    · cases hStanding
      rfl
    · exact hWaiting id standing hStanding
  set id hSetter := by
    obtain ⟨standing, hStanding, hLast⟩ := hTracked.set id hSetter
    refine ⟨standing, ?_, hLast⟩
    have hOld : id ≠ client.links.length := by
      rintro rfl
      simp [Client.standing] at hStanding
    rw [standing_install, if_neg hOld, hStanding]

/-! ## Connections that were replaced -/

/-- A connection that is not in its place is over, or is still to be closed. -/
def Displaced (client : Client) (replaced : List (Option LinkId)) : Prop :=
  ∀ id standing, client.standing id = some standing → client.current ≠ some id →
    standing.closed = true ∨ some id ∈ replaced

theorem Works.closed {after : Standing} (hWorks : Works place client next)
    (hAfter : next.standing id = some after) :
    ∃ before, client.standing id = some before ∧ (before.closed = true → after.closed = true) := by
  cases hWorks with
  | nothing hStandings => exact ⟨after, hStandings id ▸ hAfter, fun hClosed => hClosed⟩
  | @link touched before last told hPlace hBefore hStep hStandings =>
    rw [hStandings] at hAfter
    split at hAfter
    · next hSame =>
      subst hSame
      cases hAfter
      exact ⟨before, hBefore, hStep.closed⟩
    · exact ⟨after, hAfter, fun hClosed => hClosed⟩

/-- Whoever leaves its place or the list of those still to be closed must be over. -/
theorem Displaced.works {replaced left : List (Option LinkId)}
    (hDisplaced : client.Displaced replaced) (hWorks : Works place client next)
    (hOver : ∀ id standing, next.standing id = some standing → next.current ≠ some id →
      client.current = some id ∨ some id ∈ replaced → standing.closed = true ∨ some id ∈ left) :
    next.Displaced left := by
  intro id after hAfter hAway
  obtain ⟨before, hBefore, hClosed⟩ := hWorks.closed hAfter
  by_cases hPlace : client.current = some id
  · exact hOver id after hAfter hAway (.inl hPlace)
  · rcases hDisplaced id before hBefore hPlace with hDone | hListed
    · exact .inl (hClosed hDone)
    · exact hOver id after hAfter hAway (.inr hListed)

theorem Displaced.stays {replaced : List (Option LinkId)} (hDisplaced : client.Displaced replaced)
    (hWorks : Works place client next) (hCurrent : next.current = client.current) :
    next.Displaced replaced := by
  refine hDisplaced.works hWorks fun id _ _ hAway hWas => ?_
  rcases hWas with hPlace | hListed
  · exact absurd (hCurrent.trans hPlace) hAway
  · exact .inr hListed

theorem Displaced.install {replaced : List (Option LinkId)}
    (hDisplaced : client.Displaced replaced) :
    client.install.2.Displaced (replaced ++ [client.install.1]) := by
  intro id standing hStanding hAway
  have hOld : id ≠ client.links.length := fun hNew => hAway (congrArg some hNew.symm)
  rw [standing_install, if_neg hOld] at hStanding
  by_cases hPlace : client.current = some id
  · exact .inr (by simp [Client.install, hPlace])
  · exact (hDisplaced id standing hStanding hPlace).imp_right (List.mem_append_left _)

theorem Displaced.retire {replaced : List (Option LinkId)} {previous : Option LinkId} {index : Nat}
    (hDisplaced : client.Displaced replaced) (hIndex : replaced[index]? = some previous) :
    (client.retire previous).Displaced (replaced.eraseIdx index) := by
  refine hDisplaced.works (works_retire client previous) fun id after hAfter hAway hWas => ?_
  rcases hWas with hPlace | hListed
  · exact absurd ((current_retire client previous).trans hPlace) hAway
  · by_cases hThis : previous = some id
    · subst hThis
      exact .inl (closed_closeSession hAfter)
    · obtain ⟨place, hAt⟩ := List.mem_iff_getElem?.mp hListed
      have hOther : place ≠ index := by
        rintro rfl
        exact hThis (Option.some.inj (hIndex.symm.trans hAt))
      exact .inr (List.mem_eraseIdx_iff_getElem?.mpr ⟨place, hOther, hAt⟩)

theorem Displaced.shutDown {replaced : List (Option LinkId)}
    (hDisplaced : client.Displaced replaced) : client.shutDown.Displaced replaced := by
  refine hDisplaced.works (works_shutDown client) fun id after hAfter _ hWas => ?_
  rcases hWas with hPlace | hListed
  · unfold Client.shutDown at hAfter
    simp only [hPlace] at hAfter
    exact .inl (closed_closeSession hAfter)
  · exact .inr hListed

/-! ## One move -/

theorem works_apply {happening : Happening} (hSingle : happening.isSingle = true)
    (traffic : Traffic) :
    Works (traffic.link? (.happens happening hSingle)) traffic.client
      (traffic.client.apply happening) := by
  cases happening with
  | passed | connecting => exact works_of_same rfl rfl
  | written id =>
    refine .nothing ?_ rfl
    exact standing_modify (f := fun link => { link with outbound := link.outbound.take.2 })
      (fun _ => rfl) rfl
  | frame id text => exact works_onFrame _ id text
  | lost id error => exact works_onLost _ id error
  | shutDown => exact works_shutDown _
  | handshake result =>
    cases result with
    | error error => exact works_of_same rfl rfl
    | ok opened => cases hSingle
  | sent | looked | reconnectAsked | reconnectTurn => cases hSingle

theorem current_apply {happening : Happening} (hSingle : happening.isSingle = true)
    (hLive : happening ≠ .shutDown) (client : Client) :
    (client.apply happening).current = client.current := by
  cases happening with
  | passed | connecting | written => rfl
  | frame id text => exact (spares_onFrame client id text).current
  | lost id error => exact (stands_onLost client id error).current
  | shutDown => exact absurd rfl hLive
  | handshake result =>
    cases result with
    | error error => rfl
    | ok opened => cases hSingle
  | sent | looked | reconnectAsked | reconnectTurn => cases hSingle

theorem Advanced.current {request : Request} {sending after : Sending}
    (hAdvanced : Advanced request sending after) :
    after.client.current = sending.client.current := by
  cases hAdvanced <;> rfl

theorem current_shut (client : Client) (id : LinkId) :
    (client.shut id).current = client.current := by
  unfold shut
  split <;> rfl

theorem current_backOff (task : Reconnector) (offset : Binary64) (client : Client) :
    (task.backOff offset client).2.current = client.current := by
  unfold Reconnector.backOff
  split <;> rfl

/-- What follows a failed attempt touches no connection. -/
theorem works_backOff (task : Reconnector) (offset : Binary64) (client : Client) :
    Works place client (task.backOff offset client).2 := by
  unfold Reconnector.backOff
  split
  · exact works_of_same rfl rfl
  · exact works_of_same rfl rfl
  · next delay backoff _ =>
    let reconnecting := { client with state := client.state.reconnecting backoff.attempts }
    have hState : Works place client reconnecting := works_of_same rfl rfl
    exact hState.record rfl

end Client

namespace Traffic

variable {traffic : Traffic}

/-- What holds after every move. -/
structure Accounted (traffic : Traffic) : Prop where
  tracked : traffic.client.Tracked traffic.setter
  displaced : traffic.client.Displaced traffic.replaced

/-- Every move but one works on one connection at most. -/
theorem works_change (traffic : Traffic) {move : Move} (hOpens : move ≠ .opens) :
    Client.Works (traffic.link? move) traffic.client (traffic.change move).client := by
  cases move with
  | opens => exact absurd rfl hOpens
  | happens happening hSingle => exact Client.works_apply hSingle traffic
  | backsOff task offset => exact Client.works_backOff task offset _
  | retires index =>
    simp only [change, link?]
    split
    · exact Client.works_of_same rfl rfl
    · next previous hIndex =>
      rw [hIndex]
      exact Client.works_retire _ previous
  | shuts id => exact Client.works_shut _ id
  | sends request => exact Client.works_of_same rfl rfl
  | advances index =>
    simp only [change, link?]
    split
    · exact Client.works_of_same rfl rfl
    · next request stage hIndex =>
      rw [hIndex]
      exact Client.works_advance ⟨traffic.client, stage, 0⟩ request

theorem Accounted.displaced_change (hAccounted : traffic.Accounted) (move : Move) :
    (traffic.change move).client.Displaced (traffic.change move).replaced := by
  have hStays {next : Client} (hOpens : move ≠ .opens)
      (hNext : (traffic.change move).client = next)
      (hCurrent : next.current = traffic.client.current) : next.Displaced traffic.replaced :=
    hAccounted.displaced.stays (hNext ▸ traffic.works_change hOpens) hCurrent
  cases move with
  | opens => exact hAccounted.displaced.install
  | happens happening hSingle =>
    by_cases hEnd : happening = .shutDown
    · subst hEnd
      exact hAccounted.displaced.shutDown
    · exact hStays nofun rfl (Client.current_apply hSingle hEnd _)
  | backsOff task offset => exact hStays nofun rfl (Client.current_backOff task offset _)
  | retires index =>
    simp only [change]
    split
    · exact hAccounted.displaced
    · next hIndex => exact hAccounted.displaced.retire hIndex
  | shuts id => exact hStays nofun rfl (Client.current_shut _ id)
  | sends request => exact hAccounted.displaced
  | advances index =>
    simp only [change] at hStays ⊢
    split
    · exact hAccounted.displaced
    · next hIndex =>
      rw [hIndex] at hStays
      exact hStays nofun rfl (Client.advanced_advance _ _).current

theorem Accounted.step (hAccounted : traffic.Accounted) (move : Move) :
    (traffic.step move).Accounted where
  displaced := hAccounted.displaced_change move
  tracked := by
    by_cases hOpens : move = .opens
    · subst hOpens
      have hSame : (traffic.change .opens).client.counts = traffic.client.counts := rfl
      simp only [Traffic.step, if_pos hSame]
      exact hAccounted.tracked.install
    · exact hAccounted.tracked.works (traffic.works_change hOpens)

theorem accounted_run (config : RpcConfig) (signer : Trade.Signer) (moves : List Move) :
    (run config signer moves).Accounted := by
  induction moves using List.reverseRecOn with
  | nil => exact ⟨⟨nofun, fun _ => ⟨rfl, nofun⟩, nofun⟩, nofun⟩
  | append_singleton moves move ih => exact run_snoc config signer moves move ▸ ih.step move

/-! ## What the gauge shows -/

theorem Settled.reading (hSettled : traffic.Settled) {id : LinkId} {standing : Standing}
    (hStanding : traffic.client.standing id = some standing) (hClosed : standing.closed = true) :
    standing.reading = false := by
  obtain ⟨link, hLink, rfl⟩ := Option.map_eq_some_iff.mp hStanding
  exact hSettled.readers link (List.mem_of_getElem? hLink) hClosed

/-- What the setter told is right once no close is under way. -/
theorem Accounted.gauge_of_setter (hAccounted : traffic.Accounted) (hSettled : traffic.Settled)
    {id : LinkId} (hSetter : traffic.setter = some id) :
    ∃ standing, traffic.client.standing id = some standing ∧
      traffic.client.pendingGauge = standing.waiting := by
  obtain ⟨standing, hStanding, hLast | ⟨hClosed, hReading⟩⟩ := hAccounted.tracked.set id hSetter
  · refine ⟨standing, hStanding, ?_⟩
    rw [Client.pendingGauge, Metric.pendingGauge_eq]
    rw [Client.counts] at hLast
    rw [hLast, Option.getD_some]
  · cases (hSettled.reading hStanding hClosed).symm.trans hReading

theorem pending_length_of_standing {client : Client} {id : LinkId} {standing : Standing}
    (hStanding : client.standing id = some standing) :
    (client.sessionAt id).pending.length = standing.waiting := by
  obtain ⟨link, hLink, rfl⟩ := Option.map_eq_some_iff.mp hStanding
  rw [Client.sessionAt_of_getElem? hLink]
  rfl

/-- Where nothing was ever set nothing waits. -/
theorem waiting_of_unset {client : Client} (hTracked : client.Tracked none) :
    client.waiting = 0 := by
  unfold Client.waiting
  split
  · next id _ =>
    cases hStanding : client.standing id with
    | some standing =>
      rw [pending_length_of_standing hStanding]
      exact (hTracked.unset rfl).2 id standing hStanding
    | none =>
      have hNone : client.links[id]? = none := Option.map_eq_none_iff.mp hStanding
      rw [Client.sessionAt, hNone]
      rfl
  · rfl

/-- **The gauge of pending requests shows the current session.** However connections are opened and
replaced, requests are sent, answered and given up, connections are lost and the client is shut
down: when no close is under way the gauge shows how many requests wait on the current session,
unless the session of a connection that is not the current one was the last to set it; then it
shows 0. -/
theorem pending_gauge_of_settled (config : RpcConfig) (signer : Trade.Signer) (moves : List Move)
    (hSettled : (run config signer moves).Settled) :
    let traffic := run config signer moves
    (¬ traffic.Outdated → traffic.client.pendingGauge = traffic.client.waiting) ∧
      (traffic.Outdated → traffic.client.pendingGauge = 0) := by
  intro traffic
  have hAccounted : traffic.Accounted := accounted_run config signer moves
  constructor
  · intro hUpToDate
    cases hSetter : traffic.setter with
    | none =>
      have hTracked := hAccounted.tracked
      rw [hSetter] at hTracked
      have hCounts : Metric.pendingCounts traffic.client.metrics = [] := (hTracked.unset rfl).1
      rw [waiting_of_unset hTracked, Client.pendingGauge, Metric.pendingGauge_eq, hCounts]
      rfl
    | some id =>
      have hCurrent : traffic.client.current = some id :=
        Decidable.of_not_not fun hAway => hUpToDate ⟨id, hSetter, hAway⟩
      obtain ⟨standing, hStanding, hGauge⟩ := hAccounted.gauge_of_setter hSettled hSetter
      simp only [hGauge, Client.waiting, hCurrent, pending_length_of_standing hStanding]
  · rintro ⟨old, hSetter, hAway⟩
    obtain ⟨standing, hStanding, hGauge⟩ := hAccounted.gauge_of_setter hSettled hSetter
    have hClosed : standing.closed = true := by
      have hNone : traffic.replaced = [] := hSettled.openers
      refine (hAccounted.displaced old standing hStanding hAway).resolve_right ?_
      rw [hNone]
      exact List.not_mem_nil
    have hNone := (hAccounted.tracked.sound old standing hStanding).waiting hClosed
    rw [hGauge, hNone]
    rfl

/-! ## A reader that ends late -/

def logonOf (name : String) : Client.Request :=
  (Client.new Client.patient Client.shortSigner).request .logon {} (.ofSecs 5) ⟨name, 0⟩

/-- A caller opens a connection, and its logon waits for an answer. -/
def firstMoves : List Move :=
  [.opens, .retires 0, .sends (logonOf "first"), .advances 0, .advances 0, .advances 0,
    .happens (.written 0) rfl]

/-- Another caller opens a connection, and its logon waits as well. The first caller learns that its
connection was closed, and then the reader of that connection comes to the end. -/
def replacingMoves : List Move :=
  firstMoves ++ [.opens, .retires 0, .sends (logonOf "second"), .advances 1, .advances 1,
    .advances 1, .happens (.written 1) rfl, .advances 0, .advances 0,
    .happens (.lost 0 .cancelled) rfl]

theorem pending_gauge_of_first :
    let traffic := run Client.patient Client.shortSigner firstMoves
    traffic.Settled ∧ ¬ traffic.Outdated ∧ traffic.client.pendingGauge = 1 := by
  intro traffic
  have hSettled : traffic.Settled := ⟨by decide +kernel, by decide +kernel⟩
  have hSetter : traffic.setter = some 0 := by decide +kernel
  have hCurrent : traffic.client.current = some 0 := by decide +kernel
  have hUpToDate : ¬ traffic.Outdated := by
    rintro ⟨old, hOld, hAway⟩
    cases hSetter.symm.trans hOld
    exact hAway hCurrent
  have hWaiting : traffic.client.waiting = 1 := by decide +kernel
  have hShows := (pending_gauge_of_settled Client.patient Client.shortSigner firstMoves
    hSettled).1 hUpToDate
  exact ⟨hSettled, hUpToDate, hShows.trans (congrArg Nat.cast hWaiting)⟩

/-- Nothing is left to do, the second logon waits, and the gauge shows 0: the reader closed the
first session once more. -/
theorem late_reader_hides_pending_request :
    let traffic := run Client.patient Client.shortSigner replacingMoves
    traffic.Quiescent ∧ traffic.client.waiting = 1 ∧ traffic.client.pendingGauge = 0 := by
  intro traffic
  have hGauge : traffic.client.pendingGauge = 0 := by decide +kernel
  exact ⟨⟨⟨by decide +kernel, by decide +kernel⟩, by decide +kernel, by decide +kernel⟩,
    by decide +kernel, hGauge⟩

end Traffic

end MarketGateway.Rpc
