import Mathlib.Data.List.Induction
import MarketGateway.Proofs.Feed.Supervisor
import MarketGateway.Proofs.Rpc.Client

/-!
# How the reconnection in the background ends

While a reconnection is on its way it absorbs every request for another one, so what matters is the
state in which it ends. A connection is lost only when its reader comes to the end
(`lost_of_disconnected`). The reconnection looks for a connection before each attempt, but not
before its end: an attempt is over when its logon is answered, and a connection that is lost while
the logon waits leaves the reconnection at its end without one (`CutOff`). In every other case the
client is connected then or no attempt is left (`reconnection_ends_connected_or_exhausted`).
-/

namespace MarketGateway.Rpc.Client

variable {config : RpcConfig} {signer : Trade.Signer} {client next last : Client} {id : LinkId}
  {link : Link} {session : Session} {metrics : List Metric} {past : List Happening}
  {happening : Happening}

/-! ## What is left alone -/

/-- The reconnection, the settings and the choice of the current connection are left alone. -/
structure Stands (client next : Client) : Prop where
  config : next.config = client.config
  cancelled : next.cancelled = client.cancelled
  reconnection : next.reconnection = client.reconnection
  backoff : next.backoff = client.backoff
  current : next.current = client.current
  length : client.links.length ≤ next.links.length

theorem Stands.trans (hFirst : client.Stands next) (hSecond : next.Stands last) :
    client.Stands last where
  config := hSecond.config.trans hFirst.config
  cancelled := hSecond.cancelled.trans hFirst.cancelled
  reconnection := hSecond.reconnection.trans hFirst.reconnection
  backoff := hSecond.backoff.trans hFirst.backoff
  current := hSecond.current.trans hFirst.current
  length := Nat.le_trans hFirst.length hSecond.length

/-- Sessions that are open stay open as well. -/
structure Spares (client next : Client) : Prop extends Stands client next where
  opened {id : LinkId} {link : Link} (hLink : client.links[id]? = some link)
    (hOpen : link.session.closed = false) :
    ∃ after, next.links[id]? = some after ∧ after.session.closed = false

theorem Stands.spares (hStands : client.Stands next) (hLinks : next.links = client.links) :
    client.Spares next := by
  refine ⟨hStands, ?_⟩
  intro id link hLink hOpen
  exact ⟨link, hLinks ▸ hLink, hOpen⟩

theorem Spares.refl (client : Client) : client.Spares client :=
  Stands.spares ⟨rfl, rfl, rfl, rfl, rfl, Nat.le_refl _⟩ rfl

theorem Spares.trans (hFirst : client.Spares next) (hSecond : next.Spares last) :
    client.Spares last := by
  refine ⟨hFirst.toStands.trans hSecond.toStands, ?_⟩
  intro id link hLink hOpen
  obtain ⟨middle, hMiddle, hStill⟩ := hFirst.opened hLink hOpen
  exact hSecond.opened hMiddle hStill

theorem isConnected_iff : client.isConnected = true ↔
    ∃ id link, client.current = some id ∧ client.links[id]? = some link ∧
      link.session.closed = false := by
  unfold isConnected
  cases client.current with
  | none => simp
  | some id => cases hLink : client.links[id]? <;> simp [hLink]

theorem Spares.isConnected (hSpares : client.Spares next) (hConnected : client.isConnected = true) :
    next.isConnected = true := by
  obtain ⟨id, link, hCurrent, hLink, hOpen⟩ := isConnected_iff.mp hConnected
  obtain ⟨after, hAfter, hStill⟩ := hSpares.opened hLink hOpen
  exact isConnected_iff.mpr ⟨id, after, hSpares.current.trans hCurrent, hAfter, hStill⟩

/-- Links may be changed in anything as long as open sessions stay open. -/
theorem spares_modify (client : Client) (id : LinkId) (f : Link → Link)
    (hOpen : ∀ link, client.links[id]? = some link →
      (f link).session.closed = link.session.closed) :
    client.Spares { client with links := client.links.modify id f } := by
  refine ⟨⟨rfl, rfl, rfl, rfl, rfl, by simp⟩, ?_⟩
  intro other link hLink hStill
  by_cases hSame : id = other
  · subst hSame
    refine ⟨f link, ?_, (hOpen link hLink).trans hStill⟩
    simp [hLink]
  · exact ⟨link, by simp [hSame, hLink], hStill⟩

theorem spares_setSession (hLink : client.links[id]? = some link)
    (hOpen : session.closed = link.session.closed) (metrics : List Metric) :
    client.Spares (client.setSession id session metrics) := by
  have hModify : client.Spares { client with
      links := client.links.modify id fun link => { link with session := session } } := by
    refine spares_modify client id _ ?_
    intro same hSame
    obtain rfl := Option.some.inj (hLink.symm.trans hSame)
    exact hOpen
  exact ⟨⟨rfl, rfl, rfl, rfl, rfl, hModify.length⟩, hModify.opened⟩

theorem spares_finish (client : Client) (call : CallId) (method : RpcMethod) (reply : Reply) :
    client.Spares (client.finish call method reply) :=
  Stands.spares ⟨rfl, rfl, rfl, rfl, rfl, Nat.le_refl _⟩ rfl

theorem SentOver.spares {call : CallId} {method : RpcMethod} {timeout : Duration}
    {requestId text : String} (hLink : client.links[id]? = some link)
    (hSent : SentOver client call id link method timeout requestId text next) :
    client.Spares next := by
  have hRegister := link.session.closed_register requestId
  cases hSent with
  | refused hClosed => exact spares_finish _ _ _ _
  | @unqueued offer entered left hOpen hOffer hRejected =>
    have hEntered := spares_setSession hLink hRegister entered
    have hAgain : (client.setSession id (link.session.register requestId).2.1 entered).links[id]? =
        some { link with session := (link.session.register requestId).2.1 } := by
      simp [setSession, record, hLink]
    have hLeft := spares_setSession hAgain (Session.closed_abandon _ requestId) left
    exact (hEntered.trans hLeft).trans (spares_finish _ _ _ _)
  | @queued outbound metrics hOpen hOffer =>
    have hEntered := spares_setSession hLink hRegister metrics
    have hQueued := spares_modify
      (client.setSession id (link.session.register requestId).2.1 metrics) id
      (fun link => { link with outbound := outbound }) (fun _ _ => rfl)
    have hBoth := hEntered.trans hQueued
    exact ⟨⟨rfl, rfl, rfl, rfl, rfl, hBoth.length⟩, hBoth.opened⟩

theorem spares_send (client : Client) (method : RpcMethod) (params : Trade.Params)
    (timeout : Duration) (stamp : Stamp) :
    client.Spares (client.send method params timeout stamp).2 := by
  have hCount : client.Spares { client with nextCall := client.nextCall + 1 } :=
    Stands.spares ⟨rfl, rfl, rfl, rfl, rfl, Nat.le_refl _⟩ rfl
  unfold send
  dsimp only
  split
  · exact hCount.trans (spares_finish _ _ _ _)
  · split
    · exact hCount.trans (spares_finish _ _ _ _)
    · next hLink => exact hCount.trans ((sendOver_spec _ _ _ _ _ _ _ _).spares hLink)

theorem spares_settle (client : Client) (call : CallId) : client.Spares (client.settle call) := by
  have hSettled := settle_spec client call
  generalize client.settle call = next at hSettled
  cases hSettled with
  | stays => exact .refl client
  | @leaves held link reply metrics hCall hLink hReply =>
    have hTaken : (link.session.take held.ticket).2.closed = link.session.closed := rfl
    have hClosed := (Session.closed_abandon _ held.requestId).trans hTaken
    exact (spares_setSession hLink hClosed metrics).trans (spares_finish _ _ _ _)

theorem spares_onFrame (client : Client) (id : LinkId) (text : String) :
    client.Spares (client.onFrame id text) := by
  unfold onFrame
  split
  · exact .refl client
  · next link hLink =>
    split
    · let noted : Client := { client with state := client.state.message }
      have hNoted : noted.links[id]? = some link := hLink
      have hDispatched := spares_setSession hNoted (link.session.closed_dispatch text)
        (link.session.dispatch text).2
      exact ⟨⟨rfl, rfl, rfl, rfl, rfl, hDispatched.length⟩, hDispatched.opened⟩
    · exact .refl client

/-! ## How a connection is lost -/

theorem stands_closeSession (client : Client) (id : LinkId) :
    client.Stands (client.closeSession id) := by
  unfold closeSession
  split
  · exact (Spares.refl client).toStands
  · exact ⟨rfl, rfl, rfl, rfl, rfl, by simp [setSession, record]⟩

theorem links_closeSession (client : Client) {other : LinkId} (hOther : other ≠ id) :
    (client.closeSession id).links[other]? = client.links[other]? := by
  unfold closeSession
  split
  · rfl
  · simp [setSession, record, Ne.symm hOther]

theorem stands_onLost (client : Client) (id : LinkId) (error : TransportError) :
    client.Stands (client.onLost id error) := by
  have hClose := stands_closeSession client id
  unfold onLost
  split
  · exact (Spares.refl client).toStands
  · split
    · refine hClose.trans ⟨rfl, rfl, rfl, rfl, rfl, by simp⟩
    · exact (Spares.refl client).toStands

/-- A client that is connected stays so when it loses another link. -/
theorem isConnected_onLost (hConnected : client.isConnected = true)
    (hOther : client.current ≠ some id) (error : TransportError) :
    (client.onLost id error).isConnected = true := by
  obtain ⟨current, link, hCurrent, hLink, hOpen⟩ := isConnected_iff.mp hConnected
  have hNe : current ≠ id := fun hSame => hOther (hSame ▸ hCurrent)
  have hKept := (links_closeSession client hNe).trans hLink
  have hStill := (stands_onLost client id error).current.trans hCurrent
  refine isConnected_iff.mpr ⟨current, link, hStill, ?_, hOpen⟩
  unfold onLost
  split
  · exact hLink
  · split
    · simp [hKept, hNe.symm]
    · exact hLink

/-- The current connection is among those that were opened. -/
def Placed (client : Client) : Prop := ∀ id, client.current = some id → id < client.links.length

/-- A new connection is the current one and open; without one all stays as it is. -/
theorem isConnected_onHandshake (hPlaced : client.Placed) (result : Except TransportError Unit)
    (hOk : result = .ok () ∨ client.isConnected = true) :
    (client.onHandshake result).2.isConnected = true := by
  cases result with
  | error error =>
    obtain hOk | hConnected := hOk
    · cases hOk
    · exact hConnected
  | ok opened =>
    let opened : Link :=
      { outbound := { capacity := max client.config.connection.outboundCapacity 1 } }
    refine isConnected_iff.mpr ⟨client.links.length, opened, ?_, ?_, rfl⟩
    · simp only [onHandshake]
      split
      · unfold closeSession
        split <;> rfl
      · rfl
    · simp only [onHandshake]
      split
      · next old hOld =>
        have hNe : client.links.length ≠ old := Nat.ne_of_gt (hPlaced old hOld)
        exact (links_closeSession _ hNe).trans List.getElem?_concat_length
      · exact List.getElem?_concat_length

theorem logOn_spares (client : Client) (stamp : Stamp) : client.Spares (client.logOn stamp).2 :=
  spares_send client _ _ _ stamp

/-! ## Turns of the reconnection -/

/-- What a turn of the reconnection can do. -/
inductive Turned (client : Client) : Turn → Client → Prop
  | stays (turn : Turn) : Turned client turn client
  | found (hStands : client.reconnection = .checking) (hConnected : client.isConnected = true) :
      Turned client .go { client with reconnection := .ending }
  | ended (hStands : client.reconnection = .ending) :
      Turned client .go { client with reconnection := .idle }
  | attempts (hStands : client.reconnection = .checking) (hLost : client.isConnected = false) :
      Turned client .go { client.beginConnect with reconnection := .connecting }
  | fails (hStands : client.reconnection = .connecting) (error : TransportError) (stamp : Stamp)
      (offset : Binary64) :
      Turned client (.handshake (.error error) stamp offset)
        ((client.onHandshake (.error error)).2.backOff offset)
  | opens (hStands : client.reconnection = .connecting) (stamp : Stamp) (offset : Binary64) :
      Turned client (.handshake (.ok ()) stamp offset)
        { ((client.onHandshake (.ok ())).2.logOn stamp).2 with
          reconnection := .loggingOn ((client.onHandshake (.ok ())).2.logOn stamp).1 }
  | loggedOn {call : CallId} (hStands : client.reconnection = .loggingOn call) :
      Turned client .go { client with reconnection := .idle }
  | ends {due : Duration} (hStands : client.reconnection = .waiting due)
      (hCancelled : client.cancelled = true) :
      Turned client .go { client with reconnection := .idle }
  | resumes {due : Duration} (hStands : client.reconnection = .waiting due) :
      Turned client .go { client with reconnection := .checking }

theorem turned_reconnectStep (client : Client) (turn : Turn) :
    Turned client turn (client.reconnectStep turn) := by
  unfold reconnectStep
  split
  · next hStands =>
    split
    · next hConnected => exact .found hStands hConnected
    · next hLost => exact .attempts hStands (by simpa using hLost)
  · next hStands => exact .ended hStands
  · next result stamp offset hStands =>
    cases result with
    | error error => exact .fails hStands error stamp offset
    | ok opened => exact .opens hStands stamp offset
  · next call hStands =>
    split
    · exact .stays _
    · exact .loggedOn hStands
  · next due hStands =>
    split
    · next hCancelled => exact .ends hStands hCancelled
    · split
      · exact .resumes hStands
      · exact .stays _
  · exact .stays _

/-! ## What every happening keeps -/

/-- What holds of every client that nobody shut down. -/
structure Steady (config : RpcConfig) (client : Client) : Prop where
  settings : client.config = config
  live : client.cancelled = false
  policy : client.backoff.policy = config.reconnect
  placed : client.Placed

theorem Steady.stands (hSteady : Steady config client) (hStands : client.Stands next) :
    Steady config next where
  settings := hStands.config.trans hSteady.settings
  live := hStands.cancelled.trans hSteady.live
  policy := hStands.backoff ▸ hSteady.policy
  placed id hCurrent := by
    rw [hStands.current] at hCurrent
    exact Nat.lt_of_lt_of_le (hSteady.placed id hCurrent) hStands.length

theorem Steady.reconnection (hSteady : Steady config client) (reconnection : Reconnection) :
    Steady config { client with reconnection := reconnection } :=
  ⟨hSteady.settings, hSteady.live, hSteady.policy, hSteady.placed⟩

theorem Steady.onHandshake (hSteady : Steady config client) (result : Except TransportError Unit) :
    Steady config (client.onHandshake result).2 ∧
      (client.onHandshake result).2.reconnection = client.reconnection := by
  cases result with
  | error error => exact ⟨⟨hSteady.settings, hSteady.live, hSteady.policy, hSteady.placed⟩, rfl⟩
  | ok opened =>
    have hOpened (link : Link) : Steady config
        { client with links := client.links ++ [link], current := some client.links.length } := by
      refine ⟨hSteady.settings, hSteady.live, hSteady.policy, ?_⟩
      intro id hCurrent
      obtain rfl := Option.some.inj hCurrent
      simp
    simp only [Client.onHandshake]
    split
    · next old hOld =>
      have hClose := stands_closeSession { client with
        links := client.links ++ [{ outbound :=
          { capacity := max client.config.connection.outboundCapacity 1 } }]
        current := some client.links.length } old
      obtain ⟨hConfig, hLive, hPolicy, hPlaced⟩ := (hOpened _).stands hClose
      exact ⟨⟨hConfig, hLive, hPolicy, hPlaced⟩, hClose.reconnection⟩
    · obtain ⟨hConfig, hLive, hPolicy, hPlaced⟩ := hOpened { outbound :=
          { capacity := max client.config.connection.outboundCapacity 1 } }
      exact ⟨⟨hConfig, hLive, hPolicy, hPlaced⟩, rfl⟩

theorem Steady.backOff (hSteady : Steady config client) (offset : Binary64) :
    Steady config (client.backOff offset) := by
  unfold Client.backOff
  split
  · exact hSteady.reconnection _
  · exact hSteady.reconnection _
  · next delay backoff hAsk =>
    exact ⟨hSteady.settings, hSteady.live, (Backoff.policy_of_ask hAsk).trans hSteady.policy,
      hSteady.placed⟩

theorem Steady.turned (hSteady : Steady config client) {turn : Turn}
    (hTurned : Turned client turn next) : Steady config next := by
  cases hTurned with
  | stays => exact hSteady
  | found | ended | loggedOn | ends | resumes => exact hSteady.reconnection _
  | attempts => exact ⟨hSteady.settings, hSteady.live, hSteady.policy, hSteady.placed⟩
  | fails hStands error stamp offset => exact (hSteady.onHandshake _).1.backOff offset
  | opens hStands stamp =>
    exact ((hSteady.onHandshake _).1.stands (logOn_spares _ stamp).toStands).reconnection _

/-- What anything but the reconnection and its own handshakes leaves alone. -/
theorem stands_apply (hTurn : ∀ turn, happening ≠ .reconnectTurn turn)
    (hHandshake : ∀ result, happening ≠ .handshake result) (hAsked : happening ≠ .reconnectAsked)
    (hLive : happening ≠ .shutDown) : client.Stands (client.apply happening) := by
  cases happening with
  | passed | connecting => exact ⟨rfl, rfl, rfl, rfl, rfl, Nat.le_refl _⟩
  | written id => exact ⟨rfl, rfl, rfl, rfl, rfl, by simp [apply]⟩
  | frame id text => exact (spares_onFrame client id text).toStands
  | lost id error => exact stands_onLost client id error
  | sent method params timeout stamp => exact (spares_send client _ _ _ _).toStands
  | looked call => exact (spares_settle client call).toStands
  | handshake result => exact absurd rfl (hHandshake result)
  | reconnectAsked => exact absurd rfl hAsked
  | reconnectTurn turn => exact absurd rfl (hTurn turn)
  | shutDown => exact absurd rfl hLive

/-- A request for a reconnection starts one, unless there is nothing to do. -/
theorem triggerReconnect_cases (client : Client) :
    client.triggerReconnect = client ∨
      (client.isConnected = false ∧ client.reconnection = .idle ∧
        client.triggerReconnect =
          { client with reconnection := .checking, backoff := .new client.config.reconnect }) := by
  unfold triggerReconnect
  split
  · exact .inl rfl
  · next hNeeded =>
    simp only [Bool.or_eq_true, decide_eq_true_eq, not_or, Decidable.not_not] at hNeeded
    exact .inr ⟨by simpa using hNeeded.1.2, hNeeded.2, rfl⟩

theorem Steady.apply (hSteady : Steady config client) (hLive : happening ≠ .shutDown) :
    Steady config (client.apply happening) := by
  cases happening with
  | handshake result => exact (hSteady.onHandshake result).1
  | reconnectTurn turn => exact hSteady.turned (turned_reconnectStep client turn)
  | reconnectAsked =>
    rw [Client.apply]
    rcases triggerReconnect_cases client with hSame | ⟨-, -, hStarts⟩
    · rwa [hSame]
    · rw [hStarts]
      have hPolicy := congrArg RpcConfig.reconnect hSteady.settings
      exact ⟨hSteady.settings, hSteady.live, hPolicy, hSteady.placed⟩
  | shutDown => exact absurd rfl hLive
  | passed | written | frame | lost | sent | looked | connecting =>
    exact hSteady.stands (stands_apply (by simp) (by simp) (by simp) (by simp))

theorem live_of_snoc (hLive : .shutDown ∉ past ++ [happening]) :
    .shutDown ∉ past ∧ happening ≠ .shutDown := by
  rw [List.mem_append, List.mem_singleton, not_or] at hLive
  exact ⟨hLive.1, Ne.symm hLive.2⟩

/-- By induction on the happenings. -/
theorem steady_play (config : RpcConfig) (signer : Trade.Signer) (hLive : .shutDown ∉ past) :
    Steady config ((new config signer).play past) := by
  induction past using List.reverseRecOn with
  | nil =>
    refine ⟨rfl, rfl, rfl, ?_⟩
    intro id hNone
    cases hNone
  | append_singleton past happening ih =>
    obtain ⟨hLivePast, hNow⟩ := live_of_snoc hLive
    rw [play_snoc]
    exact (ih hLivePast).apply hNow

/-- What a happening can do to the reconnection. -/
inductive Affects (client : Client) (happening : Happening) (next : Client) : Prop
  | turns {turn : Turn} (hTurn : happening = .reconnectTurn turn)
      (hTurned : Turned client turn next)
  | leaves (hSame : next.reconnection = client.reconnection)
  | starts (hIdle : client.reconnection = .idle) (hChecking : next.reconnection = .checking)

/-- Nothing but its own turns changes where a reconnection stands that is on its way. -/
theorem affects_apply (hSteady : Steady config client) (hLive : happening ≠ .shutDown) :
    Affects client happening (client.apply happening) := by
  cases happening with
  | handshake result => exact .leaves (hSteady.onHandshake result).2
  | reconnectAsked =>
    rw [Client.apply]
    rcases triggerReconnect_cases client with hSame | ⟨-, hIdle, hStarts⟩
    · exact .leaves (congrArg Client.reconnection hSame)
    · exact .starts hIdle (congrArg Client.reconnection hStarts)
  | reconnectTurn turn => exact .turns rfl (turned_reconnectStep client turn)
  | shutDown => exact absurd rfl hLive
  | passed | written | frame | lost | sent | looked | connecting =>
    exact .leaves (stands_apply (by simp) (by simp) (by simp) (by simp)).reconnection

/-- A reconnection that crashed absorbs every request for another one, whatever happens. -/
theorem crashed_play {later : List Happening} (hLive : .shutDown ∉ past ++ later)
    (hCrashed : ((new config signer).play past).reconnection = .crashed) :
    ((new config signer).play (past ++ later)).reconnection = .crashed := by
  induction later using List.reverseRecOn with
  | nil => rwa [List.append_nil]
  | append_singleton later happening ih =>
    rw [← List.append_assoc] at hLive ⊢
    obtain ⟨hLivePast, hNow⟩ := live_of_snoc hLive
    have hStill := ih hLivePast
    have hAffects := affects_apply (steady_play config signer hLivePast) hNow
    rw [play_snoc]
    generalize ((new config signer).play (past ++ later)).apply happening = next at hAffects ⊢
    cases hAffects with
    | leaves hSame => exact hSame.trans hStill
    | starts hIdle => cases hStill.symm.trans hIdle
    | turns hTurn hTurned =>
      cases hTurned with
      | stays => exact hStill
      | found hStands | ended hStands | attempts hStands | fails hStands | opens hStands
      | loggedOn hStands | ends hStands | resumes hStands => cases hStill.symm.trans hStands

theorem isConnected_backOff (client : Client) (offset : Binary64) :
    (client.backOff offset).isConnected = client.isConnected := by
  unfold backOff
  split <;> rfl

/-- A connection is lost only when the reader of its link comes to the end. -/
theorem lost_of_disconnected (hSteady : Steady config client) (hLive : happening ≠ .shutDown)
    (hBefore : client.isConnected = true) (hAfter : (client.apply happening).isConnected = false) :
    ∃ id error, happening = .lost id error ∧ client.current = some id := by
  have hNot (hStill : (client.apply happening).isConnected = true) :
      ∃ id error, happening = .lost id error ∧ client.current = some id := by
    cases hStill.symm.trans hAfter
  cases happening with
  | passed | connecting => exact hNot hBefore
  | written id =>
    have hSpares := spares_modify client id
      (fun link => { link with outbound := link.outbound.take.2 }) (fun _ _ => rfl)
    exact hNot (hSpares.isConnected hBefore)
  | frame id text => exact hNot ((spares_onFrame client id text).isConnected hBefore)
  | sent method params timeout stamp =>
    exact hNot ((spares_send client method params timeout stamp).isConnected hBefore)
  | looked call => exact hNot ((spares_settle client call).isConnected hBefore)
  | handshake result =>
    exact hNot (isConnected_onHandshake hSteady.placed result (.inr hBefore))
  | lost id error =>
    by_cases hCurrent : client.current = some id
    · exact ⟨id, error, rfl, hCurrent⟩
    · exact hNot (isConnected_onLost hBefore hCurrent error)
  | reconnectAsked =>
    rcases triggerReconnect_cases client with hSame | ⟨hLost, -, -⟩
    · exact hNot ((congrArg isConnected hSame).trans hBefore)
    · cases hBefore.symm.trans hLost
  | reconnectTurn turn =>
    refine hNot ?_
    have hTurned := turned_reconnectStep client turn
    rw [Client.apply]
    generalize client.reconnectStep turn = next at hTurned
    cases hTurned with
    | stays | found | ended | attempts | loggedOn | ends | resumes => exact hBefore
    | fails hStands error stamp offset => exact (isConnected_backOff _ offset).trans hBefore
    | opens hStands stamp =>
      exact (logOn_spares _ stamp).isConnected
        (isConnected_onHandshake hSteady.placed _ (.inr hBefore))
  | shutDown => exact absurd rfl hLive

/-! ## The end of a reconnection -/

/-- It takes it that there is a connection: it opened one, or found one. -/
inductive Satisfied : Reconnection → Prop
  | opened (call : CallId) : Satisfied (.loggingOn call)
  | found : Satisfied .ending

/-- While a reconnection stood where it stands now, the connection was lost. -/
def CutOff (config : RpcConfig) (signer : Trade.Signer) (past : List Happening)
    (stage : Reconnection) : Prop :=
  ∃ early id error since, past = early ++ .lost id error :: since ∧
    ((new config signer).play early).isConnected = true ∧
    ((new config signer).play early).current = some id ∧
    Throughout (fun now => ((new config signer).play now).reconnection = stage) early past

theorem CutOff.snoc {stage : Reconnection} (hCut : CutOff config signer past stage)
    (hStands : ((new config signer).play (past ++ [happening])).reconnection = stage) :
    CutOff config signer (past ++ [happening]) stage := by
  obtain ⟨early, id, error, since, hPast, hConnected, hCurrent, hSince⟩ := hCut
  exact ⟨early, id, error, since ++ [happening], by simp [hPast], hConnected, hCurrent,
    hSince.snoc hStands⟩

/-- Where the reconnection stood there before, it is the connection that may have changed. -/
theorem connected_or_cutOff_snoc (hLive : .shutDown ∉ past ++ [happening]) {stage : Reconnection}
    (hEarlier : ((new config signer).play past).isConnected = true ∨
      CutOff config signer past stage)
    (hStood : ((new config signer).play past).reconnection = stage)
    (hStands : ((new config signer).play (past ++ [happening])).reconnection = stage) :
    ((new config signer).play (past ++ [happening])).isConnected = true ∨
      CutOff config signer (past ++ [happening]) stage := by
  obtain ⟨hLivePast, hNow⟩ := live_of_snoc hLive
  rcases hEarlier with hConnected | hCut
  · cases hAfter : ((new config signer).play (past ++ [happening])).isConnected with
    | true => exact .inl rfl
    | false =>
      rw [play_snoc] at hAfter
      obtain ⟨id, error, rfl, hCurrent⟩ :=
        lost_of_disconnected (steady_play config signer hLivePast) hNow hConnected hAfter
      exact .inr ⟨past, id, error, [], rfl, hConnected, hCurrent,
        (Throughout.refl hStood).snoc hStands⟩
  · exact .inr (hCut.snoc hStands)

/-- By induction on the happenings: what satisfies a reconnection is a connection, which is there
until its link is lost. -/
theorem connected_or_cutOff (hLive : .shutDown ∉ past) {stage : Reconnection}
    (hSatisfied : Satisfied stage)
    (hStands : ((new config signer).play past).reconnection = stage) :
    ((new config signer).play past).isConnected = true ∨ CutOff config signer past stage := by
  induction past using List.reverseRecOn with
  | nil =>
    subst hStands
    cases hSatisfied
  | append_singleton past happening ih =>
    obtain ⟨hLivePast, hNow⟩ := live_of_snoc hLive
    have hSteady := steady_play config signer hLivePast
    have hStood (hBefore : ((new config signer).play past).reconnection = stage) :=
      connected_or_cutOff_snoc hLive (ih hLivePast hBefore) hBefore hStands
    have hAffects := affects_apply hSteady hNow
    rw [← play_snoc] at hAffects
    generalize (new config signer).play (past ++ [happening]) = next at hAffects hStands hStood ⊢
    cases hAffects with
    | leaves hSame => exact hStood (hSame.symm.trans hStands)
    | starts hIdle hChecking =>
      rw [← hStands, hChecking] at hSatisfied
      cases hSatisfied
    | turns hTurn hTurned =>
      cases hTurned with
      | stays => exact hStood hStands
      | found hChecking hConnected => exact .inl hConnected
      | opens hConnecting stamp =>
        exact .inl ((logOn_spares _ stamp).isConnected
          (isConnected_onHandshake hSteady.placed _ (.inl rfl)))
      | ended | attempts | loggedOn | ends | resumes =>
        rw [← hStands] at hSatisfied
        cases hSatisfied
      | fails hConnecting error stamp offset =>
        rw [← hStands, backOff] at hSatisfied
        split at hSatisfied <;> cases hSatisfied

/-- **A reconnection ends with a connection or without attempts, unless its logon is cut off.**
Whatever handshakes, replies, losses, requests and other connections come when: a reconnection that
comes to its end leaves the client connected, or its last attempt failed and no further one is
allowed. The one exception is that the connection that it had opened or found was lost before the
end, be it while its logon waited for an answer; it ends without another look then, and what asked
for a reconnection in the meantime is forgotten. -/
theorem reconnection_ends_connected_or_exhausted (hLive : .shutDown ∉ past ++ [happening])
    (hBusy : ((new config signer).play past).reconnection ≠ .idle)
    (hEnds : ((new config signer).play (past ++ [happening])).reconnection = .idle) :
    ((new config signer).play (past ++ [happening])).isConnected = true ∨
    ((∃ error stamp offset,
        happening = .reconnectTurn (.handshake (.error error) stamp offset)) ∧
      config.reconnect.maxAttempts ≠ 0 ∧ config.reconnect.maxAttempts ≤
        ((new config signer).play (past ++ [happening])).backoff.attempts) ∨
    (happening = .reconnectTurn .go ∧ Satisfied ((new config signer).play past).reconnection ∧
      CutOff config signer past ((new config signer).play past).reconnection) := by
  obtain ⟨hLivePast, hNow⟩ := live_of_snoc hLive
  have hSteady := steady_play config signer hLivePast
  have hAffects := affects_apply hSteady hNow
  rw [← play_snoc] at hAffects
  generalize (new config signer).play (past ++ [happening]) = next at hAffects hEnds ⊢
  cases hAffects with
  | leaves hSame => exact absurd (hSame.symm.trans hEnds) hBusy
  | starts hIdle hChecking => cases hChecking.symm.trans hEnds
  | turns hTurn hTurned =>
    cases hTurned with
    | stays => exact absurd hEnds hBusy
    | found | attempts | opens | resumes => cases hEnds
    | ends hWaiting hCancelled => cases hSteady.live.symm.trans hCancelled
    | fails hConnecting error stamp offset =>
      have hOpened := (hSteady.onHandshake (.error error)).1
      refine .inr (.inl ⟨⟨error, stamp, offset, hTurn⟩, ?_⟩)
      unfold backOff at hEnds ⊢
      split at hEnds
      · next hAsk =>
        have hUsed := (Backoff.mayRetry_eq_false_iff _).mp (Backoff.ask_eq_exhausted_iff.mp hAsk)
        rwa [hOpened.policy] at hUsed
      · cases hEnds
      · cases hEnds
    | ended hEnding =>
      rcases connected_or_cutOff hLivePast .found hEnding with hConnected | hCut
      · exact .inl hConnected
      · exact .inr (.inr ⟨hTurn, hEnding ▸ .found, hEnding ▸ hCut⟩)
    | loggedOn hLogon =>
      rcases connected_or_cutOff hLivePast (.opened _) hLogon with hConnected | hCut
      · exact .inl hConnected
      · exact .inr (.inr ⟨hTurn, hLogon ▸ .opened _, hLogon ▸ hCut⟩)

/-! ## A connection that is lost during its logon -/

def patient : RpcConfig where
  connection := ⟨"wss://trading", .standard, .ofSecs 10, .ofSecs 10, 8, 8⟩
  requestTimeout := .ofSecs 5
  reconnect := .immediate (.ofSecs 1)

def shortSigner : Trade.Signer := ⟨"key", fun _ => "signature"⟩

/-- A reconnection opens a connection, which is lost before its logon is answered. A caller asks for
a reconnection, and the logon fails. -/
def cutOffHappenings : List Happening :=
  [.reconnectAsked, .reconnectTurn .go, .reconnectTurn (.handshake (.ok ()) ⟨"logon", 0⟩ .zero),
    .lost 0 .closed, .reconnectAsked, .looked 0]

/-- The reconnection ends without a connection although any number of attempts is allowed, and
nothing is left of the request that came in the meantime. -/
theorem cut_off_reconnection_gives_up :
    let before := (new patient shortSigner).play cutOffHappenings
    let after := (new patient shortSigner).play (cutOffHappenings ++ [.reconnectTurn .go])
    before.reconnection = .loggingOn 0 ∧ after.reconnection = .idle ∧
    after.isConnected = false ∧ patient.reconnect.maxAttempts = 0 ∧ after.backoff.attempts = 0 := by
  decide +kernel

/-- Of the three ways to end it was this one. -/
theorem reconnection_cut_off_during_logon :
    CutOff patient shortSigner cutOffHappenings (.loggingOn 0) := by
  have hLogon : ((new patient shortSigner).play cutOffHappenings).reconnection = .loggingOn 0 := by
    decide +kernel
  have hLost : ((new patient shortSigner).play
      (cutOffHappenings ++ [.reconnectTurn .go])).isConnected = false := by decide +kernel
  have hLive : .shutDown ∉ cutOffHappenings ++ [.reconnectTurn .go] := by simp [cutOffHappenings]
  have hBusy : ((new patient shortSigner).play cutOffHappenings).reconnection ≠ .idle := by
    simp [hLogon]
  have hEnds := reconnection_ends_connected_or_exhausted hLive hBusy (by decide +kernel)
  rcases hEnds with hConnected | ⟨-, hBounded, -⟩ | ⟨-, -, hCut⟩
  · cases hConnected.symm.trans hLost
  · exact absurd rfl hBounded
  · rwa [hLogon] at hCut

end MarketGateway.Rpc.Client
