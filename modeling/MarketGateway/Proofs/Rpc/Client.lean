import MarketGateway.Rpc.Client
import MarketGateway.Proofs.Rpc.Tickets

/-!
# What the trading client does to its calls

`Client.Happening` lists what can come between two steps of a caller: frames and the loss of
connections, time, the writers, other callers, the reconnection, the end of the client. `play` lets
a list of them happen, in any order and with any content.

A step of the client is seen from outside through the sessions of its links and what it holds on
the calls. `Client.Moves touched` relates two clients when sessions took quiet steps only and
nothing changed for calls that are not `touched`; each operation has a lemma that says which calls
it touches. Frames are apart. `Client.Sound` holds of every client that was played to
(`Sound.play`).
-/

namespace MarketGateway.Rpc.Client

/-- What can come between two steps of a caller. -/
inductive Happening
  | passed (time : Duration)
  /-- The writer of a link takes the oldest frame. -/
  | written (link : LinkId)
  | frame (link : LinkId) (text : String)
  | lost (link : LinkId) (error : TransportError)
  | sent (method : RpcMethod) (params : Trade.Params) (timeout : Duration) (stamp : Stamp)
  /-- A caller looks for its answer. -/
  | looked (call : CallId)
  | connecting
  | handshake (result : Except TransportError Unit)
  | reconnectAsked
  | reconnectTurn (turn : Turn)
  | shutDown

def apply (client : Client) : Happening → Client
  | .passed time => { client with now := client.now + time }
  | .written id =>
    { client with
      links := client.links.modify id fun link => { link with outbound := link.outbound.take.2 } }
  | .frame id text => client.onFrame id text
  | .lost id error => client.onLost id error
  | .sent method params timeout stamp => (client.send method params timeout stamp).2
  | .looked call => client.settle call
  | .connecting => client.beginConnect
  | .handshake result => (client.onHandshake result).2
  | .reconnectAsked => client.triggerReconnect
  | .reconnectTurn turn => client.reconnectStep turn
  | .shutDown => client.shutDown

def play (client : Client) (happenings : List Happening) : Client := happenings.foldl apply client

theorem play_snoc (start : Client) (past : List Happening) (happening : Happening) :
    start.play (past ++ [happening]) = (start.play past).apply happening := by
  simp [play]

/-- The session of a link; links that were not opened have an empty one. -/
def sessionAt (client : Client) (id : LinkId) : Session :=
  match client.links[id]? with
  | some link => link.session
  | none => {}

variable {client next : Client} {id : LinkId} {link : Link} {session : Session}
  {metrics : List Metric}

theorem sessionAt_of_getElem? (hLink : client.links[id]? = some link) :
    client.sessionAt id = link.session := by
  rw [sessionAt, hLink]

theorem sessionAt_congr (hLinks : next.links = client.links) (id : LinkId) :
    next.sessionAt id = client.sessionAt id := by
  rw [sessionAt, sessionAt, hLinks]

/-- Links may be changed in anything but their sessions. -/
theorem sessionAt_modify (f : Link → Link) (hSession : ∀ link, (f link).session = link.session)
    (hLinks : next.links = client.links.modify id f) (other : LinkId) :
    next.sessionAt other = client.sessionAt other := by
  rw [sessionAt, sessionAt, hLinks, List.getElem?_modify]
  cases client.links[other]? with
  | none => rfl
  | some link =>
      simp only [Option.map_eq_map, Option.map_some]
      split
      · exact hSession link
      · rfl

theorem sessionAt_setSession (hLink : client.links[id]? = some link) (other : LinkId) :
    (client.setSession id session metrics).sessionAt other =
      if id = other then session else client.sessionAt other := by
  simp only [sessionAt, setSession, record, List.getElem?_modify]
  by_cases hSame : id = other
  · subst hSame
    simp [hLink]
  · simp only [hSame, if_false]
    cases client.links[other]? <;> rfl

theorem sessionAt_opened (hLinks : next.links = client.links ++ [link]) (hNew : link.session = {})
    (other : LinkId) : next.sessionAt other = client.sessionAt other := by
  rw [sessionAt, sessionAt, hLinks]
  rcases Nat.lt_trichotomy other client.links.length with hOld | rfl | hBeyond
  · rw [List.getElem?_append_left hOld]
  · rw [List.getElem?_concat_length, List.getElem?_eq_none (Nat.le_refl _)]
    exact hNew
  · rw [List.getElem?_eq_none (by simp; omega), List.getElem?_eq_none (by omega)]

/-! ## Moves -/

/-- Sessions took quiet steps, and calls that are not touched are as they were. -/
structure Moves (touched : CallId → Prop) (before after : Client) : Prop where
  sessions : ∀ id, Relation.ReflTransGen Session.Quiet (before.sessionAt id) (after.sessionAt id)
  links : before.links.length ≤ after.links.length
  nextCall : before.nextCall ≤ after.nextCall
  calls : ∀ call, ¬ touched call → after.calls.lookup call = before.calls.lookup call
  finished : ∀ call, ¬ touched call → after.finished.lookup call = before.finished.lookup call

variable {touched : CallId → Prop}

theorem Moves.refl (client : Client) : Moves touched client client :=
  ⟨fun _ => .refl, Nat.le_refl _, Nat.le_refl _, fun _ _ => rfl, fun _ _ => rfl⟩

theorem Moves.trans {middle : Client} (hFirst : Moves touched client middle)
    (hSecond : Moves touched middle next) : Moves touched client next :=
  ⟨fun id => (hFirst.sessions id).trans (hSecond.sessions id),
    Nat.le_trans hFirst.links hSecond.links, Nat.le_trans hFirst.nextCall hSecond.nextCall,
    fun call hCall => (hSecond.calls call hCall).trans (hFirst.calls call hCall),
    fun call hCall => (hSecond.finished call hCall).trans (hFirst.finished call hCall)⟩

theorem quiet_of_eq {session next : Session} (hEq : next = session) :
    Relation.ReflTransGen Session.Quiet session next := hEq ▸ .refl

/-- Links may be changed in anything but their sessions, and time, state and metrics in any way. -/
theorem moves_of_sessionAt (hSessions : ∀ id, next.sessionAt id = client.sessionAt id)
    (hLinks : next.links.length = client.links.length) (hNext : next.nextCall = client.nextCall)
    (hCalls : next.calls = client.calls) (hFinished : next.finished = client.finished) :
    Moves touched client next where
  sessions id := quiet_of_eq (hSessions id)
  links := Nat.le_of_eq hLinks.symm
  nextCall := Nat.le_of_eq hNext.symm
  calls _ _ := by rw [hCalls]
  finished _ _ := by rw [hFinished]

theorem moves_setSession (hLink : client.links[id]? = some link)
    (hQuiet : Relation.ReflTransGen Session.Quiet link.session session) :
    Moves touched client (client.setSession id session metrics) where
  sessions other := by
    rw [sessionAt_setSession hLink]
    split
    · next hSame =>
        subst hSame
        rwa [sessionAt_of_getElem? hLink]
    · exact .refl
  links := by simp [setSession, record]
  nextCall := Nat.le_refl _
  calls _ _ := rfl
  finished _ _ := rfl

theorem moves_finish {call : CallId} (hTouched : touched call) (method : RpcMethod) (reply : Reply) :
    Moves touched client (client.finish call method reply) where
  sessions _ := .refl
  links := Nat.le_refl _
  nextCall := Nat.le_refl _
  calls other hOther := by
    have hNe : other ≠ call := fun hEq => hOther (hEq ▸ hTouched)
    exact lookup_filter_ne hNe
  finished other hOther := by
    have hNe : other ≠ call := fun hEq => hOther (hEq ▸ hTouched)
    have hBack : (other == call) = false := beq_eq_false_iff_ne.mpr hNe
    simp only [finish, record, List.lookup_append, List.lookup_cons, hBack, List.lookup_nil,
      Option.or_none]

/-! ## What each operation touches -/

/-- What a caller that looks for its answer finds. -/
inductive Settled (client : Client) (id : CallId) : Client → Prop
  | stays (hWhy : ∀ call, client.calls.lookup id = some call →
      client.links[call.link]? = none ∨ client.now < call.due) : Settled client id client
  | leaves {call : Call} {link : Link} {reply : Reply} {metrics : List Metric}
      (hCall : client.calls.lookup id = some call) (hLink : client.links[call.link]? = some link)
      (hReply : link.session.answers.lookup call.ticket = some reply ∨
        reply = .error .connectionClosed ∨ reply = .error (.timeout call.timeout)) :
      Settled client id
        ((client.setSession call.link
          ((link.session.take call.ticket).2.abandon call.requestId).1 metrics).finish id
            call.method reply)

theorem settle_spec (client : Client) (id : CallId) : Settled client id (client.settle id) := by
  unfold settle
  split
  · next hNone => exact .stays (by simp [hNone])
  · next call hCall =>
      split
      · next hNone =>
          refine .stays ?_
          intro other hOther
          obtain rfl : call = other := Option.some.inj (hCall.symm.trans hOther)
          exact .inl hNone
      · next link hLink =>
          simp only [Session.take]
          split
          · next reply hDelivery =>
              exact .leaves hCall hLink (.inl (Session.lookup_of_answered hDelivery))
          · exact .leaves hCall hLink (.inr (.inl rfl))
          · split
            · exact .leaves hCall hLink (.inr (.inr rfl))
            · next hEarly =>
                refine .stays ?_
                intro other hOther
                obtain rfl : call = other := Option.some.inj (hCall.symm.trans hOther)
                exact .inr (Nat.lt_of_not_le hEarly)

theorem Settled.moves {call : CallId} (hSettled : Settled client call next)
    (hTouched : (client.calls.lookup call).isSome → touched call) : Moves touched client next := by
  cases hSettled with
  | stays hWhy => exact .refl client
  | leaves hCall hLink hReply =>
      refine .trans (moves_setSession hLink ?_) (moves_finish (hTouched (by simp [hCall])) _ _)
      exact .tail (.single (.take _ _)) (.abandon _ _)

theorem moves_closeSession (client : Client) (id : LinkId) :
    Moves touched client (client.closeSession id) := by
  unfold closeSession
  split
  · exact .refl client
  · next link hLink => exact moves_setSession hLink (.single (.close _))

theorem moves_onLost (client : Client) (id : LinkId) (error : TransportError) :
    Moves touched client (client.onLost id error) := by
  unfold onLost
  split
  · exact .refl client
  · next link hLink =>
      split
      · refine .trans (moves_closeSession client id) ?_
        refine moves_of_sessionAt ?_ (by simp) rfl rfl rfl
        exact sessionAt_modify
          (fun link => { link with reading := false, outbound := link.outbound.close })
          (fun _ => rfl) (by rfl)
      · exact .refl client

theorem moves_onHandshake (client : Client) (result : Except TransportError Unit) :
    Moves touched client (client.onHandshake result).2 := by
  cases result with
  | error error => exact moves_of_sessionAt (sessionAt_congr rfl) rfl rfl rfl rfl
  | ok opened =>
      have hOpen (link : Link) (hNew : link.session = {}) (current : Option LinkId) :
          Moves touched client
            { client with links := client.links ++ [link], current := current } :=
        ⟨fun other => quiet_of_eq (sessionAt_opened rfl hNew other), by simp, Nat.le_refl _,
          fun _ _ => rfl, fun _ _ => rfl⟩
      have hState (client : Client) :
          Moves touched client { client with state := client.state.connected } :=
        moves_of_sessionAt (sessionAt_congr rfl) rfl rfl rfl rfl
      simp only [onHandshake]
      split
      · next old hOld =>
          exact ((hOpen ⟨{}, _, true⟩ rfl _).trans (moves_closeSession _ old)).trans (hState _)
      · exact (hOpen ⟨{}, _, true⟩ rfl _).trans (hState _)

/-- What becomes of a request with an id and a frame that is to go over a link. -/
inductive SentOver (client : Client) (call : CallId) (id : LinkId) (link : Link) (method : RpcMethod)
    (timeout : Duration) (requestId text : String) : Client → Prop
  | refused (hClosed : link.session.closed = true) :
      SentOver client call id link method timeout requestId text
        (client.finish call method (.error .connectionClosed))
  | unqueued {offer : Offer} {entered left : List Metric} (hOpen : link.session.closed = false)
      (hOffer : (link.outbound.offer text).1 = offer) (hRejected : offer ≠ .accepted) :
      SentOver client call id link method timeout requestId text
        (((client.setSession id (link.session.register requestId).2.1 entered).setSession id
          ((link.session.register requestId).2.1.abandon requestId).1 left).finish call method
            (.error (queueFailure offer)))
  | queued {outbound : Queue String} {metrics : List Metric}
      (hOpen : link.session.closed = false)
      (hOffer : link.outbound.offer text = (.accepted, outbound)) :
      SentOver client call id link method timeout requestId text
        { client.setSession id (link.session.register requestId).2.1 metrics with
          links := (client.setSession id (link.session.register requestId).2.1 metrics).links.modify
            id fun link => { link with outbound := outbound }
          calls := client.calls ++ [(call, ⟨method, id, requestId, link.session.nextTicket, timeout,
            client.now + timeout⟩)] }

theorem sendOver_spec (client : Client) (call : CallId) (id : LinkId) (link : Link)
    (method : RpcMethod) (params : Trade.Params) (timeout : Duration) (stamp : Stamp) :
    SentOver client call id link method timeout stamp.requestId
      (client.requestText method params stamp)
      (client.sendOver call id link method params timeout stamp) := by
  unfold sendOver
  cases hClosed : link.session.closed with
  | true =>
      rw [Session.register_of_closed hClosed]
      exact .refused hClosed
  | false =>
      have hRegister : link.session.register stamp.requestId =
          (.ok link.session.nextTicket, (link.session.register stamp.requestId).2) := by
        rw [Session.register_of_open hClosed]
      have hText (session : Session) (metrics : List Metric) :
          (client.setSession id session metrics).requestText method params stamp =
            client.requestText method params stamp := rfl
      rw [hRegister]
      dsimp only
      rw [hText]
      cases hOffer : link.outbound.offer (client.requestText method params stamp) with
      | mk offer outbound =>
          cases offer with
          | accepted => exact .queued hClosed hOffer
          | full => exact .unqueued hClosed (by rw [hOffer]) (by simp)
          | closed => exact .unqueued hClosed (by rw [hOffer]) (by simp)

theorem SentOver.moves {call : CallId} {method : RpcMethod} {timeout : Duration}
    {requestId text : String} (hLink : client.links[id]? = some link) (hTouched : touched call)
    (hSent : SentOver client call id link method timeout requestId text next) :
    Moves touched client next := by
  have hRegister := Session.Quiet.register link.session requestId
  have hEntered (metrics : List Metric) : Moves touched client
      (client.setSession id (link.session.register requestId).2.1 metrics) :=
    moves_setSession hLink (.single hRegister)
  cases hSent with
  | refused hClosed => exact moves_finish hTouched _ _
  | @unqueued offer entered left hOpen hOffer hRejected =>
      have hAgain : (client.setSession id (link.session.register requestId).2.1 entered).links[id]? =
          some { link with session := (link.session.register requestId).2.1 } := by
        simp [setSession, record, hLink]
      refine .trans (hEntered entered) (.trans ?_ (moves_finish hTouched _ _))
      exact moves_setSession hAgain (.single (.abandon _ _))
  | @queued outbound metrics hOpen hOffer =>
      refine .trans (hEntered metrics) ⟨?_, by simp, Nat.le_refl _, ?_, fun _ _ => rfl⟩
      · intro other
        exact quiet_of_eq (sessionAt_modify (fun link => { link with outbound := outbound })
          (fun _ => rfl) rfl other)
      · intro other hOther
        have hBack : (other == call) = false :=
          beq_eq_false_iff_ne.mpr fun hEq => hOther (hEq ▸ hTouched)
        simp only [List.lookup_append, List.lookup_cons, hBack, List.lookup_nil, Option.or_none]
        rfl

theorem moves_send (hTouched : touched client.nextCall) (method : RpcMethod)
    (params : Trade.Params) (timeout : Duration) (stamp : Stamp) :
    Moves touched client (client.send method params timeout stamp).2 := by
  have hCount : Moves touched client { client with nextCall := client.nextCall + 1 } :=
    ⟨fun _ => .refl, Nat.le_refl _, Nat.le_succ _, fun _ _ => rfl, fun _ _ => rfl⟩
  unfold send
  refine hCount.trans ?_
  dsimp only
  split
  · exact moves_finish hTouched _ _
  · split
    · exact moves_finish hTouched _ _
    · next hLink => exact (sendOver_spec _ _ _ _ _ _ _ _).moves hLink hTouched

theorem SentOver.nextCall {call : CallId} {method : RpcMethod} {timeout : Duration}
    {requestId text : String}
    (hSent : SentOver client call id link method timeout requestId text next) :
    next.nextCall = client.nextCall := by
  cases hSent <;> rfl

theorem nextCall_send (client : Client) (method : RpcMethod) (params : Trade.Params)
    (timeout : Duration) (stamp : Stamp) :
    (client.send method params timeout stamp).2.nextCall = client.nextCall + 1 := by
  unfold send
  dsimp only
  split
  · rfl
  · split
    · rfl
    · exact (sendOver_spec _ _ _ _ _ _ _ _).nextCall

theorem moves_backOff (client : Client) (offset : Binary64) :
    Moves touched client (client.backOff offset) := by
  unfold backOff
  split <;> exact moves_of_sessionAt (sessionAt_congr rfl) rfl rfl rfl rfl

theorem moves_triggerReconnect (client : Client) : Moves touched client client.triggerReconnect := by
  unfold triggerReconnect
  split
  · exact .refl client
  · exact moves_of_sessionAt (sessionAt_congr rfl) rfl rfl rfl rfl

theorem moves_shutDown (client : Client) : Moves touched client client.shutDown := by
  have hEnd : Moves touched client { client with cancelled := true, current := none } :=
    moves_of_sessionAt (sessionAt_congr rfl) rfl rfl rfl rfl
  unfold shutDown
  dsimp only
  split
  · exact hEnd.trans (moves_closeSession _ _)
  · exact hEnd

theorem nextCall_onHandshake (client : Client) (result : Except TransportError Unit) :
    (client.onHandshake result).2.nextCall = client.nextCall := by
  cases result with
  | error error => rfl
  | ok opened =>
      simp only [onHandshake]
      split
      · unfold closeSession
        split <;> rfl
      · rfl

theorem moves_reconnection (client : Client) (reconnection : Reconnection) :
    Moves touched client { client with reconnection := reconnection } :=
  moves_of_sessionAt (sessionAt_congr rfl) rfl rfl rfl rfl

theorem moves_reconnectStep (turn : Turn)
    (hTouched : client.nextCall < (client.reconnectStep turn).nextCall → touched client.nextCall) :
    Moves touched client (client.reconnectStep turn) := by
  unfold reconnectStep at hTouched ⊢
  split
  · split
    · exact moves_reconnection client _
    · exact moves_of_sessionAt (sessionAt_congr rfl) rfl rfl rfl rfl
  · exact moves_reconnection client _
  · next result stamp offset hConnecting =>
      have hOpened : Moves touched client (client.onHandshake result).2 :=
        moves_onHandshake client result
      have hCount := nextCall_onHandshake client result
      rw [hConnecting] at hTouched
      dsimp only at hTouched
      split
      · next failed hResult =>
          rw [hResult] at hOpened
          exact hOpened.trans (moves_backOff failed offset)
      · next opened hResult =>
          rw [hResult] at hOpened hCount hTouched
          have hSent := nextCall_send opened .logon {} opened.config.requestTimeout stamp
          have hLogOn : touched opened.nextCall := by
            rw [hCount]
            refine hTouched ?_
            show client.nextCall < (opened.send .logon {} opened.config.requestTimeout stamp).2.nextCall
            rw [hSent, ← hCount]
            exact Nat.lt_succ_self _
          exact (hOpened.trans (moves_send hLogOn _ _ _ stamp)).trans (moves_reconnection _ _)
  · split
    · exact .refl client
    · exact moves_reconnection client _
  · split
    · exact moves_reconnection client _
    · split
      · exact moves_reconnection client _
      · exact .refl client
  · exact .refl client

/-! ## Runs -/

/-- A happening may change what is held on a call: on one that it makes, or on one whose caller
looks. -/
def Happening.Touches (client : Client) (happening : Happening) (call : CallId) : Prop :=
  match happening with
  | .looked id => call = id ∧ (client.calls.lookup id).isSome
  | _ => call = client.nextCall ∧ call < (client.apply happening).nextCall

/-- A client after a frame. -/
structure Received (before after : Client) (id : LinkId) (text : String) : Prop where
  sessions : ∀ other, after.sessionAt other = before.sessionAt other ∨
    (other = id ∧ after.sessionAt other = ((before.sessionAt other).dispatch text).1)
  links : after.links.length = before.links.length
  nextCall : after.nextCall = before.nextCall
  calls : after.calls = before.calls
  finished : after.finished = before.finished

theorem received_onFrame (client : Client) (id : LinkId) (text : String) :
    Received client (client.onFrame id text) id text := by
  have hNothing : Received client client id text := ⟨fun _ => .inl rfl, rfl, rfl, rfl, rfl⟩
  unfold onFrame
  split
  · exact hNothing
  · next link hLink =>
      split
      · refine ⟨?_, by simp [setSession, record], rfl, rfl, rfl⟩
        intro other
        rw [sessionAt_setSession (by exact hLink)]
        split
        · next hSame =>
            subst hSame
            exact .inr ⟨rfl, by rw [sessionAt_of_getElem? hLink]⟩
        · exact .inl (sessionAt_congr rfl other)
      · exact hNothing

theorem moves_apply {happening : Happening} (hQuiet : ∀ id text, happening ≠ .frame id text) :
    Moves (happening.Touches client) client (client.apply happening) := by
  cases happening with
  | passed time => exact moves_of_sessionAt (sessionAt_congr rfl) rfl rfl rfl rfl
  | written id =>
      refine moves_of_sessionAt ?_ (by simp [apply]) rfl rfl rfl
      exact sessionAt_modify (fun link => { link with outbound := link.outbound.take.2 })
        (fun _ => rfl) rfl
  | frame id text => exact absurd rfl (hQuiet id text)
  | lost id error => exact moves_onLost client id error
  | sent method params timeout stamp =>
      refine moves_send ⟨rfl, ?_⟩ method params timeout stamp
      show client.nextCall < (client.send method params timeout stamp).2.nextCall
      rw [nextCall_send]
      exact Nat.lt_succ_self _
  | looked id => exact (settle_spec client id).moves fun hCall => ⟨rfl, hCall⟩
  | connecting => exact moves_of_sessionAt (sessionAt_congr rfl) rfl rfl rfl rfl
  | handshake result => exact moves_onHandshake client result
  | reconnectAsked => exact moves_triggerReconnect client
  | reconnectTurn turn => exact moves_reconnectStep turn fun hIssued => ⟨rfl, hIssued⟩
  | shutDown => exact moves_shutDown client

/-- Tickets and numbers of calls are not in use before they are handed out. -/
structure Sound (client : Client) : Prop where
  sessions : ∀ id, (client.sessionAt id).Fresh
  calls : ∀ call, client.nextCall ≤ call → client.calls.lookup call = none
  finished : ∀ call, client.nextCall ≤ call → client.finished.lookup call = none

theorem sound_new (config : RpcConfig) (signer : Trade.Signer) : (new config signer).Sound :=
  ⟨fun _ => Session.fresh_empty, fun _ _ => rfl, fun _ _ => rfl⟩

theorem Sound.moves (hSound : client.Sound) (hMoves : Moves touched client next)
    (hTouched : ∀ call, touched call → call < next.nextCall) : next.Sound where
  sessions id := (hSound.sessions id).quiets (hMoves.sessions id)
  calls call hLate := by
    rw [hMoves.calls call fun hCall => Nat.not_lt.mpr hLate (hTouched call hCall)]
    exact hSound.calls call (Nat.le_trans hMoves.nextCall hLate)
  finished call hLate := by
    rw [hMoves.finished call fun hCall => Nat.not_lt.mpr hLate (hTouched call hCall)]
    exact hSound.finished call (Nat.le_trans hMoves.nextCall hLate)

theorem Sound.apply (hSound : client.Sound) (happening : Happening) :
    (client.apply happening).Sound := by
  by_cases hFrame : ∃ id text, happening = .frame id text
  · obtain ⟨id, text, rfl⟩ := hFrame
    have hReceived := received_onFrame client id text
    refine ⟨?_, ?_, ?_⟩
    · intro other
      rcases hReceived.sessions other with hSame | ⟨_, hDispatch⟩
      · exact hSame ▸ hSound.sessions other
      · exact hDispatch ▸ (hSound.sessions other).dispatch text
    · intro call hLate
      rw [Client.apply, hReceived.nextCall] at hLate
      exact hReceived.calls ▸ hSound.calls call hLate
    · intro call hLate
      rw [Client.apply, hReceived.nextCall] at hLate
      exact hReceived.finished ▸ hSound.finished call hLate
  · have hMoves : Moves (happening.Touches client) client (client.apply happening) :=
      moves_apply fun id text hEq => hFrame ⟨id, text, hEq⟩
    refine hSound.moves hMoves ?_
    intro call hTouches
    unfold Happening.Touches at hTouches
    split at hTouches
    · obtain ⟨rfl, hCall⟩ := hTouches
      refine Nat.lt_of_not_le fun hLate => ?_
      rw [hSound.calls call (Nat.le_trans hMoves.nextCall hLate)] at hCall
      cases hCall
    · exact hTouches.2

theorem Sound.play (hSound : client.Sound) (happenings : List Happening) :
    (client.play happenings).Sound := by
  induction happenings generalizing client with
  | nil => exact hSound
  | cons happening rest ih => exact ih (hSound.apply happening)

end MarketGateway.Rpc.Client
