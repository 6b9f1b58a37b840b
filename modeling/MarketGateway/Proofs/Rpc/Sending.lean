import MarketGateway.Proofs.Rpc.Request

/-!
# One send, step by step

A send reads the current session, enters its request into the table, puts its frame in the queue of
the connection, waits, and takes its request out of the table again when it knows its reply.
`Sending.advance` takes one of these steps; `Client.send` takes the first ones at a stroke and
`Client.settle` the last two (`send_eq_depart`, `settle_eq_advance`).

Between any two of its steps everyone else may do anything to the client that `Meanwhile` allows:
tables change as callers and frames make them, while queues and the clock are not restrained at all.
Happenings and the steps of other sends are of this kind (`meanwhile_apply`, `meanwhile_advance`).
What a send says of its frame is then true, and its steps touch nothing of others
(`send_truthful`).
-/

namespace MarketGateway.Rpc

/-! ## Sessions -/

namespace Session

/-- What anyone can do to a session. -/
inductive Step : Session → Session → Prop
  | quiet {session next : Session} (hQuiet : Quiet session next) : Step session next
  | frame (session : Session) (text : String) : Step session (session.dispatch text).1

/-- Answers come from the exchange or say that the connection ended, and a closed table is empty. -/
structure Honest (session : Session) : Prop where
  answers : ∀ answer ∈ session.answers,
    answer.2 = .error .connectionClosed ∨ ∃ text id, Answers text id answer.2
  closed : session.closed = true → session.pending = []

variable {session next : Session}

theorem honest_empty : Honest {} := ⟨by simp, fun _ => rfl⟩

theorem Honest.quiet (hHonest : session.Honest) (hQuiet : Quiet session next) : next.Honest := by
  cases hQuiet with
  | register id =>
    cases hClosed : session.closed with
    | true => rwa [register_of_closed hClosed]
    | false =>
      rw [register_of_open hClosed]
      exact ⟨hHonest.answers, fun hShut => absurd (hClosed.symm.trans hShut) Bool.false_ne_true⟩
  | abandon id =>
    rw [abandon_eq]
    refine ⟨hHonest.answers, fun hClosed => ?_⟩
    simp only [hHonest.closed hClosed]
    rfl
  | take ticket =>
    exact ⟨fun answer hAnswer => hHonest.answers answer (List.mem_of_mem_filter hAnswer),
      hHonest.closed⟩
  | close =>
    refine ⟨fun answer hAnswer => ?_, fun _ => rfl⟩
    rcases List.mem_append.mp hAnswer with hOld | hFailed
    · exact hHonest.answers answer hOld
    · obtain ⟨entry, -, rfl⟩ := List.mem_map.mp hFailed
      exact .inl rfl

theorem Honest.dispatch (hHonest : session.Honest) (text : String) :
    (session.dispatch text).1.Honest := by
  rcases dispatch_cases session text with ⟨hSame, -⟩ | ⟨id, reply, hAnswers, hResolve⟩
  · rwa [hSame]
  · rw [hResolve]
    refine ⟨fun answer hAnswer => ?_, fun hClosed => ?_⟩
    · rcases mem_answers_resolve hAnswer with hOld | ⟨-, hReply⟩
      · exact hHonest.answers answer hOld
      · exact .inr ⟨text, id, hReply ▸ hAnswers⟩
    · show without session.pending id = []
      rw [hHonest.closed hClosed]
      rfl

theorem Honest.steps (hHonest : session.Honest) (hSteps : Relation.ReflTransGen Step session next) :
    next.Honest := by
  induction hSteps with
  | refl => exact hHonest
  | tail _ hStep ih =>
    cases hStep with
    | quiet hQuiet => exact ih.quiet hQuiet
    | frame text => exact ih.dispatch text

/-! ### The entries under other ids -/

theorem without_without (pending : List (String × Ticket)) (id : String) :
    without (without pending id) id = without pending id := by
  simp [without]

theorem without_register (session : Session) (id : String) :
    without (session.register id).2.1.pending id = without session.pending id := by
  cases hClosed : session.closed with
  | true => rw [register_of_closed hClosed]
  | false =>
    rw [register_of_open hClosed]
    simp [without]

theorem without_abandon (session : Session) (id : String) :
    without (session.abandon id).1.pending id = without session.pending id := by
  rw [abandon_eq]
  exact without_without session.pending id

theorem not_mem_abandon (session : Session) (id : String) :
    id ∉ (session.abandon id).1.pending.map Prod.fst := by
  rw [abandon_eq]
  intro hMem
  obtain ⟨entry, hEntry, hId⟩ := List.mem_map.mp hMem
  exact (mem_without.mp hEntry).2 hId

end Session

namespace Client

variable {client next start : Client} {id : LinkId} {link : Link}

/-! ## What may happen meanwhile -/

/-- What anyone may have done to a client. -/
structure Meanwhile (before after : Client) : Prop where
  sessions : ∀ id, Relation.ReflTransGen Session.Step (before.sessionAt id) (after.sessionAt id)
  links : before.links.length ≤ after.links.length

theorem Meanwhile.refl (client : Client) : Meanwhile client client :=
  ⟨fun _ => .refl, Nat.le_refl _⟩

theorem Meanwhile.trans {middle : Client} (hFirst : Meanwhile client middle)
    (hSecond : Meanwhile middle next) : Meanwhile client next :=
  ⟨fun id => (hFirst.sessions id).trans (hSecond.sessions id),
    Nat.le_trans hFirst.links hSecond.links⟩

theorem Meanwhile.record (hMeanwhile : Meanwhile client next) (metrics : List Metric) :
    Meanwhile client (next.record metrics) :=
  ⟨hMeanwhile.sessions, hMeanwhile.links⟩

theorem Moves.meanwhile {touched : CallId → Prop} (hMoves : Moves touched client next) :
    Meanwhile client next :=
  ⟨fun id => Relation.ReflTransGen.mono (fun _ _ => Session.Step.quiet) _ _ (hMoves.sessions id),
    hMoves.links⟩

theorem meanwhile_apply (client : Client) (happening : Happening) :
    Meanwhile client (client.apply happening) := by
  by_cases hFrame : ∃ id text, happening = .frame id text
  · obtain ⟨id, text, rfl⟩ := hFrame
    have hReceived := received_onFrame client id text
    refine ⟨fun other => ?_, Nat.le_of_eq hReceived.links.symm⟩
    show Relation.ReflTransGen Session.Step _ ((client.onFrame id text).sessionAt other)
    rcases hReceived.sessions other with hSame | ⟨-, hDispatch⟩
    · rw [hSame]
    · rw [hDispatch]
      exact .single (.frame _ text)
  · exact (moves_apply fun id text hEq => hFrame ⟨id, text, hEq⟩).meanwhile

theorem meanwhile_play (client : Client) (happenings : List Happening) :
    Meanwhile client (client.play happenings) := by
  induction happenings generalizing client with
  | nil => exact .refl client
  | cons happening rest ih => exact (meanwhile_apply client happening).trans (ih _)

theorem honest_play (config : RpcConfig) (signer : Trade.Signer) (happenings : List Happening)
    (id : LinkId) : (((new config signer).play happenings).sessionAt id).Honest :=
  Session.honest_empty.steps ((meanwhile_play (new config signer) happenings).sessions id)

/-! ## The steps of a send -/

/-- What a caller asks for, with the frame that it comes to. -/
structure Request where
  method : RpcMethod
  requestId : String
  text : String
  timeout : Duration

def request (client : Client) (method : RpcMethod) (params : Trade.Params) (timeout : Duration)
    (stamp : Stamp) : Request :=
  ⟨method, stamp.requestId, client.requestText method params stamp, timeout⟩

/-- What the caller of a call had asked for. -/
def Request.ofCall (call : Call) (text : String) : Request :=
  ⟨call.method, call.requestId, text, call.timeout⟩

/-- Where a send stands. -/
inductive Stage
  | called
  /-- It holds the session of a link. -/
  | chosen (link : LinkId)
  /-- Its request is in the table. -/
  | entered (link : LinkId) (ticket : Ticket)
  /-- Its frame is in the queue. -/
  | waiting (link : LinkId) (ticket : Ticket) (due : Duration)
  /-- It knows its reply, and its request is to leave the table. -/
  | leaving (link : LinkId) (reply : Reply)
  /-- It is over; there was no session if there is no link. -/
  | returned (link : Option LinkId) (reply : Reply)

namespace Stage

/-- The link whose session is still needed. -/
def link? : Stage → Option LinkId
  | called | returned _ _ => none
  | chosen link | entered link _ | waiting link _ _ | leaving link _ => some link

/-- How many steps are left at most. -/
def left : Stage → Nat
  | called => 5
  | chosen _ => 4
  | entered _ _ => 3
  | waiting _ _ _ => 2
  | leaving _ _ => 1
  | returned _ _ => 0

end Stage

/-- A client and one send. -/
structure Sending where
  client : Client
  stage : Stage := .called
  /-- How often the frame was put in a queue. -/
  placed : Nat := 0

namespace Sending

/-- The send is over. -/
def finish (sending : Sending) (request : Request) (link : Option LinkId) (reply : Reply) : Sending :=
  { sending with
    client := sending.client.record [.rpcRequest request.method.name reply.outcome]
    stage := .returned link reply }

/-- The next step of a send. One that waits looks for its answer, and stays if there is none yet. -/
def advance (sending : Sending) (request : Request) : Sending :=
  let client := sending.client
  match sending.stage with
  | .called =>
    match client.current with
    | none => sending.finish request none (.error .notConnected)
    | some id =>
      match client.links[id]? with
      | none => sending.finish request none (.error .notConnected)
      | some _ => { sending with stage := .chosen id }
  | .chosen id =>
    match client.links[id]? with
    | none => sending
    | some link =>
      match link.session.register request.requestId with
      | (.error error, _, _) => sending.finish request (some id) (.error error)
      | (.ok ticket, session, metrics) =>
        { sending with client := client.setSession id session metrics, stage := .entered id ticket }
  | .entered id ticket =>
    match client.links[id]? with
    | none => sending
    | some link =>
      match link.outbound.offer request.text with
      | (.accepted, outbound) =>
        { client := { client with
            links := client.links.modify id fun link => { link with outbound := outbound } }
          stage := .waiting id ticket (client.now + request.timeout)
          placed := sending.placed + 1 }
      | (offer, _) => { sending with stage := .leaving id (.error (queueFailure offer)) }
  | .waiting id ticket due =>
    match client.links[id]? with
    | none => sending
    | some link =>
      let (delivery, session) := link.session.take ticket
      let leave (reply : Reply) : Sending :=
        { sending with client := client.setSession id session [], stage := .leaving id reply }
      match delivery with
      | .answered reply => leave reply
      | .gone => leave (.error .connectionClosed)
      | .waiting =>
        if due ≤ client.now then leave (.error (.timeout request.timeout)) else sending
  | .leaving id reply =>
    match client.links[id]? with
    | none => sending
    | some link =>
      let (session, metrics) := link.session.abandon request.requestId
      { sending with client := client.setSession id session metrics }.finish request (some id) reply
  | .returned _ _ => sending

end Sending

/-- What a step of a send is. -/
inductive Advanced (request : Request) : Sending → Sending → Prop
  | unconnected (client : Client) (placed : Nat) :
      Advanced request ⟨client, .called, placed⟩
        ((⟨client, .called, placed⟩ : Sending).finish request none (.error .notConnected))
  | chooses {client : Client} {link : Link} (id : LinkId) (placed : Nat)
      (hLink : client.links[id]? = some link) :
      Advanced request ⟨client, .called, placed⟩ ⟨client, .chosen id, placed⟩
  | refused {client : Client} {id : LinkId} {link : Link} (placed : Nat)
      (hLink : client.links[id]? = some link) (hClosed : link.session.closed = true) :
      Advanced request ⟨client, .chosen id, placed⟩
        ((⟨client, .chosen id, placed⟩ : Sending).finish request (some id)
          (.error .connectionClosed))
  | enters {client : Client} {id : LinkId} {link : Link} (placed : Nat) (metrics : List Metric)
      (hLink : client.links[id]? = some link) :
      Advanced request ⟨client, .chosen id, placed⟩
        ⟨client.setSession id (link.session.register request.requestId).2.1 metrics,
          .entered id link.session.nextTicket, placed⟩
  | rejected {client : Client} {id : LinkId} {offer : Offer} (ticket : Ticket) (placed : Nat)
      (hOffer : offer ≠ .accepted) :
      Advanced request ⟨client, .entered id ticket, placed⟩
        ⟨client, .leaving id (.error (queueFailure offer)), placed⟩
  | puts {client : Client} {id : LinkId} {link : Link} {outbound : Queue String} (ticket : Ticket)
      (placed : Nat) (hLink : client.links[id]? = some link)
      (hOffer : link.outbound.offer request.text = (.accepted, outbound)) :
      Advanced request ⟨client, .entered id ticket, placed⟩
        ⟨{ client with
            links := client.links.modify id fun link => { link with outbound := outbound } },
          .waiting id ticket (client.now + request.timeout), placed + 1⟩
  | looks {client : Client} {id : LinkId} {link : Link} {ticket : Ticket} {reply : Reply}
      (due : Duration) (placed : Nat) (hLink : client.links[id]? = some link)
      (hReply : link.session.answers.lookup ticket = some reply ∨
        reply = .error .connectionClosed ∨ reply = .error (.timeout request.timeout)) :
      Advanced request ⟨client, .waiting id ticket due, placed⟩
        ⟨client.setSession id (link.session.take ticket).2 [], .leaving id reply, placed⟩
  | leaves {client : Client} {id : LinkId} {link : Link} (reply : Reply) (placed : Nat)
      (metrics : List Metric) (hLink : client.links[id]? = some link) :
      Advanced request ⟨client, .leaving id reply, placed⟩
        ((⟨client.setSession id (link.session.abandon request.requestId).1 metrics,
          .leaving id reply, placed⟩ : Sending).finish request (some id) reply)
  | stays {sending : Sending} (hWhy : sending.stage.left = 0 ∨
      (∃ id, sending.stage.link? = some id ∧ sending.client.links[id]? = none) ∨
      ∃ id ticket due, sending.stage = .waiting id ticket due ∧ sending.client.now < due) :
      Advanced request sending sending

theorem advanced_advance (sending : Sending) (request : Request) :
    Advanced request sending (sending.advance request) := by
  obtain ⟨client, stage, placed⟩ := sending
  unfold Sending.advance
  cases stage with
  | called =>
    dsimp only
    split
    · exact .unconnected client placed
    · split
      · exact .unconnected client placed
      · next hLink => exact .chooses _ placed hLink
  | chosen id =>
    dsimp only
    split
    · next hNone => exact .stays (.inr (.inl ⟨id, rfl, hNone⟩))
    · next link hLink =>
      cases hClosed : link.session.closed with
      | true =>
        rw [Session.register_of_closed hClosed]
        exact .refused placed hLink hClosed
      | false =>
        have hRegister : link.session.register request.requestId =
            (.ok link.session.nextTicket, (link.session.register request.requestId).2) := by
          rw [Session.register_of_open hClosed]
        rw [hRegister]
        exact .enters placed _ hLink
  | entered id ticket =>
    dsimp only
    split
    · next hNone => exact .stays (.inr (.inl ⟨id, rfl, hNone⟩))
    · next link hLink =>
      split
      · next hOffer => exact .puts ticket placed hLink hOffer
      · next offer _ hRejected _ => exact .rejected ticket placed hRejected
  | waiting id ticket due =>
    dsimp only
    split
    · next hNone => exact .stays (.inr (.inl ⟨id, rfl, hNone⟩))
    · next link hLink =>
      simp only [Session.take]
      split
      · next hDelivery =>
        exact .looks due placed hLink (.inl (Session.lookup_of_answered hDelivery))
      · exact .looks due placed hLink (.inr (.inl rfl))
      · split
        · exact .looks due placed hLink (.inr (.inr rfl))
        · next hEarly =>
          exact .stays (.inr (.inr ⟨id, ticket, due, rfl, Nat.lt_of_not_le hEarly⟩))
  | leaving id reply =>
    dsimp only
    split
    · next hNone => exact .stays (.inr (.inl ⟨id, rfl, hNone⟩))
    · next hLink => exact .leaves reply placed _ hLink
  | returned link reply => exact .stays (.inl rfl)

variable {request : Request} {sending after : Sending} {session : Session} {metrics : List Metric}

/-! ### What a step changes -/

theorem meanwhile_setSession (hLink : client.links[id]? = some link)
    (hQuiet : Session.Quiet link.session session) :
    Meanwhile client (client.setSession id session metrics) := by
  have hMoves : Moves (fun _ => True) client (client.setSession id session metrics) :=
    moves_setSession hLink (.single hQuiet)
  exact hMoves.meanwhile

theorem sessionAt_setOutbound (client : Client) (id : LinkId) (outbound : Queue String)
    (other : LinkId) :
    ({ client with
        links := client.links.modify id fun link => { link with outbound := outbound } } :
      Client).sessionAt other = client.sessionAt other :=
  sessionAt_modify (fun link => { link with outbound := outbound }) (fun _ => rfl) rfl other

/-- A step of a send is something that may happen meanwhile for another one. -/
theorem Advanced.meanwhile (hAdvanced : Advanced request sending after) :
    Meanwhile sending.client after.client := by
  cases hAdvanced with
  | unconnected | refused => exact (Meanwhile.refl _).record _
  | chooses | rejected | stays => exact .refl _
  | enters _ _ hLink => exact meanwhile_setSession hLink (.register _ _)
  | looks _ _ hLink => exact meanwhile_setSession hLink (.take _ _)
  | leaves _ _ _ hLink => exact (meanwhile_setSession hLink (.abandon _ _)).record _
  | puts =>
    refine ⟨fun other => ?_, by simp⟩
    rw [sessionAt_setOutbound]

theorem meanwhile_advance (sending : Sending) (request : Request) :
    Meanwhile sending.client (sending.advance request).client :=
  (advanced_advance sending request).meanwhile

theorem without_setSession (hLink : client.links[id]? = some link) {name : String}
    (hSame : Session.without session.pending name = Session.without link.session.pending name)
    (metrics : List Metric) (other : LinkId) :
    Session.without ((client.setSession id session metrics).sessionAt other).pending name =
      Session.without (client.sessionAt other).pending name := by
  rw [sessionAt_setSession hLink]
  split
  · next hEq =>
    rw [← hEq, sessionAt_of_getElem? hLink]
    exact hSame
  · rfl

/-- What a step of a send does to queues and tables. -/
structure Discreet (request : Request) (before after : Sending) : Prop where
  /-- It counts the frame just when it puts it in a queue, and otherwise leaves the queues alone. -/
  queues : after.placed = before.placed ∧ after.client.queues = before.client.queues ∨
    after.placed = before.placed + 1 ∧ Queued before.client after.client request.text
  /-- It leaves the entries under other ids alone, in all tables. -/
  others : ∀ id, Session.without (after.client.sessionAt id).pending request.requestId =
    Session.without (before.client.sessionAt id).pending request.requestId
  /-- The step that returns leaves nothing under the id in the table of the session. -/
  gone : ∀ id reply, after.stage = .returned (some id) reply → after.stage ≠ before.stage →
    request.requestId ∉ (after.client.sessionAt id).pending.map Prod.fst

theorem Advanced.queues (hAdvanced : Advanced request sending after) :
    after.placed = sending.placed ∧ after.client.queues = sending.client.queues ∨
      after.placed = sending.placed + 1 ∧ Queued sending.client after.client request.text := by
  cases hAdvanced with
  | unconnected | chooses | refused | rejected | stays => exact .inl ⟨rfl, rfl⟩
  | enters | looks => exact .inl ⟨rfl, queues_setSession _ _ _ _⟩
  | leaves _ _ metrics => exact .inl ⟨rfl, queues_setSession _ _ _ metrics⟩
  | puts _ _ hLink hOffer =>
    exact .inr ⟨rfl, _, _, _, hLink, hOffer, queues_outbound _ _ _⟩

theorem Advanced.others (hAdvanced : Advanced request sending after) (id : LinkId) :
    Session.without (after.client.sessionAt id).pending request.requestId =
      Session.without (sending.client.sessionAt id).pending request.requestId := by
  cases hAdvanced with
  | unconnected | chooses | refused | rejected | stays => rfl
  | enters _ _ hLink => exact without_setSession hLink (Session.without_register _ _) _ id
  | looks _ _ hLink => exact without_setSession hLink (by rfl) _ id
  | leaves _ _ metrics hLink =>
    exact without_setSession hLink (Session.without_abandon _ request.requestId) metrics id
  | puts => rw [sessionAt_setOutbound]

theorem Advanced.gone (hAdvanced : Advanced request sending after)
    (hHonest : ∀ id, (sending.client.sessionAt id).Honest) {id : LinkId} {reply : Reply}
    (hReturned : after.stage = .returned (some id) reply) (hMoved : after.stage ≠ sending.stage) :
    request.requestId ∉ (after.client.sessionAt id).pending.map Prod.fst := by
  cases hAdvanced with
  | unconnected | chooses | enters | rejected | puts | looks => cases hReturned
  | stays => exact absurd rfl hMoved
  | @refused client chosen link _ hLink hClosed =>
    cases hReturned
    -- Nothing was entered, and a request of this id that was there before left with the closing.
    have hEmpty := (hHonest id).closed (by rwa [sessionAt_of_getElem? hLink])
    show _ ∉ (client.sessionAt id).pending.map Prod.fst
    rw [show (client.sessionAt id).pending = [] from hEmpty]
    exact List.not_mem_nil
  | @leaves client left link _ _ metrics hLink =>
    cases hReturned
    show _ ∉ ((client.setSession id _ metrics).sessionAt id).pending.map Prod.fst
    rw [sessionAt_setSession hLink, if_pos rfl]
    exact Session.not_mem_abandon _ _

/-! ## Runs -/

/-- A send that was begun with `start`, whatever happened between its steps. -/
inductive Run (request : Request) (start : Client) : Sending → Prop
  | called : Run request start ⟨start, .called, 0⟩
  | own {sending : Sending} (hRun : Run request start sending) :
      Run request start (sending.advance request)
  | others {sending : Sending} {next : Client} (hRun : Run request start sending)
      (hMeanwhile : Meanwhile sending.client next) :
      Run request start { sending with client := next }

/-- The reply of a send whose frame was not queued. -/
def Unqueued (reply : Reply) : Prop :=
  reply = .error .notConnected ∨ reply = .error .connectionClosed ∨
    reply = .error (.transport TransportError.outboundFull.message)

/-- The reply of a send whose frame was queued. -/
def Concluded (request : Request) (reply : Reply) : Prop :=
  reply = .error .connectionClosed ∨ reply = .error (.timeout request.timeout) ∨
    ∃ text id, Answers text id reply

/-- How often the frame was queued where the send stands. -/
def Ledger (request : Request) (placed : Nat) : Stage → Prop
  | .called | .chosen _ | .entered _ _ => placed = 0
  | .waiting _ _ _ => placed = 1
  | .leaving _ reply | .returned (some _) reply =>
    placed = 0 ∧ Unqueued reply ∨ placed = 1 ∧ Concluded request reply
  | .returned none reply => placed = 0 ∧ reply = .error .notConnected

theorem unqueued_of_offer {offer : Offer} (hOffer : offer ≠ .accepted) :
    Unqueued (.error (queueFailure offer)) := by
  cases offer with
  | accepted => exact absurd rfl hOffer
  | full => exact .inr (.inr rfl)
  | closed => exact .inr (.inl rfl)

/-- What is known of a send on its way. -/
structure Accounted (request : Request) (sending : Sending) : Prop where
  sessions : ∀ id, (sending.client.sessionAt id).Honest
  link : ∀ id, sending.stage.link? = some id → id < sending.client.links.length
  ledger : Ledger request sending.placed sending.stage

theorem Accounted.others (hAccounted : Accounted request sending)
    (hMeanwhile : Meanwhile sending.client next) :
    Accounted request { sending with client := next } where
  sessions id := (hAccounted.sessions id).steps (hMeanwhile.sessions id)
  link id hId := Nat.lt_of_lt_of_le (hAccounted.link id hId) hMeanwhile.links
  ledger := hAccounted.ledger

theorem Advanced.opened (hAdvanced : Advanced request sending after)
    (hLink : ∀ id, sending.stage.link? = some id → id < sending.client.links.length) :
    ∀ id, after.stage.link? = some id → id < after.client.links.length := by
  intro id hId
  refine Nat.lt_of_lt_of_le ?_ hAdvanced.meanwhile.links
  cases hAdvanced with
  | unconnected | refused | leaves => cases hId
  | chooses chosen _ hChosen =>
    cases hId
    exact (List.getElem?_eq_some_iff.mp hChosen).1
  | enters | rejected | puts | looks | stays => exact hLink id hId

theorem Advanced.ledger (hAdvanced : Advanced request sending after)
    (hHonest : ∀ id, (sending.client.sessionAt id).Honest)
    (hLedger : Ledger request sending.placed sending.stage) :
    Ledger request after.placed after.stage := by
  cases hAdvanced with
  | unconnected => exact ⟨hLedger, rfl⟩
  | chooses | enters | stays => exact hLedger
  | refused => exact .inl ⟨hLedger, .inr (.inl rfl)⟩
  | rejected _ _ hOffer => exact .inl ⟨hLedger, unqueued_of_offer hOffer⟩
  | puts => exact congrArg (· + 1) hLedger
  | leaves => exact hLedger
  | @looks _ id link ticket reply _ _ hLink hReply =>
    refine .inr ⟨hLedger, ?_⟩
    rcases hReply with hReady | hGone | hLate
    · obtain ⟨front, back, hEq, -⟩ := List.lookup_eq_some_iff.mp hReady
      have hMem : (ticket, reply) ∈ link.session.answers := by simp [hEq]
      rw [← sessionAt_of_getElem? hLink] at hMem
      exact ((hHonest id).answers _ hMem).imp_right .inr
    · exact .inl hGone
    · exact .inr (.inl hLate)

theorem Accounted.own (hAccounted : Accounted request sending) :
    Accounted request (sending.advance request) :=
  have hAdvanced := advanced_advance sending request
  ⟨fun id => (hAccounted.sessions id).steps (hAdvanced.meanwhile.sessions id),
    hAdvanced.opened hAccounted.link, hAdvanced.ledger hAccounted.sessions hAccounted.ledger⟩

theorem Run.accounted (hHonest : ∀ id, (start.sessionAt id).Honest)
    (hRun : Run request start sending) : Accounted request sending := by
  induction hRun with
  | called => exact ⟨hHonest, fun _ hId => (by cases hId), rfl⟩
  | own _ ih => exact ih.own
  | others _ hMeanwhile ih => exact ih.others hMeanwhile

/-- A reply does not deceive about how often the frame was queued. -/
structure Truthful (reply : Reply) (placed : Nat) : Prop where
  unsent : ∀ failure, reply = .error failure → failure.isUnsent = true → placed = 0
  sent : (∃ value, reply = .ok value) ∨ (∃ refusal, reply = .error (.exchange refusal)) ∨
    (∃ after, reply = .error (.timeout after)) → placed = 1

theorem truthful_of_unqueued {reply : Reply} (hReply : Unqueued reply) : Truthful reply 0 where
  unsent _ _ _ := rfl
  sent hSent := by
    rcases hReply with rfl | rfl | rfl <;> simp at hSent

theorem truthful_of_concluded {reply : Reply} (hReply : Concluded request reply) :
    Truthful reply 1 where
  unsent failure hFailure hUnsent := by
    rcases hReply with rfl | rfl | ⟨_, _, hAnswers⟩
    · cases hFailure
      cases hUnsent
    · cases hFailure
      cases hUnsent
    · rcases hAnswers.content with ⟨_, rfl⟩ | ⟨_, rfl⟩
      · cases hFailure
      · cases hFailure
        cases hUnsent
  sent _ := rfl

theorem Accounted.truthful {link : Option LinkId} {reply : Reply}
    (hAccounted : Accounted request sending) (hReturned : sending.stage = .returned link reply) :
    Truthful reply sending.placed ∧ (link = none → reply = .error .notConnected) := by
  have hLedger := hAccounted.ledger
  rw [hReturned] at hLedger
  cases link with
  | none =>
    obtain ⟨hNone, hReply⟩ := hLedger
    exact ⟨hNone ▸ truthful_of_unqueued (.inl hReply), fun _ => hReply⟩
  | some link =>
    refine ⟨?_, fun hLink => by cases hLink⟩
    rcases hLedger with ⟨hNone, hReply⟩ | ⟨hOnce, hReply⟩
    · exact hNone ▸ truthful_of_unqueued hReply
    · exact hOnce ▸ truthful_of_concluded hReply

/-! ### The return -/

/-- A step of a send that nothing comes between but time. -/
def Alone (request : Request) (before after : Sending) : Prop :=
  after = before.advance request ∨
    ∃ time, after = { before with client := before.client.apply (.passed time) }

theorem Advanced.left_lt (hAdvanced : Advanced request sending after)
    (hLeft : sending.stage.left ≠ 0)
    (hOpened : ∀ id, sending.stage.link? = some id → id < sending.client.links.length)
    (hDue : ∀ id ticket due, sending.stage = .waiting id ticket due → due ≤ sending.client.now) :
    after.stage.left < sending.stage.left := by
  cases hAdvanced with
  | stays hWhy =>
    rcases hWhy with hOver | ⟨id, hId, hNone⟩ | ⟨id, ticket, due, hStage, hEarly⟩
    · exact absurd hOver hLeft
    · exact absurd (hOpened id hId) (Nat.not_lt.mpr (List.getElem?_eq_none_iff.mp hNone))
    · exact absurd (hDue id ticket due hStage) (Nat.not_le.mpr hEarly)
  | unconnected | chooses | refused | enters | rejected | puts | looks | leaves =>
    simp [Stage.left, Sending.finish]

/-- By induction on the steps that are left. -/
theorem Accounted.returns (hAccounted : Accounted request sending) :
    ∃ last, Relation.ReflTransGen (Alone request) sending last ∧
      ∃ link reply, last.stage = .returned link reply := by
  induction hLeft : sending.stage.left using Nat.strongRecOn generalizing sending with
  | ind left ih =>
    subst hLeft
    by_cases hOver : sending.stage.left = 0
    · cases hStage : sending.stage with
      | returned link reply => exact ⟨sending, .refl, link, reply, hStage⟩
      | called | chosen | entered | waiting | leaving =>
        rw [hStage] at hOver
        cases hOver
    · obtain ⟨time, hDue⟩ : ∃ time, ∀ id ticket due, sending.stage = .waiting id ticket due →
          due ≤ sending.client.now + time := by
        cases hStage : sending.stage with
        | waiting id ticket due =>
          refine ⟨due, fun _ _ _ hEq => ?_⟩
          cases hEq
          exact Nat.le_add_left due sending.client.now
        | called | chosen | entered | leaving | returned =>
          exact ⟨0, fun _ _ _ hEq => by cases hEq⟩
      -- A send that waits may have to wait until its time is over; no other step needs any time.
      let waited : Sending := { sending with client := sending.client.apply (.passed time) }
      have hWaited : Accounted request waited := hAccounted.others (meanwhile_apply _ _)
      have hFewer := (advanced_advance waited request).left_lt hOver hWaited.link hDue
      obtain ⟨last, hSteps, hReturned⟩ := ih _ hFewer hWaited.own rfl
      exact ⟨last, .head (.inr ⟨time, rfl⟩) (.head (.inl rfl) hSteps), hReturned⟩

/-! ## Steps at a stroke -/

namespace Sending

/-- A send that knows its reply takes its request out of the table. -/
def withdraw (sending : Sending) (request : Request) : Sending :=
  match sending.stage with
  | .leaving _ _ => sending.advance request
  | _ => sending

/-- The steps up to the wait, or to the return if there is nothing to wait for. -/
def depart (sending : Sending) (request : Request) : Sending :=
  (((sending.advance request).advance request).advance request).withdraw request

/-- The client with the send in its books, under a number. -/
def filed (sending : Sending) (request : Request) (number : CallId) : Client :=
  match sending.stage with
  | .waiting id ticket due =>
    { sending.client with
      calls := sending.client.calls ++
        [(number, ⟨request.method, id, request.requestId, ticket, request.timeout, due⟩)] }
  | .returned _ reply =>
    { sending.client with
      calls := sending.client.calls.filter (·.1 != number)
      finished := sending.client.finished ++ [(number, reply)] }
  | _ => sending.client

end Sending

theorem getElem?_setSession (hLink : client.links[id]? = some link) :
    (client.setSession id session metrics).links[id]? =
      some { link with session := session } := by
  simp [setSession, record, hLink]

theorem setSession_setSession (client : Client) (id : LinkId) (first second : Session)
    (early later : List Metric) :
    (client.setSession id first early).setSession id second later =
      client.setSession id second (early ++ later) := by
  simp only [setSession, record, List.append_assoc, List.modify_modify_eq]
  rfl

/-! ### The departure -/

section

variable {placed : Nat} {ticket : Ticket} {reply : Reply} {offer : Offer} {outbound : Queue String}

theorem advance_called (hCurrent : client.current = some id) (hLink : client.links[id]? = some link)
    (request : Request) :
    (⟨client, .called, placed⟩ : Sending).advance request = ⟨client, .chosen id, placed⟩ := by
  simp only [Sending.advance, hCurrent, hLink]

theorem advance_chosen_closed (hLink : client.links[id]? = some link)
    (hClosed : link.session.closed = true) (request : Request) :
    (⟨client, .chosen id, placed⟩ : Sending).advance request =
      (⟨client, .chosen id, placed⟩ : Sending).finish request (some id)
        (.error .connectionClosed) := by
  simp only [Sending.advance, hLink, Session.register_of_closed hClosed]

theorem advance_chosen_open (hLink : client.links[id]? = some link)
    (hOpen : link.session.closed = false) (request : Request) :
    (⟨client, .chosen id, placed⟩ : Sending).advance request =
      ⟨client.setSession id (link.session.register request.requestId).2.1
        (link.session.register request.requestId).2.2, .entered id link.session.nextTicket,
        placed⟩ := by
  simp only [Sending.advance, hLink, Session.register_of_open hOpen]

theorem advance_entered_accepted (hLink : client.links[id]? = some link)
    (hOffer : link.outbound.offer request.text = (.accepted, outbound)) :
    (⟨client, .entered id ticket, placed⟩ : Sending).advance request =
      ⟨{ client with
          links := client.links.modify id fun link => { link with outbound := outbound } },
        .waiting id ticket (client.now + request.timeout), placed + 1⟩ := by
  simp only [Sending.advance, hLink, hOffer]

theorem advance_entered_rejected (hLink : client.links[id]? = some link)
    (hOffer : link.outbound.offer request.text = (offer, outbound))
    (hRejected : offer ≠ .accepted) :
    (⟨client, .entered id ticket, placed⟩ : Sending).advance request =
      ⟨client, .leaving id (.error (queueFailure offer)), placed⟩ := by
  cases offer with
  | accepted => exact absurd rfl hRejected
  | full | closed => simp only [Sending.advance, hLink, hOffer]

theorem advance_waiting (hLink : client.links[id]? = some link) (ticket : Ticket) (due : Duration)
    (request : Request) :
    (⟨client, .waiting id ticket due, placed⟩ : Sending).advance request =
      match (link.session.take ticket).1 with
      | .answered reply =>
        ⟨client.setSession id (link.session.take ticket).2 [], .leaving id reply, placed⟩
      | .gone =>
        ⟨client.setSession id (link.session.take ticket).2 [],
          .leaving id (.error .connectionClosed), placed⟩
      | .waiting =>
        if due ≤ client.now then
          ⟨client.setSession id (link.session.take ticket).2 [],
            .leaving id (.error (.timeout request.timeout)), placed⟩
        else ⟨client, .waiting id ticket due, placed⟩ := by
  simp only [Sending.advance, hLink]

theorem advance_leaving (hLink : client.links[id]? = some link) (request : Request) :
    (⟨client, .leaving id reply, placed⟩ : Sending).advance request =
      (⟨client.setSession id (link.session.abandon request.requestId).1
        (link.session.abandon request.requestId).2, .leaving id reply, placed⟩ : Sending).finish
          request (some id) reply := by
  simp only [Sending.advance, hLink]

end

theorem sendOver_eq_depart (client : Client) (hCurrent : client.current = some id)
    (hLink : client.links[id]? = some link) (number : CallId) (method : RpcMethod)
    (params : Trade.Params) (timeout : Duration) (stamp : Stamp) :
    client.sendOver number id link method params timeout stamp =
      ((⟨client, .called, 0⟩ : Sending).depart
        (client.request method params timeout stamp)).filed
          (client.request method params timeout stamp) number := by
  rw [Sending.depart, advance_called hCurrent hLink]
  unfold sendOver
  cases hClosed : link.session.closed with
  | true =>
    rw [advance_chosen_closed hLink hClosed, Session.register_of_closed hClosed]
    rfl
  | false =>
    have hRegister : link.session.register stamp.requestId =
        (.ok link.session.nextTicket, (link.session.register stamp.requestId).2) := by
      rw [Session.register_of_open hClosed]
    have hEntered (metrics : List Metric) :
        (client.setSession id (link.session.register stamp.requestId).2.1 metrics).links[id]? =
          some { link with session := (link.session.register stamp.requestId).2.1 } :=
      getElem?_setSession hLink
    have hText (session : Session) (metrics : List Metric) :
        (client.setSession id session metrics).requestText method params stamp =
          client.requestText method params stamp := rfl
    have hChosen : (⟨client, .chosen id, 0⟩ : Sending).advance
        (client.request method params timeout stamp) =
        ⟨client.setSession id (link.session.register stamp.requestId).2.1
          (link.session.register stamp.requestId).2.2, .entered id link.session.nextTicket, 0⟩ :=
      advance_chosen_open hLink hClosed _
    rw [hChosen, hRegister]
    dsimp only
    rw [hText]
    cases hOffer : link.outbound.offer (client.requestText method params stamp) with
    | mk offer outbound =>
      by_cases hAccepted : offer = .accepted
      · subst hAccepted
        rw [advance_entered_accepted (hEntered _) (by exact hOffer)]
        rfl
      · rw [advance_entered_rejected (hEntered _) (by exact hOffer) hAccepted, Sending.withdraw]
        dsimp only
        rw [advance_leaving (hEntered _)]
        cases offer with
        | accepted => exact absurd rfl hAccepted
        | full | closed => rfl

/-- A client sends by the first steps of a send. -/
theorem send_eq_depart (client : Client) (method : RpcMethod) (params : Trade.Params)
    (timeout : Duration) (stamp : Stamp) :
    (client.send method params timeout stamp).2 =
      ((⟨{ client with nextCall := client.nextCall + 1 }, .called, 0⟩ : Sending).depart
        (client.request method params timeout stamp)).filed
          (client.request method params timeout stamp) client.nextCall := by
  have hUnconnected (counted : Client) (number : CallId) (hNone : (⟨counted, .called, 0⟩ :
      Sending).advance (client.request method params timeout stamp) =
        (⟨counted, .called, 0⟩ : Sending).finish (client.request method params timeout stamp) none
          (.error .notConnected)) :
      counted.finish number method (.error .notConnected) =
        ((⟨counted, .called, 0⟩ : Sending).depart
          (client.request method params timeout stamp)).filed
            (client.request method params timeout stamp) number := by
    rw [Sending.depart, hNone]
    rfl
  unfold send
  dsimp only
  split
  · next hCurrent =>
    exact hUnconnected _ _ (by simp only [Sending.advance, hCurrent])
  · next id hCurrent =>
    split
    · next hNone => exact hUnconnected _ _ (by simp only [Sending.advance, hCurrent, hNone])
    · next link hLink =>
      exact sendOver_eq_depart { client with nextCall := client.nextCall + 1 } hCurrent hLink
        client.nextCall method params timeout stamp

/-- A caller looks for its answer by the last two steps of a send. -/
theorem settle_eq_advance {number : CallId} {call : Call}
    (hCall : client.calls.lookup number = some call) (text : String) :
    client.settle number =
      let looked := ((⟨client, .waiting call.link call.ticket call.due, 1⟩ : Sending).advance
        (.ofCall call text)).advance (.ofCall call text)
      match looked.stage with
      | .returned _ _ => looked.filed (.ofCall call text) number
      | _ => client := by
  unfold settle
  rw [hCall]
  dsimp only
  cases hLink : client.links[call.link]? with
  | none => simp only [Sending.advance, hLink]
  | some link =>
    have hTaken : (client.setSession call.link (link.session.take call.ticket).2 []).links[
        call.link]? = some { link with session := (link.session.take call.ticket).2 } :=
      getElem?_setSession hLink
    have hLeave (reply : Reply) :
        (⟨client.setSession call.link (link.session.take call.ticket).2 [],
            .leaving call.link reply, 1⟩ : Sending).advance (.ofCall call text) =
        (⟨client.setSession call.link
            ((link.session.take call.ticket).2.abandon call.requestId).1
            ((link.session.take call.ticket).2.abandon call.requestId).2,
          .leaving call.link reply, 1⟩ : Sending).finish (.ofCall call text) (some call.link)
            reply := by
      rw [advance_leaving hTaken, setSession_setSession]
      rfl
    rw [advance_waiting hLink]
    cases hDelivery : (link.session.take call.ticket).1 with
    | answered reply =>
      dsimp only
      rw [hDelivery, hLeave]
      rfl
    | gone =>
      dsimp only
      rw [hDelivery, hLeave]
      rfl
    | waiting =>
      dsimp only
      rw [hDelivery]
      dsimp only
      split
      · rw [hLeave]
        rfl
      · next hEarly =>
        rw [advance_waiting hLink, hDelivery]
        dsimp only
        rw [if_neg hEarly]

theorem Run.depart (request : Request) (start : Client) :
    Run request start ((⟨start, .called, 0⟩ : Sending).depart request) := by
  have hTried : Run request start
      ((((⟨start, .called, 0⟩ : Sending).advance request).advance request).advance request) :=
    .own (.own (.own .called))
  unfold Sending.depart Sending.withdraw
  split
  · exact .own hTried
  · exact hTried

/-- A send is true to its word. A client sends by the first steps of a send, and this holds of every
run of these steps, from any state of the client and whatever comes between them. An error that says
that the request is unsent comes with its frame in no queue; a result, a refusal and a timeout come
with the frame put in a queue once. No step touches an entry under another id or, but for that
frame, a queue, and the step that returns leaves nothing under the id in the table of the session,
which there is unless the reply is that there is no connection. Left alone, the send returns. -/
theorem send_truthful (config : RpcConfig) (signer : Trade.Signer) (before : List Happening)
    (method : RpcMethod) (params : Trade.Params) (timeout : Duration) (stamp : Stamp) :
    let client := (new config signer).play before
    let request := client.request method params timeout stamp
    let begun : Client := { client with nextCall := client.nextCall + 1 }
    (client.send method params timeout stamp).2 =
      ((⟨begun, .called, 0⟩ : Sending).depart request).filed request client.nextCall ∧
    ∀ sending, Run request begun sending →
      (∀ link reply, sending.stage = .returned link reply → Truthful reply sending.placed ∧
        (link = none → reply = .error .notConnected)) ∧
      Discreet request sending (sending.advance request) ∧
      ∃ last, Relation.ReflTransGen (Alone request) sending last ∧
        ∃ link reply, last.stage = .returned link reply := by
  intro client request begun
  refine ⟨send_eq_depart client method params timeout stamp, fun sending hRun => ?_⟩
  have hHonest (id : LinkId) : (begun.sessionAt id).Honest := honest_play config signer before id
  have hAccounted := hRun.accounted hHonest
  have hAdvanced := advanced_advance sending request
  exact ⟨fun _ _ hReturned => hAccounted.truthful hReturned,
    ⟨hAdvanced.queues, hAdvanced.others, fun _ _ => hAdvanced.gone hAccounted.sessions⟩,
    hAccounted.returns⟩

/-! ## A queue with room for one more -/

/-- What a client has been through that has a connection with two places in its queue, one of them
taken by the frame of another request. -/
def crowdedEvents : List Happening :=
  [.handshake (.ok ()), .sent .orderStatus {} (.ofSecs 5) ⟨"other", 0⟩]

def crowded : Client :=
  (new ⟨⟨"wss://trading", .standard, .ofSecs 10, .ofSecs 10, 2, 8⟩, .ofSecs 5,
    .immediate (.ofSecs 1)⟩ ⟨"key", fun _ => "signature"⟩).play crowdedEvents

def crowdedRequest : Request :=
  crowded.request .accountPosition {} (.ofSecs 5) ⟨"first", 0⟩

/-- A send takes the last place and waits. -/
def crowdedSending : Sending :=
  (⟨{ crowded with nextCall := crowded.nextCall + 1 }, .called, 0⟩ : Sending).depart crowdedRequest

/-- The writer takes a frame, and nothing comes back in time. -/
def crowdedSilent : Client :=
  (crowdedSending.client.apply (.written 0)).apply (.passed (.ofSecs 5))

def crowdedOver : Sending :=
  (({ crowdedSending with client := crowdedSilent } : Sending).advance crowdedRequest).advance
    crowdedRequest

theorem send_truthful_of_crowded :
    crowdedOver.stage = .returned (some 0) (.error (.timeout (.ofSecs 5))) ∧
      crowdedOver.placed = 1 := by
  have hRun : Run crowdedRequest { crowded with nextCall := crowded.nextCall + 1 } crowdedOver :=
    .own (.own (.others (.depart _ _) ((meanwhile_apply _ _).trans (meanwhile_apply _ _))))
  have hTruthful := ((send_truthful crowded.config crowded.signer crowdedEvents .accountPosition {}
    (.ofSecs 5) ⟨"first", 0⟩).2 _ hRun).1
  have hLate : crowdedOver.stage = .returned (some 0) (.error (.timeout (.ofSecs 5))) := rfl
  exact ⟨hLate, (hTruthful _ _ hLate).1.sent (.inr (.inr ⟨_, rfl⟩))⟩

end Client

end MarketGateway.Rpc
