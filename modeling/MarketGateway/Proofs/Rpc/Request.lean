import MarketGateway.Proofs.Rpc.Client
import Mathlib.Data.List.Induction

/-!
# One request from its send to its reply

`send_spec` says what a send does: the request fails at once and every outbound queue is as it was,
or its frame is put in one of them and the caller waits. From there `Follows` goes along with the
call. Whatever happens while the caller waits (`Follows.apply`), its reply is explained by one of
three: its time was over, the connection ended, or a frame that carries its id came in over its
link while the request stood in the table (`Answered`).

`await` is the rest of a call as its caller sees it: things happen, and at the latest when its time
is over it looks for the answer and has one (`await_failed`, `await_followed`).
-/

namespace MarketGateway.Rpc.Client

/-- What waits to be written, link by link. -/
def queues (client : Client) : List (Queue String) := client.links.map (·.outbound)

/-- One frame was put in one queue. -/
def Queued (before after : Client) (text : String) : Prop :=
  ∃ id link outbound, before.links[id]? = some link ∧
    link.outbound.offer text = (.accepted, outbound) ∧ after.queues = before.queues.set id outbound

/-- A frame that answers a call came in over its link while the request stood in the table. -/
def Answered (start : Client) (past : List Happening) (call : Call) (reply : Reply) : Prop :=
  ∃ before text since, past = before ++ .frame call.link text :: since ∧
    (call.requestId, call.ticket) ∈ ((start.play before).sessionAt call.link).pending ∧
    Answers text call.requestId reply

/-- How the wait of a caller may end. -/
def Explained (start : Client) (past : List Happening) (call : Call) (reply : Reply) : Prop :=
  reply = .error .connectionClosed ∨ reply = .error (.timeout call.timeout) ∨
    Answered start past call reply

/-- A call that was made with `start` while all this happened. -/
structure Follows (start : Client) (past : List Happening) (number : CallId) (call : Call)
    (client : Client) : Prop where
  issued : number < client.nextCall
  link : call.link < client.links.length
  session : (client.sessionAt call.link).Tracks call.requestId call.ticket (Answered start past call)
  standing :
    (client.calls.lookup number = some call ∧ client.finished.lookup number = none) ∨
      (client.calls.lookup number = none ∧
        ∃ reply, client.finished.lookup number = some reply ∧ Explained start past call reply)

/-- A call whose caller has its reply. -/
structure Over (number : CallId) (reply : Reply) (client : Client) : Prop where
  issued : number < client.nextCall
  calls : client.calls.lookup number = none
  finished : client.finished.lookup number = some reply

variable {start client next : Client} {past : List Happening} {happening : Happening}
  {number : CallId} {call : Call} {reply : Reply} {link : Link} {text : String}

/-! ## The send -/

theorem queues_modify (links : List Link) (id : LinkId) (f : Link → Link)
    (hOutbound : ∀ link, (f link).outbound = link.outbound) :
    (links.modify id f).map (·.outbound) = links.map (·.outbound) := by
  refine List.ext_getElem? fun other => ?_
  rw [List.getElem?_map, List.getElem?_map, List.getElem?_modify]
  cases links[other]? with
  | none => rfl
  | some link =>
      simp only [Option.map_eq_map, Option.map_some]
      split
      · rw [hOutbound]
      · rfl

theorem queues_setSession (client : Client) (id : LinkId) (session : Session)
    (metrics : List Metric) : (client.setSession id session metrics).queues = client.queues :=
  queues_modify client.links id _ fun _ => rfl

theorem queues_outbound (links : List Link) (id : LinkId) (outbound : Queue String) :
    (links.modify id fun link => { link with outbound := outbound }).map (·.outbound) =
      (links.map (·.outbound)).set id outbound := by
  refine List.ext_getElem? fun other => ?_
  rw [List.getElem?_map, List.getElem?_modify, List.getElem?_set, List.getElem?_map]
  by_cases hSame : id = other
  · subst hSame
    cases hLink : links[id]? with
    | none => simpa using hLink
    | some link =>
        have hLt : id < links.length := (List.getElem?_eq_some_iff.mp hLink).1
        simp [hLt]
  · simp only [hSame, if_false]
    cases links[other]? <;> rfl

theorem lookup_finish (hAbsent : client.finished.lookup number = none) (method : RpcMethod)
    (reply : Reply) : (client.finish number method reply).calls.lookup number = none ∧
      (client.finish number method reply).finished.lookup number = some reply := by
  refine ⟨lookup_filter_self _ _, ?_⟩
  simp [finish, record, List.lookup_append, hAbsent]

/-- What a send does: it fails at once and queues nothing, or it queues one frame and waits. -/
inductive Begun (client : Client) (number : CallId) (requestId text : String) (timeout : Duration)
    (next : Client) : Prop
  | failed {failure : RpcError} (hFailure : failure = .notConnected ∨ failure = .connectionClosed ∨
        failure = .transport TransportError.outboundFull.message)
      (hOver : next.Over number (.error failure)) (hQueues : next.queues = client.queues)
  | waits (call : Call) (hId : call.requestId = requestId) (hTimeout : call.timeout = timeout)
      (hQueued : Queued client next text) (hFollows : Follows next [] number call next)

theorem SentOver.begun {id : LinkId} {method : RpcMethod} {timeout : Duration} {requestId : String}
    (hSession : link.session.Fresh) (hLink : client.links[id]? = some link)
    (hIssued : number < client.nextCall) (hCalls : client.calls.lookup number = none)
    (hFinished : client.finished.lookup number = none)
    (hSent : SentOver client number id link method timeout requestId text next) :
    Begun client number requestId text timeout next := by
  cases hSent with
  | refused hClosed =>
      obtain ⟨hGone, hReply⟩ := lookup_finish hFinished method (.error .connectionClosed)
      exact .failed (.inr (.inl rfl)) ⟨hIssued, hGone, hReply⟩ rfl
  | @unqueued offer entered left hOpen hOffer hRejected =>
      have hKept : (((client.setSession id (link.session.register requestId).2.1 entered).setSession id
          ((link.session.register requestId).2.1.abandon requestId).1 left)).finished.lookup number =
            none := hFinished
      obtain ⟨hGone, hReply⟩ := lookup_finish hKept method (.error (queueFailure offer))
      refine .failed ?_ ⟨hIssued, hGone, hReply⟩ ?_
      · cases offer with
        | accepted => exact absurd rfl hRejected
        | full => exact .inr (.inr rfl)
        | closed => exact .inr (.inl rfl)
      · exact (queues_setSession _ _ _ left).trans (queues_setSession _ _ _ entered)
  | @queued outbound metrics hOpen hOffer =>
      refine .waits ⟨method, id, requestId, link.session.nextTicket, timeout, client.now + timeout⟩
        rfl rfl ⟨id, link, outbound, hLink, hOffer, ?_⟩ ⟨hIssued, ?_, ?_, .inl ⟨?_, ?_⟩⟩
      · refine (queues_outbound _ _ _).trans ?_
        exact congrArg (·.set id outbound) (queues_setSession client id _ metrics)
      · have hLt := (List.getElem?_eq_some_iff.mp hLink).1
        simpa [setSession, record] using hLt
      · refine Session.Tracks.quiets ?_ (quiet_of_eq
          (sessionAt_modify (fun link => { link with outbound := outbound }) (fun _ => rfl) rfl id))
        rw [sessionAt_setSession hLink, if_pos rfl]
        exact Session.tracks_register hSession hOpen requestId _
      · simp [List.lookup_append, hCalls]
      · exact hFinished

theorem send_spec (hSound : client.Sound) (method : RpcMethod) (params : Trade.Params)
    (timeout : Duration) (stamp : Stamp) :
    (client.send method params timeout stamp).1 = client.nextCall ∧
      Begun client client.nextCall stamp.requestId (client.requestText method params stamp) timeout
        (client.send method params timeout stamp).2 := by
  refine ⟨rfl, ?_⟩
  have hCalls := hSound.calls client.nextCall (Nat.le_refl _)
  have hFinished := hSound.finished client.nextCall (Nat.le_refl _)
  have hNone : Begun client client.nextCall stamp.requestId (client.requestText method params stamp)
      timeout (({ client with nextCall := client.nextCall + 1 } : Client).finish client.nextCall method
        (.error .notConnected)) :=
    have hKept : ({ client with nextCall := client.nextCall + 1 } : Client).finished.lookup
        client.nextCall = none := hFinished
    have hOver := lookup_finish hKept method (.error .notConnected)
    .failed (.inl rfl) ⟨Nat.lt_succ_self _, hOver.1, hOver.2⟩ rfl
  unfold send
  dsimp only
  split
  · exact hNone
  · next id hId =>
      split
      · exact hNone
      · next link hLink =>
          have hSession : link.session.Fresh := sessionAt_of_getElem? hLink ▸ hSound.sessions id
          have hAt : ({ client with nextCall := client.nextCall + 1 } : Client).links[id]? =
              some link := hLink
          have hSent := sendOver_spec { client with nextCall := client.nextCall + 1 } client.nextCall id
            link method params timeout stamp
          -- The number of the next call is in no frame and no queue.
          cases hSent.begun hSession hAt (Nat.lt_succ_self _) hCalls hFinished with
          | failed hFailure hOver hQueues => exact .failed hFailure hOver hQueues
          | waits call hId hTimeout hQueued hFollows =>
              exact .waits call hId hTimeout hQueued hFollows

/-! ## The wait -/

theorem Answered.snoc (hAnswered : Answered start past call reply) (happening : Happening) :
    Answered start (past ++ [happening]) call reply := by
  obtain ⟨before, text, since, rfl, hPending, hAnswers⟩ := hAnswered
  exact ⟨before, text, since ++ [happening], by simp, hPending, hAnswers⟩

theorem Explained.snoc (hExplained : Explained start past call reply) (happening : Happening) :
    Explained start (past ++ [happening]) call reply :=
  hExplained.imp_right (Or.imp_right fun hAnswered => hAnswered.snoc happening)

theorem Over.apply (hOver : client.Over number reply) (happening : Happening) :
    (client.apply happening).Over number reply := by
  by_cases hFrame : ∃ id text, happening = .frame id text
  · obtain ⟨id, text, rfl⟩ := hFrame
    have hReceived := received_onFrame client id text
    exact ⟨hReceived.nextCall ▸ hOver.issued, hReceived.calls ▸ hOver.calls,
      hReceived.finished ▸ hOver.finished⟩
  · have hMoves : Moves (happening.Touches client) client (client.apply happening) :=
      moves_apply fun id text hEq => hFrame ⟨id, text, hEq⟩
    have hApart : ¬ happening.Touches client number := by
      unfold Happening.Touches
      split
      · rintro ⟨rfl, hCall⟩
        rw [hOver.calls] at hCall
        cases hCall
      · rintro ⟨rfl, _⟩
        exact Nat.lt_irrefl _ hOver.issued
    exact ⟨Nat.lt_of_lt_of_le hOver.issued hMoves.nextCall, (hMoves.calls _ hApart).trans hOver.calls,
      (hMoves.finished _ hApart).trans hOver.finished⟩

theorem Over.play (hOver : client.Over number reply) (happenings : List Happening) :
    (client.play happenings).Over number reply := by
  induction happenings generalizing client with
  | nil => exact hOver
  | cons happening rest ih => exact ih (hOver.apply happening)

/-- A caller that waits and looks stays as it is, or leaves with a reply. -/
theorem Settled.stays_or_leaves (hSettled : Settled client number next)
    (hWaits : client.calls.lookup number = some call)
    (hNoReply : client.finished.lookup number = none) :
    (next = client ∧ (client.links[call.link]? = none ∨ client.now < call.due)) ∨
      ∃ link reply, client.links[call.link]? = some link ∧
        (link.session.answers.lookup call.ticket = some reply ∨
          reply = .error .connectionClosed ∨ reply = .error (.timeout call.timeout)) ∧
        next.calls.lookup number = none ∧ next.finished.lookup number = some reply := by
  cases hSettled with
  | stays hWhy => exact .inl ⟨rfl, hWhy call hWaits⟩
  | leaves hCalled hLink hReply =>
      obtain rfl := Option.some.inj (hWaits.symm.trans hCalled)
      obtain ⟨hGone, hFound⟩ := lookup_finish (by exact hNoReply) call.method _
      exact .inr ⟨_, _, hLink, hReply, hGone, hFound⟩

/-- A caller that leaves has a reply that is explained. -/
theorem Follows.explained (hFollows : Follows start past number call client)
    (hLink : client.links[call.link]? = some link)
    (hReply : link.session.answers.lookup call.ticket = some reply ∨
      reply = .error .connectionClosed ∨ reply = .error (.timeout call.timeout)) :
    Explained start past call reply := by
  rcases hReply with hReady | hGone | hLate
  · obtain ⟨front, back, hEq, _⟩ := List.lookup_eq_some_iff.mp hReady
    have hMem : (call.ticket, reply) ∈ (client.sessionAt call.link).answers := by
      rw [sessionAt_of_getElem? hLink, hEq]
      simp
    rcases hFollows.session.answers reply hMem with hClosed | hAnswered
    · exact .inl hClosed
    · exact .inr (.inr hAnswered)
  · exact .inl hGone
  · exact .inr (.inl hLate)

theorem Follows.apply (hFollows : Follows start past number call (start.play past))
    (happening : Happening) :
    Follows start (past ++ [happening]) number call (start.play (past ++ [happening])) := by
  rw [play_snoc]
  have hTracks := hFollows.session.mono fun reply hAnswered => Answered.snoc hAnswered happening
  have hStanding := hFollows.standing.imp_right fun hDone =>
    And.intro hDone.1 (hDone.2.imp fun _ hReply =>
      And.intro hReply.1 (Explained.snoc hReply.2 happening))
  by_cases hFrame : ∃ id text, happening = .frame id text
  · obtain ⟨id, text, rfl⟩ := hFrame
    have hReceived := received_onFrame (start.play past) id text
    refine ⟨hReceived.nextCall ▸ hFollows.issued, hReceived.links ▸ hFollows.link, ?_, ?_⟩
    · rcases hReceived.sessions call.link with hSame | ⟨rfl, hDispatch⟩
      · exact hSame ▸ hTracks
      · refine hDispatch ▸ hTracks.dispatch ?_
        intro reply hPending hAnswers
        exact ⟨past, text, [], rfl, hPending, hAnswers⟩
    · rw [Client.apply, hReceived.calls, hReceived.finished]
      exact hStanding
  · have hMoves : Moves (happening.Touches (start.play past)) (start.play past)
        ((start.play past).apply happening) :=
      moves_apply fun id text hEq => hFrame ⟨id, text, hEq⟩
    refine ⟨Nat.lt_of_lt_of_le hFollows.issued hMoves.nextCall,
      Nat.lt_of_lt_of_le hFollows.link hMoves.links, hTracks.quiets (hMoves.sessions _), ?_⟩
    by_cases hTouches : happening.Touches (start.play past) number
    · -- Only its own caller touches a call that was made before.
      unfold Happening.Touches at hTouches
      split at hTouches
      · next id =>
          obtain ⟨rfl, hCall⟩ := hTouches
          obtain ⟨hWaits, hNoReply⟩ : (start.play past).calls.lookup number = some call ∧
              (start.play past).finished.lookup number = none := by
            rcases hFollows.standing with hWaits | ⟨hNone, _⟩
            · exact hWaits
            · rw [hNone] at hCall
              cases hCall
          rcases (settle_spec (start.play past) number).stays_or_leaves hWaits hNoReply with
            ⟨hSame, _⟩ | ⟨link, reply, hLink, hReply, hGone, hFound⟩
          · rw [Client.apply, hSame]
            exact hStanding
          · exact .inr ⟨hGone, reply, hFound, (hFollows.explained hLink hReply).snoc _⟩
      · obtain ⟨rfl, _⟩ := hTouches
        exact absurd hFollows.issued (Nat.lt_irrefl _)
    · rw [hMoves.calls number hTouches, hMoves.finished number hTouches]
      exact hStanding

theorem Follows.play (hFollows : Follows start [] number call start) (past : List Happening) :
    Follows start past number call (start.play past) := by
  induction past using List.reverseRecOn with
  | nil => exact hFollows
  | append_singleton past happening ih => exact ih.apply happening

/-! ## The reply -/

/-- Time passes until the time of a call is over, and its caller looks for the answer. -/
def conclude (client : Client) (number : CallId) : Client :=
  match client.calls.lookup number with
  | some call => client.play [.passed (call.due - client.now), .looked number]
  | none => client

/-- The reply of a call during which all this happens. -/
def await (client : Client) (number : CallId) (during : List Happening) : Reply × Client :=
  let client := (client.play during).conclude number
  ((client.finished.lookup number).getD (.error .connectionClosed), client)

theorem await_failed (hOver : client.Over number reply) (during : List Happening) :
    (client.await number during).2.finished.lookup number = some reply ∧
      (client.await number during).1 = reply := by
  have hLater := hOver.play during
  simp only [await, conclude, hLater.calls, hLater.finished, Option.getD_some, and_self]

/-- A caller that waits has a reply in the end, and it is explained by what happened. -/
theorem await_followed (hFollows : Follows client [] number call client) (during : List Happening) :
    ∃ reply, (client.await number during).2.finished.lookup number = some reply ∧
      (client.await number during).1 = reply ∧ Explained client during call reply := by
  have hLater := hFollows.play during
  rcases hLater.standing with ⟨hWaits, hNoReply⟩ | ⟨hGone, reply, hReply, hExplained⟩
  · have hConclude : (client.play during).conclude number =
        ((client.play during).apply (.passed (call.due - (client.play during).now))).settle number := by
      rw [conclude, hWaits]
      rfl
    have hSettled := settle_spec
      ((client.play during).apply (.passed (call.due - (client.play during).now))) number
    rcases hSettled.stays_or_leaves hWaits hNoReply with
      ⟨_, hNoLink | hEarly⟩ | ⟨link, reply, hLink, hReply, _, hFound⟩
    · exact absurd hLater.link (Nat.not_lt.mpr (List.getElem?_eq_none_iff.mp hNoLink))
    · have hDue : call.due ≤ (client.play during).now + (call.due - (client.play during).now) :=
        Nat.sub_le_iff_le_add'.mp (Nat.le_refl _)
      exact absurd hEarly (Nat.not_lt.mpr hDue)
    · refine ⟨reply, ?_, ?_, hLater.explained hLink hReply⟩
      · rw [await, hConclude, hFound]
      · rw [await, hConclude, hFound, Option.getD_some]
  · refine ⟨reply, ?_, ?_, hExplained⟩
    · simp only [await, conclude, hGone, hReply]
    · simp only [await, conclude, hGone, hReply, Option.getD_some]

end MarketGateway.Rpc.Client
