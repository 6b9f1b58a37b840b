import MarketGateway.Proofs.Rpc.Background

/-!
# One reconnection that spares open sessions

However callers and tasks come between each other, the flag lets one task run at a time
(`Background.Sole`). A task looks for a connection before it opens one, and as nobody else opens
connections, the one that it finds in its place is over by then and stays so: this is what holds
while it waits for the handshake, and of the connection that it is about to close
(`Stage.Safe`). So its steps leave open sessions open, in their place, and with the requests that
wait on them (`Client.Unharmed`, `reconnection_spares_open_sessions`).
-/

namespace MarketGateway.Rpc

/-! ## Sessions that nothing is done to -/

namespace Session

/-- An open session stays open, with its answers, and with the requests that wait on it but for
those under excepted ids. -/
structure Keeps (except : String → Prop) (session next : Session) : Prop where
  closed : next.closed = session.closed
  answers : next.answers = session.answers
  pending : ∀ entry ∈ session.pending, ¬ except entry.1 → entry ∈ next.pending

variable {except : String → Prop} {session next last : Session}

theorem Keeps.refl (except : String → Prop) (session : Session) : session.Keeps except session :=
  ⟨rfl, rfl, fun _ hEntry _ => hEntry⟩

theorem Keeps.trans (hFirst : session.Keeps except next) (hSecond : next.Keeps except last) :
    session.Keeps except last :=
  ⟨hSecond.closed.trans hFirst.closed, hSecond.answers.trans hFirst.answers,
    fun entry hEntry hOther => hSecond.pending entry (hFirst.pending entry hEntry hOther) hOther⟩

theorem keeps_register (session : Session) (id : String) :
    session.Keeps (· = id) (session.register id).2.1 := by
  cases hClosed : session.closed with
  | true =>
    rw [register_of_closed hClosed]
    exact .refl _ _
  | false =>
    rw [register_of_open hClosed]
    refine ⟨rfl, rfl, ?_⟩
    intro entry hEntry hOther
    exact List.mem_append_left _ (mem_without.mpr ⟨hEntry, hOther⟩)

theorem keeps_abandon (session : Session) (id : String) :
    session.Keeps (· = id) (session.abandon id).1 := by
  rw [abandon_eq]
  exact ⟨rfl, rfl, fun entry hEntry hOther => mem_without.mpr ⟨hEntry, hOther⟩⟩

theorem Quiet.closed (hQuiet : Quiet session next) (hClosed : session.closed = true) :
    next.closed = true := by
  cases hQuiet with
  | register id => rwa [register_of_closed hClosed]
  | abandon id => rwa [Session.closed_abandon]
  | take ticket => exact hClosed
  | close => rfl

end Session

namespace Client

variable {client next last : Client} {except : String → Prop} {touched : CallId → Prop}
  {place : Option LinkId} {happening : Happening}

/-- Every session that is open stays open and in its place, and the requests that wait on it wait
on, but for those under excepted ids. -/
structure Unharmed (except : String → Prop) (client next : Client) : Prop where
  current {id : LinkId} {link : Link} (hLink : client.links[id]? = some link)
    (hOpen : link.session.closed = false) (hCurrent : client.current = some id) :
    next.current = some id
  session {id : LinkId} {link : Link} (hLink : client.links[id]? = some link)
    (hOpen : link.session.closed = false) :
    ∃ kept, next.links[id]? = some kept ∧ link.session.Keeps except kept.session

theorem unharmed_of_same (hCurrent : next.current = client.current)
    (hLinks : next.links = client.links) : client.Unharmed except next where
  current _ _ hPlace := hCurrent.trans hPlace
  session hLink _ := ⟨_, hLinks ▸ hLink, .refl _ _⟩

theorem Unharmed.trans (hFirst : client.Unharmed except next)
    (hSecond : next.Unharmed except last) : client.Unharmed except last where
  current hLink hOpen hCurrent := by
    obtain ⟨kept, hKept, hKeeps⟩ := hFirst.session hLink hOpen
    exact hSecond.current hKept (hKeeps.closed.trans hOpen) (hFirst.current hLink hOpen hCurrent)
  session hLink hOpen := by
    obtain ⟨kept, hKept, hKeeps⟩ := hFirst.session hLink hOpen
    obtain ⟨after, hAfter, hKeepsAfter⟩ := hSecond.session hKept (hKeeps.closed.trans hOpen)
    exact ⟨after, hAfter, hKeeps.trans hKeepsAfter⟩

theorem unharmed_modify (client : Client) (id : LinkId) (f : Link → Link)
    (hKeeps : ∀ link, client.links[id]? = some link → link.session.Keeps except (f link).session) :
    client.Unharmed except { client with links := client.links.modify id f } := by
  refine ⟨fun _ _ hCurrent => hCurrent, ?_⟩
  intro other link hLink _
  by_cases hSame : id = other
  · subst hSame
    exact ⟨f link, by simp [hLink], hKeeps link hLink⟩
  · exact ⟨link, by simp [hSame, hLink], .refl _ _⟩

theorem unharmed_setSession {id : LinkId} {link : Link} {session : Session} {metrics : List Metric}
    (hLink : client.links[id]? = some link) (hKeeps : link.session.Keeps except session) :
    client.Unharmed except (client.setSession id session metrics) := by
  have hModify : client.Unharmed except { client with
      links := client.links.modify id fun link => { link with session := session } } := by
    refine unharmed_modify client id _ ?_
    intro same hSame
    obtain rfl := Option.some.inj (hLink.symm.trans hSame)
    exact hKeeps
  exact ⟨hModify.current, hModify.session⟩

theorem SentOver.unharmed {id : LinkId} {link : Link} {call : CallId} {method : RpcMethod}
    {timeout : Duration} {requestId text : String} (hLink : client.links[id]? = some link)
    (hSent : SentOver client call id link method timeout requestId text next) :
    client.Unharmed (· = requestId) next := by
  have hRegister := Session.keeps_register link.session requestId
  cases hSent with
  | refused => exact unharmed_of_same rfl rfl
  | @unqueued offer entered left =>
    have hAgain : (client.setSession id (link.session.register requestId).2.1 entered).links[id]? =
        some { link with session := (link.session.register requestId).2.1 } := by
      simp [setSession, record, hLink]
    have hEntered := @unharmed_setSession client _ id link _ entered hLink hRegister
    have hLeft := @unharmed_setSession _ _ id _ _ left hAgain (Session.keeps_abandon _ requestId)
    exact (hEntered.trans hLeft).trans (unharmed_of_same rfl rfl)
  | @queued outbound metrics =>
    have hEntered := @unharmed_setSession client _ id link _ metrics hLink hRegister
    have hQueued : Unharmed (· = requestId)
        (client.setSession id (link.session.register requestId).2.1 metrics) _ :=
      unharmed_modify _ id (fun link => { link with outbound := outbound })
        (fun _ _ => .refl _ _)
    have hBoth := hEntered.trans hQueued
    exact ⟨hBoth.current, hBoth.session⟩

theorem unharmed_send (client : Client) (method : RpcMethod) (params : Trade.Params)
    (timeout : Duration) (stamp : Stamp) :
    client.Unharmed (· = stamp.requestId) (client.send method params timeout stamp).2 := by
  have hCount : client.Unharmed (· = stamp.requestId)
      { client with nextCall := client.nextCall + 1 } := unharmed_of_same rfl rfl
  unfold send
  refine hCount.trans ?_
  dsimp only
  split
  · exact unharmed_of_same rfl rfl
  · split
    · exact unharmed_of_same rfl rfl
    · next hLink => exact (sendOver_spec _ _ _ _ _ _ _ _).unharmed hLink

theorem unharmed_sendOn (client : Client) (picked : Option LinkId) (method : RpcMethod)
    (params : Trade.Params) (timeout : Duration) (stamp : Stamp) :
    client.Unharmed (· = stamp.requestId) (client.sendOn picked method params timeout stamp) := by
  have hSent := unharmed_send { client with current := picked } method params timeout stamp
  exact ⟨fun _ _ hCurrent => hCurrent, hSent.session⟩

/-! ## Sessions that are over -/

/-- The session in this place, if there is one, is over. -/
def Lapsed (client : Client) (place : Option LinkId) : Prop :=
  ∀ id, place = some id → (client.sessionAt id).closed = true

theorem Lapsed.ne (hLapsed : client.Lapsed place) {id : LinkId} {link : Link}
    (hLink : client.links[id]? = some link) (hOpen : link.session.closed = false) :
    place ≠ some id := by
  intro hPlace
  have hClosed := hLapsed id hPlace
  rw [sessionAt_of_getElem? hLink, hOpen] at hClosed
  cases hClosed

theorem lapsed_of_disconnected (hPlaced : client.Placed) (hLost : ¬ client.isConnected = true) :
    client.Lapsed client.current := by
  intro id hCurrent
  have hLink := List.getElem?_eq_getElem (hPlaced id hCurrent)
  rw [sessionAt_of_getElem? hLink]
  refine (Bool.eq_false_or_eq_true _).resolve_right fun hOpen => hLost ?_
  exact isConnected_iff.mpr ⟨id, _, hCurrent, hLink, hOpen⟩

/-- Sessions that are over stay so, and no connection comes into the place of the current one. -/
structure Endures (client next : Client) : Prop where
  closed : ∀ id, (client.sessionAt id).closed = true → (next.sessionAt id).closed = true
  current : next.current = client.current ∨ next.current = none
  length : client.links.length ≤ next.links.length

theorem Moves.closed (hMoves : Moves touched client next) {id : LinkId}
    (hClosed : (client.sessionAt id).closed = true) : (next.sessionAt id).closed = true := by
  have hQuiet := hMoves.sessions id
  generalize next.sessionAt id = after at hQuiet ⊢
  induction hQuiet with
  | refl => exact hClosed
  | tail _ hStep ih => exact hStep.closed ih

theorem Moves.endures (hMoves : Moves touched client next)
    (hCurrent : next.current = client.current ∨ next.current = none) : client.Endures next :=
  ⟨fun _ => hMoves.closed, hCurrent, hMoves.links⟩

theorem Endures.placed (hEndures : client.Endures next) (hPlaced : client.Placed) :
    next.Placed := by
  intro id hCurrent
  rcases hEndures.current with hSame | hNone
  · exact Nat.lt_of_lt_of_le (hPlaced id (hSame.symm.trans hCurrent)) hEndures.length
  · cases hNone.symm.trans hCurrent

theorem endures_apply (hElsewhere : happening.isElsewhere = true) :
    client.Endures (client.apply happening) := by
  cases happening with
  | frame id text =>
    have hReceived := received_onFrame client id text
    refine ⟨?_, .inl (spares_onFrame client id text).current, Nat.le_of_eq hReceived.links.symm⟩
    intro other hClosed
    rcases hReceived.sessions other with hSame | ⟨-, hDispatch⟩
    · exact hSame ▸ hClosed
    · rwa [apply, hDispatch, Session.closed_dispatch]
  | shutDown =>
    have hMoves : Moves (fun _ => True) client client.shutDown := moves_shutDown client
    refine hMoves.endures (.inr ?_)
    unfold shutDown
    dsimp only
    split
    · exact (stands_closeSession _ _).current
    · rfl
  | passed | written | lost | sent | looked =>
    have hMoves := @moves_apply client
    have hStands := @stands_apply client
    exact (hMoves (by simp)).endures
      (.inl (hStands (by simp) (by simp) (by simp) (by simp)).current)
  | connecting | handshake | reconnectAsked | reconnectTurn => cases hElsewhere

theorem moves_sendOn (hTouched : touched client.nextCall) (picked : Option LinkId)
    (method : RpcMethod) (params : Trade.Params) (timeout : Duration) (stamp : Stamp) :
    Moves touched client (client.sendOn picked method params timeout stamp) := by
  have hSent : Moves touched { client with current := picked }
      ({ client with current := picked }.send method params timeout stamp).2 :=
    moves_send (by exact hTouched) method params timeout stamp
  exact ⟨hSent.sessions, hSent.links, hSent.nextCall, hSent.calls, hSent.finished⟩

/-! ## What a task does -/

/-- Open sessions are unharmed, and so are the calls that were made before. -/
structure Undisturbed (except : String → Prop) (client next : Client) : Prop
    extends Unharmed except client next where
  calls : ∀ call < client.nextCall, next.calls.lookup call = client.calls.lookup call
  finished : ∀ call < client.nextCall, next.finished.lookup call = client.finished.lookup call

theorem Unharmed.undisturbed (hUnharmed : client.Unharmed except next)
    (hMoves : Moves (client.nextCall ≤ ·) client next) : client.Undisturbed except next where
  toUnharmed := hUnharmed
  calls call hMade := hMoves.calls call (Nat.not_le.mpr hMade)
  finished call hMade := hMoves.finished call (Nat.not_le.mpr hMade)

theorem unharmed_install (hLapsed : client.Lapsed client.current) :
    client.Unharmed except client.install.2 where
  current hLink hOpen hCurrent := absurd hCurrent (hLapsed.ne hLink hOpen)
  session {id link} hLink _ := by
    refine ⟨link, ?_, .refl _ _⟩
    rw [install, List.getElem?_append_left (List.getElem?_eq_some_iff.mp hLink).1, hLink]

theorem current_retire (client : Client) (previous : Option LinkId) :
    (client.retire previous).current = client.current := by
  cases previous with
  | none => rfl
  | some old => exact (stands_closeSession client old).current

theorem unharmed_retire {previous : Option LinkId} (hLapsed : client.Lapsed previous) :
    client.Unharmed except (client.retire previous) := by
  refine ⟨fun _ _ hCurrent => (current_retire client previous).trans hCurrent, ?_⟩
  intro id link hLink hOpen
  cases previous with
  | none => exact ⟨link, hLink, .refl _ _⟩
  | some old =>
    have hOther : id ≠ old := fun hSame => hLapsed.ne hLink hOpen (congrArg some hSame.symm)
    exact ⟨link, (links_closeSession client hOther).trans hLink, .refl _ _⟩

theorem moves_install (client : Client) : Moves touched client client.install.2 :=
  ⟨fun other => quiet_of_eq (sessionAt_opened rfl rfl other), by simp [install], Nat.le_refl _,
    fun _ _ => rfl, fun _ _ => rfl⟩

theorem moves_retire (client : Client) (previous : Option LinkId) :
    Moves touched client (client.retire previous) := by
  cases previous with
  | none => exact moves_of_sessionAt (sessionAt_congr rfl) rfl rfl rfl rfl
  | some old =>
    exact (moves_closeSession client old).trans
      (moves_of_sessionAt (sessionAt_congr rfl) rfl rfl rfl rfl)

end Client

/-- The connection that a task takes the place of, or closes, is over. -/
def Stage.Safe (client : Client) : Stage → Prop
  | .connecting => client.Lapsed client.current
  | .retiring previous => client.Lapsed previous
  | .checking | .opened | .loggingOn _ | .waiting _ | .ending | .crashed => True

/-- The id of a request that a task makes in this step. -/
def Act.Enters (id : String) : Act → Prop
  | .logOn _ stamp => id = stamp.requestId
  | .go | .handshake _ _ => False

variable {client next : Client} {stage : Stage} {task : Reconnector} {background : Background}

theorem Stage.Safe.endures (hSafe : stage.Safe client) (hEndures : client.Endures next) :
    stage.Safe next := by
  cases stage with
  | connecting =>
    intro id hCurrent
    rcases hEndures.current with hSame | hNone
    · exact hEndures.closed id (hSafe id (hSame.symm.trans hCurrent))
    · cases hNone.symm.trans hCurrent
  | retiring previous => exact fun id hPrevious => hEndures.closed id (hSafe id hPrevious)
  | checking | opened | loggingOn | waiting | ending | crashed => trivial

/-- What a step of a task leads to. -/
structure Reconnector.Goes (client : Client) (act : Act) (task : Option Reconnector)
    (next : Client) : Prop where
  placed : next.Placed
  safe : ∀ going ∈ task, going.stage.Safe next
  undisturbed : client.Undisturbed (Act.Enters · act) next

theorem Reconnector.safe_of_some (hSafe : task.stage.Safe client) :
    ∀ going ∈ some task, going.stage.Safe client := by
  rintro _ ⟨⟩
  exact hSafe

theorem Reconnector.goes_of_moves {act : Act} {after : Option Reconnector}
    (hPlaced : client.Placed) (hCurrent : next.current = client.current)
    (hMoves : Client.Moves (client.nextCall ≤ ·) client next)
    (hUnharmed : client.Unharmed (Act.Enters · act) next)
    (hSafe : ∀ going ∈ after, going.stage.Safe next) : Goes client act after next where
  placed := (hMoves.endures (.inl hCurrent)).placed hPlaced
  safe := hSafe
  undisturbed := hUnharmed.undisturbed hMoves

/-- Time, state and metrics may be anything. -/
theorem Reconnector.goes_of_same {act : Act} {after : Option Reconnector}
    (hPlaced : client.Placed) (hSafe : ∀ going ∈ after, going.stage.Safe next)
    (hCurrent : next.current = client.current) (hLinks : next.links = client.links)
    (hNext : next.nextCall = client.nextCall) (hCalls : next.calls = client.calls)
    (hFinished : next.finished = client.finished) : Goes client act after next := by
  have hMoves : Client.Moves (client.nextCall ≤ ·) client next :=
    Client.moves_of_sessionAt (Client.sessionAt_congr hLinks) (congrArg _ hLinks) hNext hCalls
      hFinished
  exact goes_of_moves hPlaced hCurrent hMoves (Client.unharmed_of_same hCurrent hLinks) hSafe

theorem Reconnector.goes_install (task : Reconnector) (act : Act)
    (hLapsed : client.Lapsed client.current) :
    Goes client act (some { task with stage := .retiring client.install.1 }) client.install.2 := by
  have hMoves : Client.Moves (client.nextCall ≤ ·) client client.install.2 :=
    Client.moves_install client
  refine ⟨?_, safe_of_some ?_, (Client.unharmed_install hLapsed).undisturbed hMoves⟩
  · rintro _ ⟨⟩
    simp [Client.install]
  · exact fun id hPrevious => hMoves.closed (hLapsed id hPrevious)

theorem Reconnector.goes_act (task : Reconnector) (act : Act) (hPlaced : client.Placed)
    (hSafe : task.stage.Safe client) :
    Goes client act (task.act act client).1 (task.act act client).2 := by
  have hStays {after : Reconnector} (hAfter : after.stage.Safe client) :
      Goes client act (some after) client :=
    goes_of_same hPlaced (safe_of_some hAfter) rfl rfl rfl rfl rfl
  unfold Reconnector.act
  split
  · split
    · exact hStays trivial
    · next hLost =>
      -- What the look finds lapsed is still so when the handshake comes, and when it is closed.
      have hLapsed := Client.lapsed_of_disconnected hPlaced hLost
      exact goes_of_same hPlaced (safe_of_some hLapsed) rfl rfl rfl rfl rfl
  · next offset _ =>
    unfold backOff
    cases task.backoff.ask offset <;>
      exact goes_of_same hPlaced (safe_of_some trivial) rfl rfl rfl rfl rfl
  · next hStage =>
    rw [hStage] at hSafe
    exact goes_install task _ hSafe
  · next previous hStage =>
    rw [hStage] at hSafe
    exact goes_of_moves hPlaced (Client.current_retire client previous)
      (Client.moves_retire client previous) (Client.unharmed_retire hSafe) (safe_of_some trivial)
  · next picked stamp _ =>
    exact goes_of_moves hPlaced rfl (Client.moves_sendOn (Nat.le_refl _) picked _ _ _ stamp)
      (Client.unharmed_sendOn client picked _ _ _ stamp) (safe_of_some trivial)
  · split
    · exact hStays hSafe
    · exact hStays trivial
  · split
    · exact hStays trivial
    · split
      · exact hStays trivial
      · exact hStays hSafe
  · exact goes_of_same hPlaced (by simp) rfl rfl rfl rfl rfl
  · exact hStays hSafe

namespace Background

/-! ## One task at a time -/

/-- The flag is up while there is a task, and there is no second one. -/
structure Sole (background : Background) : Prop where
  flag : background.tasks.length = background.reconnecting.toNat
  placed : background.client.Placed
  safe : ∀ task ∈ background.tasks, task.stage.Safe background.client

theorem Sole.endures (hSole : background.Sole) (hEndures : background.client.Endures next) :
    Sole { background with client := next } where
  flag := hSole.flag
  placed := hEndures.placed hSole.placed
  safe task hTask := (hSole.safe task hTask).endures hEndures

theorem Sole.tasks (hSole : background.Sole) {index : Nat}
    (hTask : background.tasks[index]? = some task) :
    index = 0 ∧ background.reconnecting = true ∧ background.tasks = [task] := by
  have hFlag := hSole.flag
  have hIndex := (List.getElem?_eq_some_iff.mp hTask).1
  cases hUp : background.reconnecting with
  | false => simp_all
  | true =>
    obtain ⟨only, hOnly⟩ := List.length_eq_one_iff.mp (by simpa [hUp] using hFlag)
    have hZero : index = 0 := by simpa [hOnly] using hIndex
    simp_all

theorem Sole.step (hSole : background.Sole) (move : Move) : (background.step move).Sole := by
  cases move with
  | ask =>
    simp only [Background.step]
    split
    · exact hSole
    · exact ⟨hSole.flag, hSole.placed, hSole.safe⟩
  | start =>
    simp only [Background.step]
    split
    · exact hSole
    · split
      · exact ⟨hSole.flag, hSole.placed, hSole.safe⟩
      · next hDown =>
        have hNone : background.tasks = [] := by simpa [hDown] using hSole.flag
        exact ⟨by simp [hNone], hSole.placed, by simp [hNone, Stage.Safe]⟩
  | act index act =>
    simp only [Background.step]
    split
    · exact hSole
    · next task hTask =>
      obtain ⟨rfl, hUp, hTasks⟩ := hSole.tasks hTask
      have hGoes := task.goes_act act hSole.placed (hSole.safe task (by simp [hTasks]))
      split
      · next after client hAct =>
        rw [hAct] at hGoes
        refine ⟨by simp [hTasks, hUp], hGoes.placed, ?_⟩
        simpa [hTasks] using hGoes.safe
      · next client hAct =>
        rw [hAct] at hGoes
        exact ⟨by simp [hTasks], hGoes.placed, by simp [hTasks]⟩
  | sendOn picked method params timeout stamp =>
    have hMoves : Client.Moves (fun _ => True) background.client _ :=
      Client.moves_sendOn trivial picked method params timeout stamp
    exact hSole.endures (hMoves.endures (.inl rfl))
  | happens happening hElsewhere => exact hSole.endures (Client.endures_apply hElsewhere)

theorem sole_run (config : RpcConfig) (signer : Trade.Signer) (moves : List Move) :
    (run config signer moves).Sole := by
  induction moves using List.reverseRecOn with
  | nil => exact ⟨rfl, by rintro _ ⟨⟩, by rintro _ ⟨⟩⟩
  | append_singleton moves move ih => exact run_snoc config signer moves move ▸ ih.step move

/-- The moves that are steps of a reconnection or lead to one. -/
def Move.isReconnection : Move → Bool
  | .ask | .start | .act _ _ => true
  | .sendOn .. | .happens .. => false

/-- The id of a request that a reconnection makes with this move. -/
def Move.Enters (id : String) : Move → Prop
  | .act _ given => given.Enters id
  | .ask | .start | .sendOn .. | .happens .. => False

theorem Sole.undisturbed (hSole : background.Sole) {move : Move}
    (hReconnects : move.isReconnection = true) :
    background.client.Undisturbed (Move.Enters · move) (background.step move).client := by
  have hSame {except : String → Prop} : background.client.Undisturbed except background.client :=
    (Client.unharmed_of_same rfl rfl).undisturbed (.refl _)
  cases move with
  | ask =>
    simp only [Background.step]
    split
    · exact hSame
    · exact hSame
  | start =>
    simp only [Background.step]
    split
    · exact hSame
    · split
      · exact hSame
      · exact hSame
  | act index act =>
    simp only [Background.step]
    split
    · exact hSame
    · next task hTask =>
      have hGoes := task.goes_act act hSole.placed (hSole.safe task (List.mem_of_getElem? hTask))
      split
      · next hAct =>
        rw [hAct] at hGoes
        exact hGoes.undisturbed
      · next hAct =>
        rw [hAct] at hGoes
        exact hGoes.undisturbed
  | sendOn | happens => cases hReconnects

/-- **Background reconnections spare what works.** However callers that ask for a reconnection,
requests, answers, losses of connections, handshakes and the time between attempts come between each
other, there is never more than one reconnection under way. No step of it closes a session that is
open, takes its place, or takes a request from it or gives that request an answer; only the id of
its own logon is entered anew. Calls that were made before are as they were. -/
theorem reconnection_spares_open_sessions (config : RpcConfig) (signer : Trade.Signer)
    (moves : List Move) (move : Move) :
    (run config signer moves).tasks.length ≤ 1 ∧
      (move.isReconnection = true →
        (run config signer moves).client.Undisturbed (Move.Enters · move)
          (run config signer (moves ++ [move])).client) := by
  have hSole := sole_run config signer moves
  refine ⟨hSole.flag ▸ Bool.toNat_le _, ?_⟩
  intro hReconnects
  rw [run_snoc]
  exact hSole.undisturbed hReconnects

/-! ## A caller that comes late to the flag -/

/-- Two callers find no connection. The first starts a task, which opens one and ends after its
logon was given up. A request goes out, and only then the second caller comes to the flag. -/
def lateCallerMoves : List Move :=
  [.ask, .ask, .start, .act 0 .go, .act 0 (.handshake (.ok ()) .zero), .act 0 .go,
    .act 0 (.logOn (some 0) ⟨"logon", 0⟩), .happens (.passed (.ofSecs 5)) rfl,
    .happens (.looked 0) rfl, .act 0 .go, .act 0 .go,
    .happens (.sent .orderStatus {} (.ofSecs 5) ⟨"status", 0⟩) rfl, .start]

/-- The second task finds the connection, and the request waits on. -/
theorem late_caller_spares_session :
    let before := run Client.patient Client.shortSigner lateCallerMoves
    let after := run Client.patient Client.shortSigner (lateCallerMoves ++ [.act 0 .go])
    before.tasks.map Reconnector.stage = [.checking] ∧
      after.tasks.map Reconnector.stage = [.ending] ∧
      (before.client.sessionAt 0).pending = [("status", 1)] ∧ before.tasks.length ≤ 1 ∧
      before.client.Undisturbed (Move.Enters · (.act 0 .go)) after.client := by
  have hSpares := reconnection_spares_open_sessions Client.patient Client.shortSigner
    lateCallerMoves (.act 0 .go)
  exact ⟨by decide +kernel, by decide +kernel, by decide +kernel, hSpares.1, hSpares.2 rfl⟩

end Background

end MarketGateway.Rpc
