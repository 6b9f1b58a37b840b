import Mathlib.Algebra.GroupWithZero.Nat
import Mathlib.Data.List.DropRight
import Mathlib.Data.List.Induction
import Mathlib.Logic.Function.Iterate
import MarketGateway.Feed.Sessions
import MarketGateway.Proofs.Feed.Supervisor

/-!
# Restarts of supervised sessions

A supervisor that nobody cancels runs one session after another (`Supervision.supervised`). A
session may report a connection and publish as often as it likes and in any order, and it ends with
or without an error.

The restarts in a row are counted from the end of the last session that connected, or from the start
(`restarts`). `Lawful` is what holds of the session that follows on any past: each restart waits as
long as a fresh backoff says that is asked for the delay of that number (`Backoff.delayAt`), and
the supervisor stops when a session that did not connect has used the allowed restarts up. The
state counts the session from its first report to its end, and one message for each payload; the
sink gets every payload once and in order.
-/

namespace MarketGateway

/-! ## Delays -/

namespace Backoff

/-- The delay of the given number, from zero on, when a backoff is asked again and again. -/
def delayAt (backoff : Backoff) : Nat → Option Duration
  | 0 => backoff.next.map Prod.fst
  | k + 1 => backoff.next.bind fun taken => taken.2.delayAt k

/-- The backoff of a policy after so many attempts. -/
def after (policy : ReconnectPolicy) (attempts : Nat) : Backoff :=
  ⟨policy, policy.grow^[attempts] policy.initialDelay, attempts⟩

/-- The delay behind so many attempts, without a random part. -/
def plainDelay (policy : ReconnectPolicy) (attempts : Nat) : Duration :=
  min (policy.grow^[attempts] policy.initialDelay) policy.maxDelay

variable {policy : ReconnectPolicy} {attempts : Nat}

/-- Without a random part nothing is drawn, whatever the draw would have been. -/
theorem ask_after (hJitter : policy.jitter.nonPositive = true)
    (hAllowed : policy.maxAttempts = 0 ∨ attempts < policy.maxAttempts) (offset : Binary64) :
    (after policy attempts).ask offset =
      .delays (plainDelay policy attempts) (after policy (attempts + 1)) := by
  have hMay : (after policy attempts).mayRetry = true := by
    rw [mayRetry, Bool.or_eq_true, beq_iff_eq, decide_eq_true_eq]
    exact hAllowed
  have hDraws := ReconnectPolicy.draws_of_plain hJitter
  rw [ask, hMay]
  simp [after, plainDelay, ReconnectPolicy.jittered, hJitter, hDraws, Function.iterate_succ_apply']

theorem next_after (hJitter : policy.jitter.nonPositive = true)
    (hAllowed : policy.maxAttempts = 0 ∨ attempts < policy.maxAttempts) :
    (after policy attempts).next =
      some (plainDelay policy attempts, after policy (attempts + 1)) :=
  next_eq_some_iff.mpr (ask_after hJitter hAllowed .zero)

/-- By induction on the number: each delay that is asked for leaves one attempt less. -/
theorem delayAt_after (hJitter : policy.jitter.nonPositive = true) {k : Nat}
    (hAllowed : policy.maxAttempts = 0 ∨ attempts + k < policy.maxAttempts) :
    (after policy attempts).delayAt k = some (plainDelay policy (attempts + k)) := by
  induction k generalizing attempts with
  | zero =>
    rw [Nat.add_zero] at hAllowed ⊢
    rw [delayAt, next_after hJitter hAllowed]
    rfl
  | succ k ih =>
    rw [delayAt, next_after hJitter (by omega), Option.bind_some, ih (by omega)]
    congr 2
    omega

end Backoff

namespace Supervision

variable {π : Type}

/-! ## Sessions -/

/-- What a session does, one thing after another. -/
inductive Act (π : Type)
  | connects
  | publishes (payload : π)
  /-- Nothing, for so long. -/
  | lasts (time : Duration)

def Act.isConnect : Act π → Bool
  | connects => true
  | publishes _ | lasts _ => false

def Act.payload? : Act π → Option π
  | publishes payload => some payload
  | connects | lasts _ => none

def Act.time : Act π → Duration
  | lasts time => time
  | connects | publishes _ => 0

/-- A session: what it does and how it ends. -/
structure Session (π : Type) where
  acts : List (Act π)
  error : Option FeedError := none
  /-- The random part of the delay that may follow. -/
  offset : Binary64 := .zero

/-- Whether there is a report of a connection. -/
def connects (acts : List (Act π)) : Bool := acts.any Act.isConnect

def payloads (acts : List (Act π)) : List π := acts.filterMap Act.payload?

def length (acts : List (Act π)) : Duration := (acts.map Act.time).sum

/-- How many restarts have come since the last session that connected ended, or since the start:
one for each session from that one on. -/
def restarts (past : List (Session π)) : Nat :=
  (past.rtakeWhile fun session => !connects session.acts).length +
    if past.any fun session => connects session.acts then 1 else 0

theorem restarts_snoc (past : List (Session π)) (session : Session π) :
    restarts (past ++ [session]) =
      if connects session.acts then 1 else restarts past + 1 := by
  cases hConnects : connects session.acts with
  | true => simp [restarts, hConnects]
  | false =>
    simp only [restarts, List.rtakeWhile_concat, hConnects, Bool.not_false, if_true,
      List.length_append, List.length_singleton, List.any_append, List.any_cons, List.any_nil,
      Bool.or_false, Bool.false_eq_true, if_false]
    omega

/-! ## Runs -/

def Event.payload? : Event π → Option π
  | published payload => some payload
  | run | connected | gaveUp | crashed | cancelled | stopped => none

namespace Run

/-- The payloads that the sink has got. -/
def delivered (run : Run π) : List π := run.log.filterMap fun entry => entry.2.payload?

def act (run : Run π) : Act π → Run π
  | .connects => run.connect
  | .publishes payload => run.publish payload
  | .lasts time => { run with now := run.now + time }

/-- A session starts and does something. -/
def during (run : Run π) (acts : List (Act π)) : Run π := acts.foldl act (run.see .run)

/-- A session starts and ends. -/
def ended (run : Run π) (session : Session π) : Run π :=
  (run.during session.acts).finish false session.error session.offset

/-- Goes on to the next session, unless the supervisor does not. -/
def resume (run : Run π) : Run π :=
  match run.supervisor.due? with
  | some due => run.wake due false
  | none => run.close

/-- A session and what comes behind it, as long as the supervisor goes on. -/
def pass (run : Run π) (session : Session π) : Run π :=
  if run.supervisor.isActive then (run.ended session).resume else run

end Run

/-- A supervisor before its first session. -/
def fresh (policy : ReconnectPolicy) (initial : FeedState) : Run π where
  supervisor := (Supervisor.start policy false initial).1
  state := (Supervisor.start policy false initial).2

/-- The run after the sessions, when the next one starts or the supervisor has stopped. -/
def supervised (policy : ReconnectPolicy) (initial : FeedState) (past : List (Session π)) : Run π :=
  past.foldl Run.pass (fresh policy initial)

theorem supervised_snoc (policy : ReconnectPolicy) (initial : FeedState)
    (past : List (Session π)) (session : Session π) :
    supervised policy initial (past ++ [session]) =
      (supervised policy initial past).pass session := by
  rw [supervised, List.foldl_append]
  rfl

/-! ## One session -/

/-- What the state counts on top of what it counted at first, and what the sink has got. -/
structure Accounts (initial : FeedState) (connected : Bool) (payloads : List π) (run : Run π) :
    Prop where
  sessions : run.state.sessions = initial.sessions + if connected then 1 else 0
  messages : run.state.messages = initial.messages + payloads.length
  delivered : run.delivered = payloads

/-- A session that runs since so long has connected or not, the backoff is the one of so many
restarts. -/
structure Running (policy : ReconnectPolicy) (initial : FeedState) (attempts : Nat)
    (connected : Bool) (payloads : List π) (now : Duration) (run : Run π) : Prop where
  supervisor : run.supervisor = ⟨.after policy attempts, .running connected⟩
  accounts : Accounts initial connected payloads run
  now : run.now = now

variable {policy : ReconnectPolicy} {initial : FeedState} {attempts : Nat} {connected : Bool}
  {paid : List π} {now : Duration} {run : Run π}

theorem delivered_see {event : Event π} (run : Run π) :
    (run.see event).delivered = run.delivered ++ event.payload?.toList := by
  cases hPayload : event.payload? <;> simp [Run.delivered, Run.see, hPayload]

theorem Accounts.see (hRun : Accounts initial connected paid run) {event : Event π}
    (hQuiet : event.payload? = none) : Accounts initial connected paid (run.see event) where
  sessions := hRun.sessions
  messages := hRun.messages
  delivered := by rw [delivered_see, hRun.delivered, hQuiet, Option.toList_none, List.append_nil]

/-- Only the first report of a session is counted. -/
theorem connected_running (backoff : Backoff) (connected : Bool) (state : FeedState) :
    (Supervisor.mk backoff (.running connected)).connected state =
      (⟨backoff, .running true⟩, if connected then state else state.connected) := by
  cases connected <;> rfl

theorem Running.connect (hRun : Running policy initial attempts connected paid now run) :
    Running policy initial attempts true paid now run.connect := by
  obtain ⟨hSupervisor, hAccounts, hNow⟩ := hRun
  have hTurn := connected_running (.after policy attempts) connected run.state
  rw [← hSupervisor] at hTurn
  refine ⟨congrArg Prod.fst hTurn, ⟨?_, ?_, ?_⟩, hNow⟩
  · refine (congrArg (fun turn => turn.2.sessions) hTurn).trans ?_
    cases connected with
    | true => exact hAccounts.sessions
    | false => exact congrArg (· + 1) hAccounts.sessions
  · refine (congrArg (fun turn => turn.2.messages) hTurn).trans ?_
    cases connected <;> exact hAccounts.messages
  · rw [Run.connect, delivered_see]
    exact (List.append_nil _).trans hAccounts.delivered

theorem Running.publish (hRun : Running policy initial attempts connected paid now run)
    (payload : π) :
    Running policy initial attempts connected (paid ++ [payload]) now (run.publish payload) := by
  obtain ⟨hSupervisor, hAccounts, hNow⟩ := hRun
  refine ⟨hSupervisor, ⟨hAccounts.sessions, ?_, ?_⟩, hNow⟩
  · rw [List.length_append]
    exact congrArg (· + 1) hAccounts.messages
  · rw [Run.publish, delivered_see]
    exact congrArg (· ++ [payload]) hAccounts.delivered

theorem Running.act (hRun : Running policy initial attempts connected paid now run) (act : Act π) :
    Running policy initial attempts (connected || act.isConnect) (paid ++ act.payload?.toList)
      (now + act.time) (run.act act) := by
  cases act with
  | connects => simpa [Act.isConnect, Act.payload?, Act.time, Run.act] using hRun.connect
  | publishes payload =>
    simpa [Act.isConnect, Act.payload?, Act.time, Run.act] using hRun.publish payload
  | lasts time =>
    obtain ⟨hSupervisor, hAccounts, hNow⟩ := hRun
    have hLater : Running policy initial attempts connected paid (now + time)
        { run with now := run.now + time } :=
      ⟨hSupervisor, ⟨hAccounts.sessions, hAccounts.messages, hAccounts.delivered⟩,
        congrArg (· + time) hNow⟩
    simpa [Act.isConnect, Act.payload?, Act.time, Run.act] using hLater

/-- By induction on what the session did. -/
theorem Running.during (hRun : Running policy initial attempts false paid now run)
    (acts : List (Act π)) :
    Running policy initial attempts (connects acts) (paid ++ payloads acts) (now + length acts)
      (run.during acts) := by
  induction acts using List.reverseRecOn with
  | nil =>
    refine ⟨hRun.supervisor, ?_, hRun.now⟩
    rw [payloads, List.filterMap_nil, List.append_nil]
    exact hRun.accounts.see rfl
  | append_singleton acts act ih =>
    have hNext := ih.act act
    have hPayload : [act].filterMap Act.payload? = act.payload?.toList := by
      cases hPayload : act.payload? <;> simp [hPayload]
    have hStep : run.during (acts ++ [act]) = (run.during acts).act act := List.foldl_append
    simpa [hStep, connects, payloads, length, hPayload, Nat.add_assoc] using hNext

/-- The supervisor behind a session that ended, with the backoff it goes on with. -/
def rest (backoff : Backoff) (offset : Binary64) (now : Duration) : Supervisor :=
  match backoff.ask offset with
  | .exhausted => ⟨backoff, .stopped⟩
  | .crashed => ⟨backoff, .crashed⟩
  | .delays delay later => ⟨later, .waiting (now + delay)⟩

/-- The state lets a session go that had connected; the backoff starts over behind it. -/
theorem ended_running (backoff : Backoff) (connected : Bool) (now : Duration)
    (error : Option FeedError) (offset : Binary64) (state : FeedState) :
    let turn := (Supervisor.mk backoff (.running connected)).ended now false error offset state
    turn.1 = rest (if connected then backoff.reset else backoff) offset now ∧
      turn.2.1.sessions = state.sessions - (if connected then 1 else 0) ∧
      turn.2.1.messages = state.messages := by
  have hSessions : (state.ended connected (error.map FeedError.message)).sessions =
      state.sessions - if connected then 1 else 0 := by
    rw [FeedState.ended, FeedState.sessions_note]
    cases connected <;> rfl
  have hMessages : (state.ended connected (error.map FeedError.message)).messages =
      state.messages := FeedState.messages_note _ _
  dsimp only [Supervisor.ended, rest]
  rw [if_neg Bool.false_ne_true]
  cases (if connected = true then backoff.reset else backoff).ask offset with
  | exhausted | crashed => exact ⟨rfl, hSessions, hMessages⟩
  | delays delay later =>
    exact ⟨rfl, (FeedState.sessions_note _ _).trans hSessions,
      (FeedState.messages_note _ _).trans hMessages⟩

/-- The end of a session, behind which so many restarts count as used. -/
theorem Running.finish (hRun : Running policy initial attempts connected paid now run)
    (error : Option FeedError) (offset : Binary64) :
    Accounts initial false paid (run.finish false error offset) ∧
      (run.finish false error offset).now = now ∧
      (run.finish false error offset).supervisor =
        rest (.after policy (if connected then 0 else attempts)) offset now := by
  obtain ⟨hSupervisor, hAccounts, hNow⟩ := hRun
  have hTurn := ended_running (.after policy attempts) connected run.now error offset run.state
  have hBackoff : (if connected then (Backoff.after policy attempts).reset
      else .after policy attempts) = .after policy (if connected then 0 else attempts) := by
    cases connected <;> rfl
  rw [← hSupervisor, hBackoff, hNow] at hTurn
  obtain ⟨hNext, hSessions, hMessages⟩ := hTurn
  rw [← hNow] at hNext hSessions hMessages ⊢
  refine ⟨⟨?_, hMessages.trans hAccounts.messages, hAccounts.delivered⟩, rfl, hNext⟩
  refine hSessions.trans ?_
  rw [hAccounts.sessions]
  cases connected <;> simp

/-! ## From one session to the next -/

/-- The payloads of the sessions, in order. -/
def paidIn (past : List (Session π)) : List π := past.flatMap fun session => payloads session.acts

theorem rest_of_allowed (hJitter : policy.jitter.nonPositive = true)
    (hAllowed : policy.maxAttempts = 0 ∨ attempts < policy.maxAttempts) (offset : Binary64)
    (now : Duration) :
    rest (.after policy attempts) offset now =
      ⟨.after policy (attempts + 1), .waiting (now + Backoff.plainDelay policy attempts)⟩ := by
  rw [rest, Backoff.ask_after hJitter hAllowed]

theorem rest_of_exhausted (hMax : policy.maxAttempts ≠ 0) (hUsed : policy.maxAttempts ≤ attempts)
    (offset : Binary64) (now : Duration) :
    rest (.after policy attempts) offset now = ⟨.after policy attempts, .stopped⟩ := by
  have hNone := (Backoff.mayRetry_eq_false_iff (.after policy attempts)).mpr ⟨hMax, hUsed⟩
  rw [rest, Backoff.ask_eq_exhausted_iff.mpr hNone]

theorem Running.ended (hRun : Running policy initial attempts false paid now run)
    (session : Session π) :
    Accounts initial false (paid ++ payloads session.acts) (run.ended session) ∧
      (run.ended session).now = now + length session.acts ∧
      (run.ended session).supervisor =
        rest (.after policy (if connects session.acts then 0 else attempts)) session.offset
          (now + length session.acts) :=
  (hRun.during session.acts).finish session.error session.offset

theorem wake_waiting (backoff : Backoff) (due time : Duration) (state : FeedState) :
    (Supervisor.mk backoff (.waiting due)).wake time false state =
      if due ≤ time then (⟨backoff, .running false⟩, state.connecting)
      else (⟨backoff, .waiting due⟩, state) := by
  simp [Supervisor.wake, Supervisor.enter]

/-- The wait is over: the next session starts. -/
theorem Running.start {due : Duration} {backoff : Backoff}
    (hAccounts : Accounts initial false paid run)
    (hWaits : run.supervisor = ⟨backoff, .waiting due⟩) :
    (run.wake due false).supervisor = ⟨backoff, .running false⟩ ∧
      Accounts initial false paid (run.wake due false) ∧ (run.wake due false).now = due := by
  have hTurn := wake_waiting backoff due due run.state
  rw [← hWaits, if_pos le_rfl] at hTurn
  refine ⟨congrArg Prod.fst hTurn, ⟨?_, ?_, hAccounts.delivered⟩, rfl⟩
  · refine (congrArg (fun turn => turn.2.sessions) hTurn).trans ?_
    exact (FeedState.sessions_note _ _).trans hAccounts.sessions
  · refine (congrArg (fun turn => turn.2.messages) hTurn).trans ?_
    exact (FeedState.messages_note _ _).trans hAccounts.messages

/-- What comes behind a session. -/
inductive Passed (policy : ReconnectPolicy) (initial : FeedState) (attempts : Nat) (paid : List π)
    (run : Run π) (session : Session π) : Prop
  | restarts {k : Nat} (hCount : k = if connects session.acts then 0 else attempts)
      (hAllowed : policy.maxAttempts = 0 ∨ k < policy.maxAttempts)
      (hWaits : (run.ended session).supervisor =
        ⟨.after policy (k + 1),
          .waiting ((run.ended session).now + Backoff.plainDelay policy k)⟩)
      (hPass : run.pass session =
        (run.ended session).wake ((run.ended session).now + Backoff.plainDelay policy k) false)
      (hRuns : Running policy initial (k + 1) false (paid ++ payloads session.acts)
        ((run.ended session).now + Backoff.plainDelay policy k) (run.pass session))
  | stops (hConnects : connects session.acts = false) (hMax : policy.maxAttempts ≠ 0)
      (hUsed : policy.maxAttempts ≤ attempts)
      (hStopped : (run.pass session).supervisor.isStopped = true)
      (hPass : run.pass session = (run.ended session).see .gaveUp)

theorem Running.pass (hJitter : policy.jitter.nonPositive = true)
    (hRun : Running policy initial attempts false paid now run) (session : Session π) :
    Passed policy initial attempts paid run session := by
  obtain ⟨hAccounts, hNow, hNext⟩ := hRun.ended session
  have hActive : run.supervisor.isActive = true := by
    rw [hRun.supervisor]
    rfl
  have hPass : run.pass session = (run.ended session).resume := if_pos hActive
  rw [← hNow] at hNext
  generalize hCount : (if connects session.acts = true then 0 else attempts) = k at hNext
  by_cases hAllowed : policy.maxAttempts = 0 ∨ k < policy.maxAttempts
  · rw [rest_of_allowed hJitter hAllowed] at hNext
    have hResume : (run.ended session).resume =
        (run.ended session).wake ((run.ended session).now + Backoff.plainDelay policy k) false := by
      rw [Run.resume, hNext]
      rfl
    obtain ⟨hSupervisor, hStarted, hLater⟩ := Running.start hAccounts hNext
    rw [← hResume, ← hPass] at hSupervisor hStarted hLater
    exact .restarts hCount.symm hAllowed hNext (hPass.trans hResume) ⟨hSupervisor, hStarted, hLater⟩
  · obtain ⟨hMax, hUsed⟩ : policy.maxAttempts ≠ 0 ∧ policy.maxAttempts ≤ k := by omega
    rw [rest_of_exhausted hMax hUsed] at hNext
    have hResume : (run.ended session).resume = (run.ended session).see .gaveUp := by
      rw [Run.resume, hNext]
      exact congrArg (run.ended session).see (if_neg (by simp [hNext]))
    have hStopped : (run.pass session).supervisor.isStopped = true := by
      rw [hPass, hResume]
      exact (congrArg Supervisor.isStopped hNext).trans rfl
    cases hConnects : connects session.acts with
    | true =>
      have hNone : 0 = k := by simpa [hConnects] using hCount
      omega
    | false =>
      obtain rfl : attempts = k := by simpa [hConnects] using hCount
      exact .stops hConnects hMax hUsed hStopped (hPass.trans hResume)

theorem restarts_eq {past : List (Session π)} {session : Session π} {k : Nat}
    (hCount : k = if connects session.acts then 0 else restarts past) :
    restarts (past ++ [session]) = k + 1 := by
  rw [restarts_snoc, hCount]
  split <;> rfl

theorem running_fresh (policy : ReconnectPolicy) (initial : FeedState) :
    Running policy initial 0 false ([] : List π) 0 (fresh policy initial) where
  supervisor := rfl
  accounts := ⟨FeedState.sessions_note _ _, FeedState.messages_note _ _, rfl⟩
  now := rfl

theorem pass_of_stopped (hStopped : run.supervisor.isStopped = true) (session : Session π) :
    run.pass session = run := by
  have hPhase : run.supervisor.phase = .stopped := of_decide_eq_true hStopped
  refine if_neg ?_
  rw [Supervisor.isActive, hPhase]
  exact Bool.false_ne_true

/-- By induction on the past: as long as it has not stopped, the supervisor has used as many
attempts as there were restarts in a row, and these are allowed. -/
theorem running_supervised (hJitter : policy.jitter.nonPositive = true) {past : List (Session π)}
    (hGoes : (supervised policy initial past).supervisor.isStopped = false) :
    Running policy initial (restarts past) false (paidIn past) (supervised policy initial past).now
        (supervised policy initial past) ∧
      (policy.maxAttempts = 0 ∨ restarts past ≤ policy.maxAttempts) := by
  induction past using List.reverseRecOn with
  | nil => exact ⟨running_fresh policy initial, .inr (Nat.zero_le _)⟩
  | append_singleton past session ih =>
    rw [supervised_snoc] at hGoes ⊢
    have hBefore : (supervised policy initial past).supervisor.isStopped = false := by
      by_contra hStopped
      rw [Bool.not_eq_false] at hStopped
      rw [pass_of_stopped hStopped, hStopped] at hGoes
      exact absurd hGoes (by decide)
    obtain ⟨hRun, -⟩ := ih hBefore
    cases hRun.pass hJitter session with
    | restarts hCount hAllowed hWaits hPass hRuns =>
      have hPaid : paidIn (past ++ [session]) = paidIn past ++ payloads session.acts := by
        simp [paidIn]
      rw [restarts_eq hCount, hPaid]
      exact ⟨⟨hRuns.supervisor, hRuns.accounts, rfl⟩, by omega⟩
    | stops hConnects hMax hUsed hStopped hPass => cases hStopped.symm.trans hGoes

/-! ## The laws of a supervised feed -/

/-- What holds of the session that follows on a past, and of what comes behind it. -/
structure Lawful (policy : ReconnectPolicy) (initial : FeedState) (past : List (Session π)) :
    Prop where
  /-- While it runs it counts once, from its first report on. -/
  during (acts : List (Act π)) :
    Accounts initial (connects acts) (paidIn past ++ payloads acts)
      ((supervised policy initial past).during acts)
  /-- When it has ended it counts no longer. -/
  released (session : Session π) :
    Accounts initial false (paidIn past ++ payloads session.acts)
      ((supervised policy initial past).ended session)
  ends_at (session : Session π) :
    ((supervised policy initial past).ended session).now =
      (supervised policy initial past).now + length session.acts
  stops_iff (session : Session π) :
    (supervised policy initial (past ++ [session])).supervisor.isStopped = true ↔
      0 < policy.maxAttempts ∧ restarts past = policy.maxAttempts ∧
        connects session.acts = false
  /-- Behind it the supervisor waits for as long as a fresh backoff says, and no shorter. -/
  restarts (session : Session π)
      (hGoes : (supervised policy initial (past ++ [session])).supervisor.isStopped = false) :
    ∃ k delay, restarts (past ++ [session]) = k + 1 ∧
      (Backoff.new policy).delayAt k = some delay ∧
      (∀ time < ((supervised policy initial past).ended session).now + delay,
        ((supervised policy initial past).ended session).wake time false =
          { (supervised policy initial past).ended session with now := time }) ∧
      supervised policy initial (past ++ [session]) =
        ((supervised policy initial past).ended session).wake
          (((supervised policy initial past).ended session).now + delay) false ∧
      (supervised policy initial (past ++ [session])).supervisor.phase = .running false
  /-- Or it gives up, and nothing comes any more. -/
  settled (session : Session π) (later : List (Session π))
      (hStopped : (supervised policy initial (past ++ [session])).supervisor.isStopped = true) :
    supervised policy initial (past ++ session :: later) =
      ((supervised policy initial past).ended session).see .gaveUp

theorem foldl_pass_of_stopped (hStopped : run.supervisor.isStopped = true)
    (later : List (Session π)) : later.foldl Run.pass run = run := by
  induction later with
  | nil => rfl
  | cons session later ih => rw [List.foldl_cons, pass_of_stopped hStopped, ih]

theorem supervised_append (policy : ReconnectPolicy) (initial : FeedState)
    (past later : List (Session π)) :
    supervised policy initial (past ++ later) =
      later.foldl Run.pass (supervised policy initial past) :=
  List.foldl_append

/-- A supervisor that waits stays as it is until the wait is over. -/
theorem wake_early {backoff : Backoff} {due time : Duration}
    (hWaits : run.supervisor = ⟨backoff, .waiting due⟩) (hEarly : time < due) :
    run.wake time false = { run with now := time } := by
  have hTurn := wake_waiting backoff due time run.state
  rw [← hWaits, if_neg (Nat.not_le.mpr hEarly)] at hTurn
  rw [Run.wake, hTurn]

theorem lawful (hJitter : policy.jitter.nonPositive = true) {past : List (Session π)}
    (hGoes : (supervised policy initial past).supervisor.isStopped = false) :
    Lawful policy initial past := by
  obtain ⟨hRun, hUsed⟩ := running_supervised hJitter hGoes
  refine ⟨?_, ?_, ?_, ?_, ?_, ?_⟩
  · intro acts
    exact (hRun.during acts).accounts
  · intro session
    exact (hRun.ended session).1
  · intro session
    exact (hRun.ended session).2.1
  · intro session
    rw [supervised_snoc]
    cases hRun.pass hJitter session with
    | restarts hCount hAllowed hWaits hPass hRuns =>
      have hActive : ((supervised policy initial past).pass session).supervisor.isStopped =
          false := by
        rw [hRuns.supervisor]
        rfl
      refine iff_of_false (by simp [hActive]) ?_
      rintro ⟨hMax, hAll, hConnects⟩
      simp only [hConnects, Bool.false_eq_true, if_false] at hCount
      omega
    | stops hConnects hMax hExhausted hStopped hPass =>
      exact iff_of_true hStopped ⟨by omega, by omega, hConnects⟩
  · intro session hNext
    rw [supervised_snoc] at hNext ⊢
    cases hRun.pass hJitter session with
    | @restarts k hCount hAllowed hWaits hPass hRuns =>
      refine ⟨k, Backoff.plainDelay policy k, restarts_eq hCount, ?_, ?_, hPass, ?_⟩
      · have hFirst : policy.maxAttempts = 0 ∨ 0 + k < policy.maxAttempts := by omega
        have hDelay := Backoff.delayAt_after hJitter hFirst
        rwa [Nat.zero_add] at hDelay
      · intro time hEarly
        exact wake_early hWaits hEarly
      · rw [hRuns.supervisor]
    | stops hConnects hMax hExhausted hStopped hPass => cases hStopped.symm.trans hNext
  · intro session later hStopped
    rw [List.append_cons, supervised_append, foldl_pass_of_stopped hStopped]
    rw [supervised_snoc] at hStopped ⊢
    cases hRun.pass hJitter session with
    | restarts hCount hAllowed hWaits hPass hRuns =>
      rw [hRuns.supervisor] at hStopped
      cases hStopped
    | stops hConnects hMax hExhausted hStopped hPass => exact hPass

/-- It stops at the first session that did not connect and has used the allowed restarts up. -/
theorem isStopped_supervised_iff (hJitter : policy.jitter.nonPositive = true)
    (past : List (Session π)) :
    (supervised policy initial past).supervisor.isStopped = true ↔
      ∃ early session later, past = early ++ session :: later ∧ 0 < policy.maxAttempts ∧
        restarts early = policy.maxAttempts ∧ connects session.acts = false := by
  constructor
  · intro hStopped
    induction past using List.reverseRecOn with
    | nil => cases hStopped
    | append_singleton past session ih =>
      cases hBefore : (supervised policy initial past).supervisor.isStopped with
      | true =>
        obtain ⟨early, other, later, rfl, hLast⟩ := ih hBefore
        exact ⟨early, other, later ++ [session], by simp, hLast⟩
      | false =>
        exact ⟨past, session, [], rfl, ((lawful hJitter hBefore).stops_iff session).mp hStopped⟩
  · rintro ⟨early, session, later, rfl, hLast⟩
    have hNext : (supervised policy initial (early ++ [session])).supervisor.isStopped = true := by
      cases hBefore : (supervised policy initial early).supervisor.isStopped with
      | true =>
        rw [supervised_snoc, pass_of_stopped hBefore]
        exact hBefore
      | false => exact ((lawful hJitter hBefore).stops_iff session).mpr hLast
    rw [List.append_cons, supervised_append, foldl_pass_of_stopped hNext]
    exact hNext

/-! ## Planned sessions -/

/-- A planned session as it runs. -/
def Session.ofPlan (plan : SessionPlan π) : Session π where
  acts := List.replicate plan.connects .connects ++ plan.payloads.map .publishes ++
    [.lasts plan.hold]
  error := plan.error

theorem during_ofPlan (run : Run π) (plan : SessionPlan π) :
    run.during (Session.ofPlan plan).acts =
      { (run.see .run).perform plan with
        now := ((run.see .run).perform plan).now + plan.hold } := by
  have hConnects (n : Nat) (run : Run π) : (List.replicate n Act.connects).foldl Run.act run =
      (List.replicate n ()).foldl (fun r _ => r.connect) run := by
    induction n generalizing run with
    | zero => rfl
    | succ n ih => exact ih _
  rw [Run.during, Session.ofPlan, List.foldl_append, List.foldl_append, hConnects, List.foldl_map]
  rfl

theorem play_cons {cancelAt : Duration} {plan : SessionPlan π} {plans : List (SessionPlan π)}
    (hTime : (run.ended (.ofPlan plan)).now ≤ cancelAt) :
    play cancelAt (plan :: plans) run =
      match (run.ended (.ofPlan plan)).supervisor.due? with
      | none => (run.ended (.ofPlan plan)).close
      | some due =>
        if cancelAt < due then
          (((run.ended (.ofPlan plan)).cancel cancelAt).wake cancelAt true).see .stopped
        else play cancelAt plans ((run.ended (.ofPlan plan)).wake due false) := by
  rw [Run.ended, during_ofPlan] at hTime ⊢
  rw [play]
  exact if_neg (Nat.not_lt.mpr hTime)

theorem Running.now_le_foldl (hJitter : policy.jitter.nonPositive = true)
    (hRun : Running policy initial attempts false paid now run) (later : List (Session π)) :
    run.now ≤ (later.foldl Run.pass run).now := by
  induction later generalizing run attempts paid now with
  | nil => exact le_rfl
  | cons session later ih =>
    have hEnd : run.now ≤ (run.ended session).now := by
      rw [(hRun.ended session).2.1, hRun.now]
      exact Nat.le_add_right _ _
    rw [List.foldl_cons]
    cases hRun.pass hJitter session with
    | restarts hCount hAllowed hWaits hPass hRuns =>
      have hNext := ih hRuns
      rw [hRuns.now] at hNext
      exact hEnd.trans ((Nat.le_add_right _ _).trans hNext)
    | stops hConnects hMax hUsed hStopped hPass =>
      rw [foldl_pass_of_stopped hStopped, hPass]
      exact hEnd

/-- A feed of planned sessions is supervised as long as it is not cancelled. -/
theorem Running.play_eq (hJitter : policy.jitter.nonPositive = true)
    (hRun : Running policy initial attempts false paid now run) {cancelAt : Duration}
    {plans : List (SessionPlan π)}
    (hTime : ((plans.map Session.ofPlan).foldl Run.pass run).now ≤ cancelAt) :
    play cancelAt plans run =
      if ((plans.map Session.ofPlan).foldl Run.pass run).supervisor.isStopped then
        (plans.map Session.ofPlan).foldl Run.pass run
      else play cancelAt [] ((plans.map Session.ofPlan).foldl Run.pass run) := by
  induction plans generalizing run attempts paid now with
  | nil =>
    rw [List.map_nil, List.foldl_nil, hRun.supervisor]
    rfl
  | cons plan plans ih =>
    rw [List.map_cons, List.foldl_cons] at hTime ⊢
    cases hRun.pass hJitter (.ofPlan plan) with
    | restarts hCount hAllowed hWaits hPass hRuns =>
      have hDue := (hRuns.now_le_foldl hJitter (plans.map Session.ofPlan)).trans hTime
      rw [hRuns.now] at hDue
      rw [play_cons ((Nat.le_add_right _ _).trans hDue), hWaits, ← ih hRuns hTime, hPass]
      exact if_neg (Nat.not_lt.mpr hDue)
    | stops hConnects hMax hUsed hStopped hPass =>
      rw [foldl_pass_of_stopped hStopped] at hTime ⊢
      rw [if_pos hStopped, hPass]
      rw [hPass] at hTime hStopped
      have hPhase : (run.ended (.ofPlan plan)).supervisor.phase = .stopped :=
        of_decide_eq_true hStopped
      have hNone : (run.ended (.ofPlan plan)).supervisor.due? = none := by
        rw [Supervisor.due?, hPhase]
      rw [play_cons hTime, hNone]
      exact congrArg (run.ended (.ofPlan plan)).see (if_neg (by simp [hPhase]))

/-- **A supervisor restarts a session as a fresh policy says, from the last connection on.** It
stops at a session that did not connect when the allowed restarts are used up, and at no other.
Until then each session counts once while it is connected, each payload counts as one message and
reaches the sink once and in order, and the wait behind a session is the delay of its number. A feed
of planned sessions is such a run until it is cancelled. -/
theorem restarts_lawful (policy : ReconnectPolicy) (hJitter : policy.jitter.nonPositive = true) :
    (∀ (initial : FeedState) (past : List (Session π)),
      ((supervised policy initial past).supervisor.isStopped = true ↔
        ∃ early session later, past = early ++ session :: later ∧ 0 < policy.maxAttempts ∧
          restarts early = policy.maxAttempts ∧ connects session.acts = false) ∧
      ((supervised policy initial past).supervisor.isStopped = false →
        Lawful policy initial past)) ∧
    ∀ (kind : FeedKind) (cancelAt : Duration) (plans : List (SessionPlan π)),
      (supervised policy { kind := kind } (plans.map Session.ofPlan)).now ≤ cancelAt →
      ofPlans kind policy cancelAt plans =
        if (supervised policy { kind := kind } (plans.map Session.ofPlan)).supervisor.isStopped then
          supervised policy { kind := kind } (plans.map Session.ofPlan)
        else play cancelAt [] (supervised policy { kind := kind } (plans.map Session.ofPlan)) := by
  refine ⟨fun initial past => ⟨isStopped_supervised_iff hJitter past, lawful hJitter⟩, ?_⟩
  intro kind cancelAt plans hTime
  exact (running_fresh policy { kind := kind }).play_eq hJitter hTime

/-- Two restarts in a row, after one second and after two. -/
def twoAttempts : ReconnectPolicy := { ReconnectPolicy.standard with maxAttempts := 2 }

def refused : Session Nat := ⟨[], some (.transport "refused"), .zero⟩

/-- The third session connects, twice, and lasts for ten seconds. -/
def flakySessions : List (Session Nat) :=
  [refused, refused,
    ⟨[.connects, .publishes 7, .connects, .publishes 8, .lasts (.ofSecs 10)], none, .zero⟩,
    refused]

theorem restarts_lawful_of_flakySessions :
    twoAttempts.jitter.nonPositive = true ∧
    (supervised twoAttempts { kind := .depth } flakySessions).now = .ofSecs (1 + 2 + 10 + 1 + 2) ∧
    (supervised twoAttempts { kind := .depth } flakySessions).delivered = [7, 8] ∧
    Lawful twoAttempts { kind := .depth } flakySessions ∧
    (supervised twoAttempts { kind := .depth } (flakySessions ++ [refused])).supervisor.isStopped =
      true := by
  have hJitter : twoAttempts.jitter.nonPositive = true := by decide
  have hGoes : (supervised twoAttempts { kind := .depth } flakySessions).supervisor.isStopped =
      false := by
    decide +kernel
  obtain ⟨-, hLawful⟩ := (restarts_lawful twoAttempts hJitter).1 { kind := .depth } flakySessions
  refine ⟨hJitter, by decide +kernel, by decide +kernel, hLawful hGoes, ?_⟩
  exact ((hLawful hGoes).stops_iff refused).mpr (by decide)

end Supervision

end MarketGateway
