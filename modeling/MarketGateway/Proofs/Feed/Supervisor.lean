import Mathlib.Tactic.SplitIfs
import MarketGateway.Feed.Supervisor
import MarketGateway.Proofs.Lists

/-!
# Steps of supervisors

`Supervisor.Turn` lists what a step of a supervisor can do to it and to the state of its feed, and
`connected_turn`, `ended_turn` and `wake_turn` say that each operation is such a step. There are
three ways to stop: a session ends while the feed is cancelled, a session ends and no attempt is
left (`Backoff.mayRetry_eq_false_iff`), or a wait is cut short because the feed is cancelled. Only
the last one notes nothing in the state. Besides, a supervisor crashes if a session ends, attempts
are left, and the random part of the next delay cannot be drawn (`Backoff.Crashes`).

A state that many supervisors share agrees with them as far as `FeedState.Reports` says: it counts
the connected sessions, and it has noted a connection, or an attempt to connect, only while there is
one.
-/

namespace MarketGateway

/-! ## Backoff -/

/-- Without a random part there is nothing to draw. -/
theorem ReconnectPolicy.draws_of_plain {policy : ReconnectPolicy}
    (hJitter : policy.jitter.nonPositive = true) (delay : Duration) :
    policy.draws delay = true := by
  rw [draws, hJitter, Bool.true_or]

namespace Backoff

variable {backoff after : Backoff} {delay : Duration} {offset : Binary64}

theorem mayRetry_eq_false_iff (backoff : Backoff) :
    backoff.mayRetry = false ↔
      backoff.policy.maxAttempts ≠ 0 ∧ backoff.policy.maxAttempts ≤ backoff.attempts := by
  simp [mayRetry]

/-- An attempt is left, but the random part of the delay before it cannot be drawn. -/
def Crashes (backoff : Backoff) : Prop :=
  backoff.mayRetry = true ∧ backoff.policy.draws backoff.current = false

theorem ask_eq_exhausted_iff : backoff.ask offset = .exhausted ↔ backoff.mayRetry = false := by
  unfold ask
  cases backoff.mayRetry <;> cases backoff.policy.draws backoff.current <;> simp

theorem ask_eq_crashed_iff : backoff.ask offset = .crashed ↔ backoff.Crashes := by
  unfold ask Crashes
  cases backoff.mayRetry <;> cases backoff.policy.draws backoff.current <;> simp

theorem policy_of_ask (hAsk : backoff.ask offset = .delays delay after) :
    after.policy = backoff.policy := by
  unfold ask at hAsk
  split_ifs at hAsk
  cases hAsk
  rfl

theorem next_eq_some_iff :
    backoff.next offset = some (delay, after) ↔ backoff.ask offset = .delays delay after := by
  unfold next
  cases backoff.ask offset <;> simp

end Backoff

namespace Supervisor

variable {supervisor next : Supervisor} {state after : FeedState} {cancelled : Bool}

/-- What a step can do to a supervisor and to the state of its feed. -/
inductive Turn (cancelled : Bool) (supervisor : Supervisor) (state : FeedState) :
    Supervisor → FeedState → Prop
  | stays : Turn cancelled supervisor state supervisor state
  | connects (hPhase : supervisor.phase = .running false) :
      Turn cancelled supervisor state { supervisor with phase := .running true } state.connected
  | ends {connected : Bool} (error : Option String) (hPhase : supervisor.phase = .running connected)
      (hCancelled : cancelled = true) :
      Turn cancelled supervisor state { supervisor with phase := .stopped }
        (state.ended connected error)
  | givesUp {connected : Bool} {backoff : Backoff} (error : Option String)
      (hPhase : supervisor.phase = .running connected)
      (hPolicy : backoff.policy = supervisor.backoff.policy) (hNone : backoff.mayRetry = false) :
      Turn cancelled supervisor state ⟨backoff, .stopped⟩ (state.ended connected error)
  | crashes {connected : Bool} {backoff : Backoff} (error : Option String)
      (hPhase : supervisor.phase = .running connected)
      (hPolicy : backoff.policy = supervisor.backoff.policy) (hCrashes : backoff.Crashes)
      (hWanted : cancelled = false) :
      Turn cancelled supervisor state ⟨backoff, .crashed⟩ (state.ended connected error)
  | retries {connected : Bool} {backoff : Backoff} (error : Option String) (due : Duration)
      (hPhase : supervisor.phase = .running connected)
      (hPolicy : backoff.policy = supervisor.backoff.policy) (hWanted : cancelled = false) :
      Turn cancelled supervisor state ⟨backoff, .waiting due⟩
        ((state.ended connected error).reconnecting backoff.attempts)
  | resumes {due : Duration} (hPhase : supervisor.phase = .waiting due)
      (hWanted : cancelled = false) :
      Turn cancelled supervisor state { supervisor with phase := .running false } state.connecting
  | abandons {due : Duration} (hPhase : supervisor.phase = .waiting due)
      (hCancelled : cancelled = true) :
      Turn cancelled supervisor state { supervisor with phase := .stopped } state

theorem connected_turn (cancelled : Bool) (supervisor : Supervisor) (state : FeedState) :
    Turn cancelled supervisor state (supervisor.connected state).1
      (supervisor.connected state).2 := by
  unfold connected
  split
  · next hPhase => exact .connects hPhase
  · exact .stays

theorem ended_turn (supervisor : Supervisor) (now : Duration) (cancelled : Bool)
    (error : Option FeedError) (offset : Binary64) (state : FeedState) :
    Turn cancelled supervisor state (supervisor.ended now cancelled error offset state).1
      (supervisor.ended now cancelled error offset state).2.1 := by
  unfold ended
  split
  · next wasConnected hPhase =>
    dsimp only
    split
    · next hCancelled => exact .ends _ hPhase hCancelled
    · next hCancelled =>
      have hWanted : cancelled = false := by simpa using hCancelled
      have hPolicy : (if wasConnected = true then supervisor.backoff.reset
          else supervisor.backoff).policy = supervisor.backoff.policy := by
        split <;> rfl
      split
      · next hAsk => exact .givesUp _ hPhase hPolicy (Backoff.ask_eq_exhausted_iff.mp hAsk)
      · next hAsk => exact .crashes _ hPhase hPolicy (Backoff.ask_eq_crashed_iff.mp hAsk) hWanted
      · next delay backoff hAsk =>
        exact .retries _ _ hPhase ((Backoff.policy_of_ask hAsk).trans hPolicy) hWanted
  · exact .stays

theorem wake_turn (supervisor : Supervisor) (now : Duration) (cancelled : Bool)
    (state : FeedState) :
    Turn cancelled supervisor state (supervisor.wake now cancelled state).1
      (supervisor.wake now cancelled state).2 := by
  unfold wake
  split
  · next due hPhase =>
    split
    · unfold enter
      split
      · next hCancelled => exact .abandons hPhase hCancelled
      · next hCancelled => exact .resumes hPhase (by simpa using hCancelled)
    · exact .stays
  · exact .stays

/-- A supervisor that starts runs a session, unless its feed is cancelled. -/
theorem start_cases (policy : ReconnectPolicy) (cancelled : Bool) (state : FeedState) :
    (cancelled = true ∧ start policy cancelled state = (⟨.new policy, .stopped⟩, state)) ∨
      start policy cancelled state = (⟨.new policy, .running false⟩, state.connecting) := by
  unfold start enter
  split
  · next hCancelled => exact .inl ⟨hCancelled, rfl⟩
  · exact .inr rfl

theorem Turn.policy (hTurn : supervisor.Turn cancelled state next after) :
    next.backoff.policy = supervisor.backoff.policy := by
  cases hTurn with
  | stays | connects | ends | resumes | abandons => rfl
  | givesUp error hPhase hPolicy hNone => exact hPolicy
  | crashes error hPhase hPolicy hCrashes hWanted => exact hPolicy
  | retries error due hPhase hPolicy hWanted => exact hPolicy

/-- A supervisor that nobody cancels stops only when no attempt is left. -/
theorem Turn.stopped_cases (hTurn : supervisor.Turn cancelled state next after)
    (hStopped : next.phase = .stopped) :
    next = supervisor ∨ cancelled = true ∨ next.backoff.mayRetry = false := by
  cases hTurn with
  | stays => exact .inl rfl
  | ends error hPhase hCancelled => exact .inr (.inl hCancelled)
  | abandons hPhase hCancelled => exact .inr (.inl hCancelled)
  | givesUp error hPhase hPolicy hNone => exact .inr (.inr hNone)
  | connects | crashes | retries | resumes => cases hStopped

/-- A supervisor crashes only at a draw that fails. -/
theorem Turn.crashed_cases (hTurn : supervisor.Turn cancelled state next after)
    (hCrashed : next.phase = .crashed) : next = supervisor ∨ next.backoff.Crashes := by
  cases hTurn with
  | stays => exact .inl rfl
  | crashes error hPhase hPolicy hCrashes hWanted => exact .inr hCrashes
  | connects | ends | givesUp | retries | resumes | abandons => cases hCrashed

/-- A supervisor that crashed takes no further step. -/
theorem Turn.of_crashed (hTurn : supervisor.Turn cancelled state next after)
    (hCrashed : supervisor.phase = .crashed) : next = supervisor := by
  cases hTurn with
  | stays => rfl
  | connects hPhase | ends _ hPhase | givesUp _ hPhase | crashes _ hPhase | retries _ _ hPhase
  | resumes hPhase | abandons hPhase => cases hCrashed.symm.trans hPhase

theorem not_isStopped_of_isActive (hActive : supervisor.isActive = true) :
    supervisor.isStopped = false := by
  unfold isActive at hActive
  unfold isStopped
  cases hPhase : supervisor.phase <;> simp [hPhase] at hActive ⊢

/-- A supervisor that nobody cancels goes on, unless a session ends and no attempt is left or the
draw fails. -/
theorem Turn.goes_on (hTurn : supervisor.Turn false state next after)
    (hActive : supervisor.isActive = true) :
    next.isActive = true ∨ ((∃ connected, supervisor.phase = .running connected) ∧
      (next.phase = .stopped ∧ next.backoff.mayRetry = false ∨
        next.phase = .crashed ∧ next.backoff.Crashes)) := by
  cases hTurn with
  | stays => exact .inl hActive
  | ends _ _ hCancelled | abandons _ hCancelled => cases hCancelled
  | givesUp error hPhase hPolicy hNone => exact .inr ⟨⟨_, hPhase⟩, .inl ⟨rfl, hNone⟩⟩
  | crashes error hPhase hPolicy hCrashes => exact .inr ⟨⟨_, hPhase⟩, .inr ⟨rfl, hCrashes⟩⟩
  | connects | retries | resumes => exact .inl rfl

theorem Turn.waiting_cases (hTurn : supervisor.Turn cancelled state next after) {due : Duration}
    (hWaits : next.phase = .waiting due) : next = supervisor ∨ cancelled = false := by
  cases hTurn with
  | stays => exact .inl rfl
  | retries error due hPhase hPolicy hWanted => exact .inr hWanted
  | connects | ends | givesUp | crashes | resumes | abandons => cases hWaits

end Supervisor

/-! ## Shared states -/

namespace FeedState

/-- The state agrees with the supervisors that share it. -/
structure Reports (state : FeedState) (supervisors : List Supervisor) : Prop where
  sessions : state.sessions = supervisors.countP (·.phase = .running true)
  connected : state.noted = .connected ↔ state.sessions ≠ 0
  connecting (hNoted : state.noted = .connecting) :
    ∃ supervisor ∈ supervisors, supervisor.phase = .running false

variable {state after : FeedState} {supervisors : List Supervisor} {supervisor next : Supervisor}
  {cancelled : Bool} {id : Nat}

theorem reports_new (kind : FeedKind) : Reports { kind := kind } [] where
  sessions := rfl
  connected := by simp
  connecting hNoted := by cases hNoted

/-- Only what the state has noted and counted matters. -/
theorem Reports.congr (hReports : state.Reports supervisors) (hNoted : after.noted = state.noted)
    (hSessions : after.sessions = state.sessions) : after.Reports supervisors where
  sessions := hSessions.trans hReports.sessions
  connected := by rw [hNoted, hSessions, hReports.connected]
  connecting hConnecting := hReports.connecting (hNoted ▸ hConnecting)

/-- A transition is noted only while no session is connected, so it hides none. -/
theorem reports_note {status : FeedStatus}
    (hSessions : state.sessions = supervisors.countP (·.phase = .running true))
    (hConnected : state.sessions ≠ 0 → state.noted = .connected) (hStatus : status ≠ .connected)
    (hConnecting : status = .connecting →
      ∃ supervisor ∈ supervisors, supervisor.phase = .running false) :
    (state.note status).Reports supervisors := by
  unfold note
  split
  · next hNone => exact ⟨hSessions, by simp [hNone, hStatus], hConnecting⟩
  · next hSome =>
    have hNoted := hConnected hSome
    refine ⟨hSessions, iff_of_true hNoted hSome, ?_⟩
    intro hOther
    cases hNoted.symm.trans hOther

theorem Reports.started (hReports : state.Reports supervisors) (policy : ReconnectPolicy)
    (cancelled : Bool) :
    (Supervisor.start policy cancelled state).2.Reports
      (supervisors ++ [(Supervisor.start policy cancelled state).1]) := by
  have hCount (started : Supervisor) (hPhase : started.phase ≠ .running true) :
      state.sessions = (supervisors ++ [started]).countP (·.phase = .running true) := by
    simpa [hPhase] using hReports.sessions
  rcases Supervisor.start_cases policy cancelled state with ⟨-, hStart⟩ | hStart
  · rw [hStart]
    refine ⟨hCount _ (by simp), hReports.connected, ?_⟩
    intro hNoted
    obtain ⟨other, hMem, hPhase⟩ := hReports.connecting hNoted
    exact ⟨other, List.mem_append_left _ hMem, hPhase⟩
  · rw [hStart]
    refine reports_note (hCount _ (by simp)) hReports.connected.mpr (by simp) ?_
    intro _
    exact ⟨_, List.mem_append_right _ (List.mem_singleton.mpr rfl), rfl⟩

/-- The session of a supervisor is over. -/
theorem Reports.ended (hReports : state.Reports supervisors)
    (hAt : supervisors[id]? = some supervisor) {connected : Bool}
    (hPhase : supervisor.phase = .running connected) (hNext : ∀ flag, next.phase ≠ .running flag)
    (error : Option String) : (state.ended connected error).Reports (supervisors.set id next) := by
  have hCount := countP_set_add (·.phase = .running true) next hAt
  have hSessions := hReports.sessions
  refine reports_note ?_ ?_ (by simp) (by simp)
  · simp only [hPhase, hNext true] at hCount
    cases connected <;> simp at hCount ⊢ <;> omega
  · intro hSome
    refine hReports.connected.mpr ?_
    intro hNone
    simp [hNone] at hSome

theorem Reports.turned (hReports : state.Reports supervisors)
    (hAt : supervisors[id]? = some supervisor)
    (hTurn : supervisor.Turn cancelled state next after) :
    after.Reports (supervisors.set id next) := by
  have hLt := (List.getElem?_eq_some_iff.mp hAt).1
  have hCount := countP_set_add (·.phase = .running true) next hAt
  have hSessions := hReports.sessions
  cases hTurn with
  | stays =>
    have hSame : supervisors.set id supervisor = supervisors := by
      rw [← (List.getElem?_eq_some_iff.mp hAt).2, List.set_getElem_self]
    rwa [hSame]
  | connects hPhase =>
    simp only [hPhase] at hCount
    refine ⟨?_, by simp [FeedState.connected], by simp [FeedState.connected]⟩
    simp [FeedState.connected] at hCount ⊢
    omega
  | ends error hPhase => exact hReports.ended hAt hPhase (by simp) error
  | givesUp error hPhase => exact hReports.ended hAt hPhase (by simp) error
  | crashes error hPhase => exact hReports.ended hAt hPhase (by simp) error
  | @retries connected backoff error due hPhase =>
    have hEnded : (state.ended connected error).Reports
        (supervisors.set id ⟨backoff, .waiting due⟩) :=
      hReports.ended hAt hPhase (by simp) error
    exact reports_note hEnded.sessions hEnded.connected.mpr (by simp) (by simp)
  | resumes hPhase =>
    simp only [hPhase] at hCount
    refine reports_note ?_ hReports.connected.mpr (by simp) ?_
    · simp at hCount ⊢
      omega
    · intro _
      exact ⟨_, List.mem_set hLt _, rfl⟩
  | abandons hPhase =>
    simp only [hPhase] at hCount
    refine ⟨?_, hReports.connected, ?_⟩
    · simp at hCount ⊢
      omega
    · intro hNoted
      obtain ⟨other, hMem, hRuns⟩ := hReports.connecting hNoted
      obtain ⟨place, hPlace⟩ := List.mem_iff_getElem?.mp hMem
      have hNe : id ≠ place := by
        rintro rfl
        obtain rfl := Option.some.inj (hAt.symm.trans hPlace)
        cases hPhase.symm.trans hRuns
      refine ⟨other, List.mem_iff_getElem?.mpr ⟨place, ?_⟩, hRuns⟩
      rw [List.getElem?_set_ne hNe, hPlace]

/-! ### What is reported -/

theorem Reports.of_status_connecting (hReports : state.Reports supervisors)
    (hStatus : state.status = .connecting) :
    ∃ supervisor ∈ supervisors, supervisor.phase = .running false := by
  unfold status at hStatus
  split at hStatus
  · cases hStatus
  · exact hReports.connecting hStatus

theorem Reports.status_connected_iff (hReports : state.Reports supervisors) :
    state.status = .connected ↔ ∃ supervisor ∈ supervisors, supervisor.phase = .running true := by
  have hCount : 0 < state.sessions ↔
      ∃ supervisor ∈ supervisors, supervisor.phase = .running true := by
    rw [hReports.sessions, List.countP_pos_iff]
    simp
  unfold status
  split
  · next hSome => exact iff_of_true rfl (hCount.mp hSome)
  · next hNone =>
    rw [hReports.connected, ← hCount]
    omega

theorem status_reconnecting_iff :
    state.status = .reconnecting ↔ state.sessions = 0 ∧ state.noted = .reconnecting := by
  unfold status
  split
  · next hSome => exact iff_of_false (by simp) fun hBoth => Nat.ne_of_gt hSome hBoth.1
  · next hNone =>
    rw [Nat.eq_zero_of_not_pos hNone]
    simp

/-- A transition of another kind is noted, unless a session is connected. -/
theorem not_reconnecting_of_note {status : FeedStatus} (hStatus : status ≠ .reconnecting) :
    (state.note status).status ≠ .reconnecting := by
  intro hReconnecting
  obtain ⟨hNone, hNoted⟩ := status_reconnecting_iff.mp hReconnecting
  rw [sessions_note] at hNone
  exact hStatus ((noted_note hNone status).symm.trans hNoted)

theorem start_reconnecting {policy : ReconnectPolicy}
    (hStatus : (Supervisor.start policy cancelled state).2.status = .reconnecting) :
    (Supervisor.start policy cancelled state).2 = state := by
  rcases Supervisor.start_cases policy cancelled state with ⟨-, hStart⟩ | hStart
  · rw [hStart]
  · rw [hStart] at hStatus
    exact absurd hStatus (not_reconnecting_of_note (by simp))

/-- After a step that leaves the state reconnecting, the supervisor waits, or the state is as it was
and the supervisor has not moved or has given up its wait. -/
theorem turn_reconnecting (hTurn : supervisor.Turn cancelled state next after)
    (hStatus : after.status = .reconnecting) :
    (∃ due, next.phase = .waiting due) ∨
      (after = state ∧ (next = supervisor ∨
        ((∃ due, supervisor.phase = .waiting due) ∧ next.phase = .stopped ∧
          cancelled = true))) := by
  have hEnded (connected : Bool) (error : Option String) :
      (state.ended connected error).status ≠ .reconnecting :=
    not_reconnecting_of_note (by simp)
  cases hTurn with
  | stays => exact .inr ⟨rfl, .inl rfl⟩
  | connects => cases hStatus
  | ends => exact absurd hStatus (hEnded _ _)
  | givesUp => exact absurd hStatus (hEnded _ _)
  | crashes => exact absurd hStatus (hEnded _ _)
  | retries error due => exact .inl ⟨due, rfl⟩
  | resumes => exact absurd hStatus (not_reconnecting_of_note (by simp))
  | abandons hPhase hCancelled => exact .inr ⟨rfl, .inr ⟨⟨_, hPhase⟩, rfl, hCancelled⟩⟩

end FeedState

end MarketGateway
