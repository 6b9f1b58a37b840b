import MarketGateway.Proofs.Book.Stream
import MarketGateway.Proofs.Depth.Call

/-!
# Courses of depth sessions

A course is a session from its start on, with the calls that reach it in any order (`Course.run`).
It ends with the first call that is refused.

While a course goes on, its session holds what came with the calls (`Fits`). It comes in step by an
event that bridges the snapshot that waits, or by a snapshot that an event of the buffer bridges
(`Bridge`), and is a live one from then on (`run_bridge`): it takes every event that it hears and
publishes a view for each (`foldl_step_live`).
-/

namespace MarketGateway.Depth

open Book

/-! ## Courses -/

/-- A session, what it published and how it ended. -/
structure Course where
  session : Session
  published : List View := []
  failure : Option FeedError := none

namespace Course

/-- Takes a call unless the session has ended. -/
def step (course : Course) (call : Call) : Course :=
  match course.failure with
  | some _ => course
  | none =>
    let (failure, session, news) := course.session.take call
    ⟨session, course.published ++ news, failure⟩

/-- A session for so many levels of a symbol, after the calls. -/
def run (symbol : String) (levels capacity : Nat) (calls : List Call) : Course :=
  calls.foldl step { session := .start symbol levels capacity }

end Course

/-! ## Runs of calls -/

namespace Course

variable {symbol : String} {levels capacity : Nat} {course : Course} {call : Call}
  {calls early late : List Call}

theorem run_append (symbol : String) (levels capacity : Nat) (calls more : List Call) :
    run symbol levels capacity (calls ++ more) =
      more.foldl step (run symbol levels capacity calls) :=
  List.foldl_append

theorem run_snoc (symbol : String) (levels capacity : Nat) (calls : List Call) (call : Call) :
    run symbol levels capacity (calls ++ [call]) =
      (run symbol levels capacity calls).step call := by
  rw [run_append]
  rfl

theorem run_append_cons (symbol : String) (levels capacity : Nat) (calls : List Call) (call : Call)
    (late : List Call) :
    run symbol levels capacity (calls ++ call :: late) =
      late.foldl step (run symbol levels capacity (calls ++ [call])) := by
  rw [List.append_cons, run_append]

theorem step_of_failed (hFailed : course.failure ≠ none) (call : Call) :
    course.step call = course := by
  unfold step
  split
  · rfl
  · next hNone => exact absurd hNone hFailed

theorem foldl_step_of_failed (hFailed : course.failure ≠ none) (calls : List Call) :
    calls.foldl step course = course := by
  induction calls with
  | nil => rfl
  | cons call rest ih =>
    rw [List.foldl_cons, step_of_failed hFailed]
    exact ih

/-- The two outcomes of a call that reaches the session. -/
theorem step_cases (hOpen : course.failure = none) (call : Call) :
    (course.session.refusal? call = none ∧ course.step call =
      ⟨course.session.after call, course.published ++ course.session.news call, none⟩) ∨
    ∃ error, course.session.refusal? call = some error ∧
      course.step call = ⟨course.session.after call, course.published, some error⟩ := by
  have hTakes := course.session.takes call
  unfold step
  rw [hOpen]
  generalize course.session.take call = outcome at hTakes
  cases hTakes with
  | goesOn hGoes => exact .inl ⟨hGoes, rfl⟩
  | @ends error hEnds => exact .inr ⟨error, hEnds, by simp⟩

theorem failure_step (course : Course) (call : Call) :
    (course.step call).failure = course.failure.or (course.session.refusal? call) := by
  cases hFailure : course.failure with
  | some error =>
    rw [step_of_failed (by simp [hFailure]), hFailure]
    rfl
  | none =>
    rcases step_cases hFailure call with ⟨hGoes, hStep⟩ | ⟨error, hEnds, hStep⟩
    · rw [hStep, hGoes]
      rfl
    · rw [hStep, hEnds]
      rfl

/-- A call that goes on found a session that had not ended. -/
theorem step_of_open (hOpen : (course.step call).failure = none) :
    course.failure = none ∧ course.session.refusal? call = none ∧ course.step call =
      ⟨course.session.after call, course.published ++ course.session.news call, none⟩ := by
  rw [failure_step, Option.or_eq_none_iff] at hOpen
  rcases step_cases hOpen.1 call with ⟨hGoes, hStep⟩ | ⟨error, hEnds, -⟩
  · exact ⟨hOpen.1, hGoes, hStep⟩
  · exact absurd (hEnds.symm.trans hOpen.2) (by simp)

theorem published_step_of_ended (hEnded : (course.step call).failure ≠ none) :
    (course.step call).published = course.published := by
  cases hFailure : course.failure with
  | some error => rw [step_of_failed (by simp [hFailure])]
  | none =>
    rcases step_cases hFailure call with ⟨-, hStep⟩ | ⟨error, -, hStep⟩
    · rw [hStep] at hEnded
      exact absurd rfl hEnded
    · rw [hStep]

/-! ## What a session holds -/

/-- The session is that of the symbol, and holds what came with the calls. -/
structure Fits (symbol : String) (levels capacity : Nat) (calls : List Call) (session : Session) :
    Prop where
  ofSymbol : session.symbol = symbol
  ofLevels : session.levels = levels
  holds : session.sync.Holds symbol (max capacity 1) (snapshots calls) (heard symbol calls)

theorem heard_append (symbol : String) (calls more : List Call) :
    heard symbol (calls ++ more) = heard symbol calls ++ heard symbol more :=
  List.filterMap_append

theorem snapshots_append (calls more : List Call) :
    snapshots (calls ++ more) = snapshots calls ++ snapshots more :=
  List.filterMap_append

theorem heard_singleton (symbol : String) (call : Call) :
    heard symbol [call] = (call.event? symbol).toList := by
  cases hEvent : call.event? symbol <;> simp [heard, hEvent]

theorem snapshots_singleton (call : Call) : snapshots [call] = call.snapshot?.toList := by
  cases hTaken : call.snapshot? <;> simp [snapshots, hTaken]

theorem fits_start (symbol : String) (levels capacity : Nat) :
    Fits symbol levels capacity [] (.start symbol levels capacity) :=
  ⟨rfl, rfl, .connecting List.nil_suffix (Nat.zero_le _)⟩

theorem Fits.after {session : Session} (hFits : Fits symbol levels capacity calls session)
    (call : Call) : Fits symbol levels capacity (calls ++ [call]) (session.after call) := by
  obtain ⟨rfl, rfl, hHolds⟩ := hFits
  refine ⟨rfl, rfl, ?_⟩
  rw [heard_append, snapshots_append, heard_singleton, snapshots_singleton]
  cases call with
  | frame text =>
    rw [Call.snapshot?, Option.toList_none, List.append_nil, Call.event?]
    cases hEvent : eventOf? session.symbol text with
    | none =>
      rw [Session.after_frame_of_none hEvent, Option.toList_none, List.append_nil]
      exact hHolds
    | some event =>
      rw [Session.after_frame hEvent]
      exact hHolds.ingest (Nat.le_max_right _ _) event
  | snapshot taken =>
    rw [Call.event?, Option.toList_none, List.append_nil]
    exact hHolds.onSnapshot (Nat.le_max_right _ _) taken
  | bridgeTimeout =>
    rw [Call.event?, Call.snapshot?, Option.toList_none, Option.toList_none, List.append_nil,
      List.append_nil]
    exact hHolds.onBridgeTimeout

theorem fits_run (hOpen : (run symbol levels capacity calls).failure = none) :
    Fits symbol levels capacity calls (run symbol levels capacity calls).session := by
  induction calls using List.reverseRecOn with
  | nil => exact fits_start symbol levels capacity
  | append_singleton calls call ih =>
    rw [run_snoc] at hOpen ⊢
    obtain ⟨hBefore, -, hStep⟩ := step_of_open hOpen
    rw [hStep]
    exact (ih hBefore).after call

/-! ## In step -/

/-- A session in step, with the replica that grew from a snapshot by the events. -/
def liveSession (symbol : String) (levels capacity : Nat) (snapshot : Snapshot)
    (events : List DiffEvent) : Session :=
  ⟨symbol, levels, ⟨symbol, .synced, max capacity 1, [],
    some ((Replica.ofSnapshot symbol snapshot).advanceAll events), lastTime? events⟩⟩

variable {snapshot : Snapshot} {events : List DiffEvent}

/-- The view of such a session. -/
def liveView (symbol : String) (levels : Nat) (snapshot : Snapshot) (events : List DiffEvent) :
    View :=
  View.ofReplica ((Replica.ofSnapshot symbol snapshot).advanceAll events) levels
    ((lastTime? events).getD 0)

theorem Fits.live {session : Session} (hFits : Fits symbol levels capacity calls session)
    (hState : session.sync.state = .synced) :
    ∃ snapshot ∈ snapshots calls, ∃ events,
      session = liveSession symbol levels capacity snapshot events := by
  obtain ⟨rfl, rfl, hHolds⟩ := hFits
  obtain ⟨snapshot, hTaken, events, -, -, hSync⟩ := hHolds.of_synced hState
  refine ⟨snapshot, hTaken, events, ?_⟩
  rw [liveSession, ← hSync]

/-- A session in step goes on with every event that it hears. -/
theorem live_after
    (hGoes : (liveSession symbol levels capacity snapshot events).refusal? call = none) :
    (liveSession symbol levels capacity snapshot events).after call =
      liveSession symbol levels capacity snapshot (events ++ heard symbol [call]) := by
  generalize hSession : liveSession symbol levels capacity snapshot events = session at hGoes ⊢
  have hSymbol : session.symbol = symbol := hSession ▸ rfl
  have hState : session.sync.state = .synced := hSession ▸ rfl
  rw [heard_singleton]
  cases call with
  | frame text =>
    rw [Call.event?, ← hSymbol]
    cases hEvent : eventOf? session.symbol text with
    | none =>
      rw [Session.after_frame_of_none hEvent, Option.toList_none, List.append_nil, hSymbol]
      exact hSession.symm
    | some event =>
      have hError := Session.errorOf?_of_event hEvent
      have hSpec := Synchronizer.ingest_spec session.sync event
      rw [Session.after_frame hEvent]
      simp only [Session.refusal?, hError, hEvent] at hGoes
      generalize session.sync.ingest event = outcome at hSpec hGoes
      cases hSpec with
      | applied _ hBook =>
        subst hSession
        obtain rfl := Option.some.inj hBook
        simp [liveSession]
      | refused => simp [failureOf?, SyncError.isStale] at hGoes
      | stopped hOther | overflow hOther | buffered hOther | bookless hOther | discarded hOther
      | stale hOther | bridged hOther | bridgeRefused hOther =>
        exact absurd (hState.symm.trans hOther) (by decide)
  | snapshot taken =>
    have hRefused : session.sync.onSnapshot taken =
        (.error (.unexpectedInput .snapshot .synced), session.sync) := by
      simp [Synchronizer.onSnapshot, hState]
    simp [Session.refusal?, hRefused, failureOf?, SyncError.isStale] at hGoes
  | bridgeTimeout =>
    have hSame : session.sync.onBridgeTimeout = session.sync := by
      simp [Synchronizer.onBridgeTimeout, hState]
    rw [Call.event?, Option.toList_none, List.append_nil, hSession]
    exact congrArg (fun sync => { session with sync := sync }) hSame

theorem live_news
    (hGoes : (liveSession symbol levels capacity snapshot events).refusal? call = none) :
    (liveSession symbol levels capacity snapshot events).news call =
      (heard symbol [call]).map fun event =>
        liveView symbol levels snapshot (events ++ [event]) := by
  have hAfter := live_after hGoes
  rw [heard_singleton] at hAfter ⊢
  cases hEvent : call.event? symbol with
  | none =>
    exact if_neg (by simp [liveSession, hEvent])
  | some event =>
    rw [hEvent] at hAfter
    have hNews : (liveSession symbol levels capacity snapshot events).news call =
        ((liveSession symbol levels capacity snapshot events).after call).view?.toList :=
      if_pos (.inr (by simp [liveSession, hEvent]))
    rw [hNews, hAfter]
    rfl

/-- A course in step, from the events that brought it there on. -/
def liveCourse (symbol : String) (levels capacity : Nat) (snapshot : Snapshot)
    (applied more : List DiffEvent) : Course where
  session := liveSession symbol levels capacity snapshot (applied ++ more)
  published := more.inits.map fun events => liveView symbol levels snapshot (applied ++ events)

/-- By induction on the calls: each event that is heard adds its view. -/
theorem foldl_step_live {applied : List DiffEvent}
    (hOpen : (late.foldl step (liveCourse symbol levels capacity snapshot applied [])).failure =
      none) :
    late.foldl step (liveCourse symbol levels capacity snapshot applied []) =
      liveCourse symbol levels capacity snapshot applied (heard symbol late) := by
  induction late using List.reverseRecOn with
  | nil => rfl
  | append_singleton late call ih =>
    rw [List.foldl_append, List.foldl_cons, List.foldl_nil] at hOpen ⊢
    obtain ⟨hBefore, hGoes, hStep⟩ := step_of_open hOpen
    rw [hStep]
    rw [ih hBefore] at hGoes ⊢
    have hInits : (heard symbol late ++ heard symbol [call]).inits =
        (heard symbol late).inits ++
          (heard symbol [call]).map fun event => heard symbol late ++ [event] := by
      rw [heard_singleton, List.inits_append]
      cases call.event? symbol <;> simp
    simp only [liveCourse, live_after hGoes, live_news hGoes, heard_append, hInits, List.map_append,
      List.map_map, List.append_assoc, Function.comp_def]

/-! ## Coming in step -/

/-- What brings a session in step: an event bridges the snapshot that waits, or a snapshot is
bridged by an event of the buffer and all events behind that one are applied. -/
inductive Bridge (symbol : String) (early : List Call) (buffer : List DiffEvent) :
    Call → Snapshot → List DiffEvent → Prop
  | live {text : String} {snapshot : Snapshot} {event : DiffEvent}
      (hTaken : snapshot ∈ snapshots early) (hEvent : eventOf? symbol text = some event) :
      Bridge symbol early buffer (.frame text) snapshot [event]
  | replayed {snapshot : Snapshot} {applied : List DiffEvent} (hBuffer : applied <:+ buffer) :
      Bridge symbol early buffer (.snapshot snapshot) snapshot applied

theorem Fits.bridge {session : Session} (hFits : Fits symbol levels capacity early session)
    (hOut : session.sync.state ≠ .synced) (hIn : (session.after call).sync.state = .synced) :
    ∃ snapshot applied, Bridge symbol early session.sync.buffer call snapshot applied ∧
      snapshot.BridgedBy applied ∧
      session.after call = liveSession symbol levels capacity snapshot applied := by
  obtain ⟨rfl, rfl, hHolds⟩ := hFits
  cases call with
  | frame text =>
    cases hEvent : eventOf? session.symbol text with
    | none =>
      rw [Session.after_frame_of_none hEvent] at hIn
      exact absurd hIn hOut
    | some event =>
      rw [Session.after_frame hEvent] at hIn ⊢
      obtain ⟨snapshot, hTaken, hBridged, hNext⟩ := hHolds.ingest_synced hOut hIn
      refine ⟨snapshot, [event], .live hTaken hEvent, hBridged, ?_⟩
      rw [hNext]
      rfl
  | snapshot taken =>
    obtain ⟨applied, hBridged, hApplied, hNext⟩ :=
      hHolds.onSnapshot_synced (Nat.le_max_right _ _) hOut hIn
    exact ⟨taken, applied, .replayed hApplied, hBridged,
      congrArg (fun sync => { session with sync := sync }) hNext⟩
  | bridgeTimeout => exact absurd (Session.synced_of_onBridgeTimeout hIn) hOut

/-- A session that has not come in step has published nothing, unless it ended. -/
theorem published_of_out (hOpen : (run symbol levels capacity calls).failure = none)
    (hOut : (run symbol levels capacity calls).session.sync.state ≠ .synced) :
    (run symbol levels capacity calls).published = [] := by
  induction calls using List.reverseRecOn with
  | nil => rfl
  | append_singleton calls call ih =>
    rw [run_snoc] at hOpen hOut ⊢
    obtain ⟨hBefore, hGoes, hStep⟩ := step_of_open hOpen
    rw [hStep] at hOut ⊢
    by_cases hState : (run symbol levels capacity calls).session.sync.state = .synced
    · obtain ⟨snapshot, -, events, hLive⟩ := (fits_run hBefore).live hState
      rw [hLive] at hGoes hOut
      rw [live_after hGoes] at hOut
      exact absurd rfl hOut
    · dsimp only
      rw [ih hBefore hState, Session.news_of_not_synced hOut]
      rfl

/-- Nothing is published before the replica is in step, and it stays so when the session ends. -/
theorem published_of_never_synced
    (hOut : ∀ early, early <+: calls →
      (run symbol levels capacity early).session.sync.state ≠ .synced) :
    (run symbol levels capacity calls).published = [] := by
  induction calls using List.reverseRecOn with
  | nil => rfl
  | append_singleton calls call ih =>
    have hBefore := ih fun early hEarly => hOut early (hEarly.trans (List.prefix_append _ _))
    have hAfter := hOut (calls ++ [call]) (List.prefix_rfl)
    rw [run_snoc] at hAfter ⊢
    cases hFailure : (run symbol levels capacity calls).failure with
    | some error =>
      rw [step_of_failed (by simp [hFailure])]
      exact hBefore
    | none =>
      rcases step_cases hFailure call with ⟨-, hStep⟩ | ⟨error, -, hStep⟩
      · rw [hStep] at hAfter ⊢
        dsimp only
        rw [hBefore, Session.news_of_not_synced hAfter]
        rfl
      · rw [hStep]
        exact hBefore

/-- The call that brings a course in step makes it a live one. -/
theorem run_bridge (hOut : (run symbol levels capacity early).session.sync.state ≠ .synced)
    (hIn : (run symbol levels capacity (early ++ [call])).session.sync.state = .synced) :
    ∃ snapshot applied,
      Bridge symbol early (run symbol levels capacity early).session.sync.buffer call snapshot
        applied ∧
      snapshot.BridgedBy applied ∧
      run symbol levels capacity (early ++ [call]) =
        liveCourse symbol levels capacity snapshot applied [] := by
  rw [run_snoc] at hIn ⊢
  have hOpen : (run symbol levels capacity early).failure = none := by
    by_contra hFailed
    rw [step_of_failed hFailed] at hIn
    exact hOut hIn
  rcases step_cases hOpen call with ⟨-, hStep⟩ | ⟨error, hEnds, hStep⟩
  · rw [hStep] at hIn ⊢
    obtain ⟨snapshot, applied, hBridge, hBridged, hAfter⟩ := (fits_run hOpen).bridge hOut hIn
    have hNews : (run symbol levels capacity early).session.news call =
        [liveView symbol levels snapshot applied] := by
      rw [Session.news, if_pos (.inl hOut), hAfter]
      rfl
    refine ⟨snapshot, applied, hBridge, hBridged, ?_⟩
    rw [published_of_out hOpen hOut, hAfter, hNews]
    simp [liveCourse]
  · rw [hStep] at hIn
    exact absurd (hEnds.symm.trans (Session.goesOn_of_synced hOut hIn)) (by simp)

end Course

end MarketGateway.Depth
