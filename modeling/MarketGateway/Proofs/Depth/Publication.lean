import MarketGateway.Proofs.Depth.Course

/-!
# When depth sessions publish

`Course.Lawful` says what a depth session publishes, whatever reaches it: nothing until its replica
is in step, one view at that moment, and one for each event that it hears from then on, in order,
each of them the top of the replica after that event (`Shows`).

`published_lawful` proves it, and that depth feeds follow such courses (`Feed.Follows`): the calls
come from the inputs of the feed in their order, and the feed ends when the course does.
-/

namespace MarketGateway.Depth

open Book

/-! ## Views -/

/-- The view shows the best levels of the replica that grew from a snapshot by some events, and the
time of the last of them. -/
structure Shows (symbol : String) (levels : Nat) (snapshot : Snapshot) (events : List DiffEvent)
    (view : View) : Prop where
  ofSymbol : view.symbol = symbol
  eventTime : lastTime? events = some view.eventTime
  best (side : Side) : sideOf view side =
    (((Replica.ofSnapshot symbol snapshot).advanceAll events).ranked side).take levels
  /-- The levels of the view stand in the order of their prices, -/
  order (side : Side) : side.InOrder (sideOf view side)
  /-- and so do all levels of the replica: the view leaves out the worse ones. -/
  ranked (side : Side) :
    side.InOrder (((Replica.ofSnapshot symbol snapshot).advanceAll events).ranked side)

theorem shows_ofReplica {symbol : String} {snapshot : Snapshot} {events : List DiffEvent}
    {time : Int64} (hTime : lastTime? events = some time) (levels : Nat) :
    Shows symbol levels snapshot events
      (View.ofReplica ((Replica.ofSnapshot symbol snapshot).advanceAll events) levels time) := by
  have hRanked (side : Side) :=
    ((Replica.ordered_ofSnapshot symbol snapshot).advanceAll events).inOrder_ranked side
  have hBest (side : Side) : sideOf
      (View.ofReplica ((Replica.ofSnapshot symbol snapshot).advanceAll events) levels time) side =
        (((Replica.ofSnapshot symbol snapshot).advanceAll events).ranked side).take levels := by
    cases side <;> rfl
  exact {
    ofSymbol := Replica.symbol_advanceAll _ events
    eventTime := hTime
    best := hBest
    order := fun side => hBest side ▸ (hRanked side).take levels
    ranked := hRanked }

/-! ## The law -/

namespace Course

variable {snapshot : Snapshot}

/-- What a session for so many levels of a symbol publishes, whatever reaches it. -/
structure Lawful (symbol : String) (levels capacity : Nat) : Prop where
  /-- Nothing is published before the replica is in step. -/
  silent (calls : List Call) (hOut : ∀ early, early <+: calls →
      (run symbol levels capacity early).session.sync.state ≠ .synced) :
    (run symbol levels capacity calls).published = []
  /-- The call that brings it in step publishes one view, and each event that is heard from then on
  publishes one more, in order, while the session does not end. -/
  live (early : List Call) (call : Call)
      (hOut : (run symbol levels capacity early).session.sync.state ≠ .synced)
      (hIn : (run symbol levels capacity (early ++ [call])).session.sync.state = .synced) :
    (run symbol levels capacity (early ++ [call])).failure = none ∧
    (run symbol levels capacity early).session.sync.buffer <:+ heard symbol early ∧
    ∃ snapshot applied,
      Bridge symbol early (run symbol levels capacity early).session.sync.buffer call snapshot
        applied ∧
      snapshot.BridgedBy applied ∧
      ∀ late, (run symbol levels capacity (early ++ call :: late)).failure = none →
        (run symbol levels capacity (early ++ call :: late)).session.sync.state = .synced ∧
        (run symbol levels capacity (early ++ call :: late)).session.sync.book =
          some ((Replica.ofSnapshot symbol snapshot).advanceAll (applied ++ heard symbol late)) ∧
        List.Forall₂ (Shows symbol levels snapshot)
          ((heard symbol late).inits.map (applied ++ ·))
          (run symbol levels capacity (early ++ call :: late)).published
  /-- It ends with the first call that is refused. -/
  ends (calls : List Call) (call : Call) :
    (run symbol levels capacity (calls ++ [call])).failure =
      (run symbol levels capacity calls).failure.or
        ((run symbol levels capacity calls).session.refusal? call)
  /-- From that call on nothing is published. -/
  settled (calls : List Call) (call : Call) (late : List Call)
      (hEnded : (run symbol levels capacity (calls ++ [call])).failure ≠ none) :
    (run symbol levels capacity (calls ++ call :: late)).published =
      (run symbol levels capacity calls).published

theorem shows_liveView {applied more : List DiffEvent} (hBridged : snapshot.BridgedBy applied)
    (levels : Nat) :
    Shows symbol levels snapshot (applied ++ more)
      (liveView symbol levels snapshot (applied ++ more)) := by
  obtain ⟨time, hTime⟩ : ∃ time, lastTime? (applied ++ more) = some time := by
    obtain ⟨first, hFirst, -⟩ := hBridged.append more
    cases hLast : (applied ++ more).getLast? with
    | none =>
      rw [List.getLast?_eq_none_iff.mp hLast] at hFirst
      cases hFirst
    | some last => exact ⟨last.eventTime, by rw [lastTime?, hLast]; rfl⟩
  rw [liveView, hTime]
  exact shows_ofReplica hTime levels

theorem lawful (symbol : String) (levels capacity : Nat) : Lawful symbol levels capacity where
  silent calls hOut := published_of_never_synced hOut
  live early call hOut hIn := by
    obtain ⟨snapshot, applied, hBridge, hBridged, hRun⟩ := run_bridge hOut hIn
    have hOpen : (run symbol levels capacity (early ++ [call])).failure = none := by
      rw [hRun]
      rfl
    have hFits : Fits symbol levels capacity early (run symbol levels capacity early).session := by
      rw [run_snoc] at hOpen
      exact fits_run (step_of_open hOpen).1
    refine ⟨hOpen, hFits.holds.buffer_suffix, snapshot, applied, hBridge, hBridged, ?_⟩
    intro late hLate
    rw [run_append_cons, hRun] at hLate ⊢
    rw [foldl_step_live hLate]
    refine ⟨rfl, rfl, ?_⟩
    rw [liveCourse, List.forall₂_map_left_iff, List.forall₂_map_right_iff, List.forall₂_same]
    intro more _
    exact shows_liveView hBridged levels
  ends calls call := by
    rw [run_snoc]
    exact failure_step _ call
  settled calls call late hEnded := by
    rw [run_append_cons, foldl_step_of_failed hEnded]
    rw [run_snoc] at hEnded ⊢
    exact published_step_of_ended hEnded

end Course

/-! ## Feeds -/

/-- The calls that an input can lead to. Any input may be the first after the bridge timeout. -/
def Input.calls : Input → List Call
  | .time _ => [.bridgeTimeout]
  | .snapshot (.ok taken) => [.snapshot taken]
  | .snapshot (.error _) => []
  | .feed (.frame text) => [.bridgeTimeout, .frame text]
  | .feed (.lost _) => [.bridgeTimeout]
  | .feed .cancelled => []

namespace Feed

variable {feed : Feed} {course : Course}

/-- The feed has the session of the course and published what it published, and it ended if the
course did. -/
structure Follows (feed : Feed) (course : Course) : Prop where
  session : feed.session = course.session
  published : feed.published = course.published
  failure : ∀ error, course.failure = some error → feed.phase = .ended (some error)

theorem failure_of_running (hFollows : feed.Follows course) (hRunning : feed.isOver = false) :
    course.failure = none := by
  cases hFailure : course.failure with
  | none => rfl
  | some error => simp [isOver, hFollows.failure error hFailure] at hRunning

theorem follows_open (feed : Feed) : feed.Follows ⟨feed.session, feed.published, none⟩ where
  session := rfl
  published := rfl
  failure _ hError := absurd hError (by simp)

theorem follows_finish (feed : Feed) (error : FeedError) :
    (feed.finish (some error)).Follows ⟨feed.session, feed.published, some error⟩ where
  session := rfl
  published := rfl
  failure _ hError := Option.some.inj hError ▸ rfl

theorem Follows.finish (hFollows : feed.Follows course) (hOpen : course.failure = none)
    (failure : Option FeedError) : (feed.finish failure).Follows course where
  session := hFollows.session
  published := hFollows.published
  failure error hError := absurd (hOpen.symm.trans hError) (by simp)

theorem Follows.proceed (hFollows : feed.Follows course) (hOpen : course.failure = none)
    (attempts : Nat) : (feed.proceed attempts).Follows course where
  session := (session_proceed feed attempts).trans hFollows.session
  published := (published_proceed feed attempts).trans hFollows.published
  failure error hError := absurd (hOpen.symm.trans hError) (by simp)

theorem frames_of_timeouts {calls : List Call} (hCalls : calls.Sublist [.bridgeTimeout]) :
    calls.filterMap Call.frame? = [] := by
  rw [List.filterMap_eq_nil_iff]
  intro call hCall
  rw [List.mem_singleton.mp (hCalls.subset hCall)]
  rfl

theorem Follows.checkBridge (hFollows : feed.Follows course) :
    ∃ calls : List Call, calls.Sublist [.bridgeTimeout] ∧
      feed.checkBridge.Follows (calls.foldl Course.step course) ∧
      (feed.checkBridge.isOver = false → feed.isOver = false) := by
  unfold Feed.checkBridge
  split
  · next attempt due hPhase =>
    have hRunning : feed.isOver = false := by rw [isOver, hPhase]
    split
    · have hOpen := failure_of_running hFollows hRunning
      refine ⟨[.bridgeTimeout], .refl _, Follows.proceed ⟨?_, ?_, ?_⟩ ?_ attempt, fun _ => hRunning⟩
      · simp [Course.step, hOpen, Session.take, adopt, hFollows.session]
      · simp [Course.step, hOpen, Session.take, adopt, hFollows.published]
      · simp [Course.step, hOpen, Session.take]
      · simp [Course.step, hOpen, Session.take]
    · exact ⟨[], List.nil_sublist _, hFollows, id⟩
  · exact ⟨[], List.nil_sublist _, hFollows, id⟩

theorem Follows.onFrame (hFollows : feed.Follows course) (hRunning : feed.isOver = false)
    (text : String) : (feed.onFrame text).Follows (course.step (.frame text)) := by
  have hOpen := failure_of_running hFollows hRunning
  unfold Feed.onFrame Course.step
  rw [hOpen]
  simp only [Session.take, ← hFollows.session, ← hFollows.published]
  generalize feed.session.onFrame text = result
  obtain ⟨outcome, session, effects⟩ := result
  cases outcome with
  | error error => exact follows_finish (feed.adopt session effects) error
  | ok _ =>
    have hNext := follows_open (feed.adopt session effects)
    dsimp only
    split
    · next hError => cases hError
    · split
      · exact hNext
      · exact hNext.proceed rfl _
    · exact hNext

theorem Follows.onSnapshot (hFollows : feed.Follows course) (hRunning : feed.isOver = false)
    (attempt : Nat) (taken : Snapshot) :
    (feed.onSnapshot attempt taken).Follows (course.step (.snapshot taken)) := by
  have hOpen := failure_of_running hFollows hRunning
  unfold Feed.onSnapshot Course.step
  rw [hOpen]
  simp only [Session.take, ← hFollows.session, ← hFollows.published]
  generalize feed.session.onSnapshot taken = result
  obtain ⟨outcome, session, effects⟩ := result
  have hNext := follows_open (feed.adopt session effects)
  cases outcome with
  | error error =>
    cases hStale : error.isStale with
    | true =>
      simp only [failureOf?, hStale, if_true]
      exact hNext.proceed rfl _
    | false =>
      simp only [failureOf?, hStale]
      exact follows_finish (feed.adopt session effects) (.desync error)
  | ok state =>
    cases state with
    | awaitingBridge => exact follows_open _
    | disconnected | connecting | synced => exact hNext.proceed rfl _

/-- A step makes some of the calls that its input can lead to, and takes a frame unless the feed
ends. -/
def Answers (course : Course) (feed next : Feed) (allowed : List Call) : Prop :=
  ∃ calls : List Call, calls.Sublist allowed ∧ next.Follows (calls.foldl Course.step course) ∧
    (next.isOver = false → feed.isOver = false ∧
      calls.filterMap Call.frame? = allowed.filterMap Call.frame?)

theorem answers_nothing (hFollows : feed.Follows course) : Answers course feed feed [] :=
  ⟨[], .refl _, hFollows, fun hRunning => ⟨hRunning, rfl⟩⟩

theorem Follows.step (hFollows : feed.Follows course) (input : Input) :
    Answers course feed (feed.step input) input.calls := by
  unfold Feed.step
  split
  · next now =>
    have hLater : ({ feed with now := max feed.now now } : Feed).Follows course :=
      ⟨hFollows.session, hFollows.published, hFollows.failure⟩
    obtain ⟨calls, hCalls, hNext, hOver⟩ := hLater.checkBridge
    refine ⟨calls, hCalls, hNext, fun hRunning => ⟨hOver hRunning, ?_⟩⟩
    exact frames_of_timeouts hCalls
  · next result =>
    have hFrames : [] = (Input.snapshot result).calls.filterMap Call.frame? := by
      cases result <;> rfl
    split
    · next attempt taken hPhase =>
      have hRunning : feed.isOver = false := by rw [isOver, hPhase]
      exact ⟨[.snapshot taken], .refl _, hFollows.onSnapshot hRunning attempt taken,
        fun _ => ⟨hRunning, rfl⟩⟩
    · next error hPhase =>
      have hRunning : feed.isOver = false := by rw [isOver, hPhase]
      exact ⟨[], .refl _, hFollows.finish (failure_of_running hFollows hRunning) _, nofun⟩
    · exact ⟨[], List.nil_sublist _, hFollows, fun hRunning => ⟨hRunning, hFrames⟩⟩
  · split
    · exact answers_nothing hFollows
    · next hRunning =>
      have hOpen := failure_of_running hFollows (Bool.eq_false_iff.mpr hRunning)
      exact ⟨[], .refl _, hFollows.finish hOpen _, nofun⟩
  · next error =>
    obtain ⟨calls, hCalls, hNext, hOver⟩ := hFollows.checkBridge
    dsimp only
    split
    · next hEnded =>
      exact ⟨calls, hCalls, hNext, fun hRunning => absurd (hEnded.symm.trans hRunning) (by decide)⟩
    · next hRunning =>
      have hOpen := failure_of_running hNext (Bool.eq_false_iff.mpr hRunning)
      exact ⟨calls, hCalls, hNext.finish hOpen _, nofun⟩
  · next text =>
    obtain ⟨calls, hCalls, hNext, hOver⟩ := hFollows.checkBridge
    dsimp only
    split
    · next hEnded =>
      exact ⟨calls, hCalls.trans (List.sublist_append_left [_] [_]), hNext,
        fun hRunning => absurd (hEnded.symm.trans hRunning) (by decide)⟩
    · next hRunning =>
      have hBefore := Bool.eq_false_iff.mpr hRunning
      refine ⟨calls ++ [.frame text], hCalls.append (.refl [Call.frame text]), ?_, ?_⟩
      · rw [List.foldl_append]
        exact hNext.onFrame hBefore text
      · intro _
        refine ⟨hOver hBefore, ?_⟩
        rw [List.filterMap_append, frames_of_timeouts hCalls]
        rfl

theorem follows_start (config : DepthConfig) (key : RoomKey)
    (connect : Except TransportError Unit) :
    (start config key connect).Follows
      (Course.run key.symbol (key.levels.getD defaultBookLevels) config.bufferCapacity []) where
  session := session_start config key connect
  published := by
    cases connect with
    | error error => rfl
    | ok opened => exact published_proceed _ 0
  failure _ hError := absurd hError (by simp [Course.run])

/-- The calls that reach the session of a feed are among those that its inputs can lead to, in
order, and none of the frames is missing while the feed has not ended. -/
theorem follows_run (config : DepthConfig) (key : RoomKey) (connect : Except TransportError Unit)
    (inputs : List Input) :
    ∃ calls : List Call, calls.Sublist (inputs.flatMap Input.calls) ∧
      (run config key connect inputs).Follows
        (Course.run key.symbol (key.levels.getD defaultBookLevels) config.bufferCapacity calls) ∧
      ((run config key connect inputs).isOver = false →
        calls.filterMap Call.frame? = (inputs.flatMap Input.calls).filterMap Call.frame?) := by
  induction inputs using List.reverseRecOn with
  | nil => exact ⟨[], .refl _, follows_start config key connect, fun _ => rfl⟩
  | append_singleton inputs input ih =>
    obtain ⟨calls, hCalls, hFollows, hFrames⟩ := ih
    obtain ⟨more, hMore, hNext, hLater⟩ := hFollows.step input
    have hStep : run config key connect (inputs ++ [input]) =
        (run config key connect inputs).step input := by
      simp only [run, List.foldl_append, List.foldl_cons, List.foldl_nil]
    have hInputs : (inputs ++ [input]).flatMap Input.calls =
        inputs.flatMap Input.calls ++ input.calls := by
      simp
    rw [hStep, hInputs]
    refine ⟨calls ++ more, hCalls.append hMore, ?_, ?_⟩
    · rw [Course.run_append]
      exact hNext
    · intro hRunning
      obtain ⟨hBefore, hSame⟩ := hLater hRunning
      rw [List.filterMap_append, List.filterMap_append, hFrames hBefore, hSame]

end Feed

/-- **A session publishes one view when it comes in step and one for each event after that.**
Whatever frames, snapshots and timeouts reach it in whatever order, nothing is published before, and
nothing from the first refused call on. Each view is the top of the replica at that moment, its levels in
order of their prices, with the time of the last event. The session of a depth feed follows such a
course under all inputs, and ends the feed when it ends. -/
theorem published_lawful :
    (∀ symbol levels capacity, Course.Lawful symbol levels capacity) ∧
    ∀ (config : DepthConfig) (key : RoomKey) (connect : Except TransportError Unit)
      (inputs : List Input), ∃ calls : List Call,
        calls.Sublist (inputs.flatMap Input.calls) ∧
        (Feed.run config key connect inputs).Follows
          (Course.run key.symbol (key.levels.getD defaultBookLevels) config.bufferCapacity calls) ∧
        ((Feed.run config key connect inputs).isOver = false →
          calls.filterMap Call.frame? = (inputs.flatMap Input.calls).filterMap Call.frame?) :=
  ⟨Course.lawful, Feed.follows_run⟩

/-- The removal is buffered until the snapshot comes: one view, after the replay. -/
theorem published_lawful_of_replay :
    (Course.run "BTCUSDT" 5 4 [.frame removal]).session.sync.state ≠ .synced ∧
    (Course.run "BTCUSDT" 5 4 ([.frame removal] ++ [.snapshot fiveBids])).session.sync.state =
      .synced ∧
    ∃ snapshot applied,
      Course.Bridge "BTCUSDT" [.frame removal]
        (Course.run "BTCUSDT" 5 4 [.frame removal]).session.sync.buffer (.snapshot fiveBids)
        snapshot applied ∧
      List.Forall₂ (Shows "BTCUSDT" 5 snapshot) [applied ++ []]
        (Course.run "BTCUSDT" 5 4 ([.frame removal] ++ [.snapshot fiveBids])).published := by
  have hOut : (Course.run "BTCUSDT" 5 4 [.frame removal]).session.sync.state ≠ .synced := by
    decide +kernel
  have hIn : (Course.run "BTCUSDT" 5 4
      ([.frame removal] ++ [.snapshot fiveBids])).session.sync.state = .synced := by
    decide +kernel
  obtain ⟨hOpen, -, snapshot, applied, hBridge, -, hLive⟩ :=
    (published_lawful.1 "BTCUSDT" 5 4).live [.frame removal] (.snapshot fiveBids) hOut hIn
  exact ⟨hOut, hIn, snapshot, applied, hBridge, (hLive [] hOpen).2.2⟩

end MarketGateway.Depth
