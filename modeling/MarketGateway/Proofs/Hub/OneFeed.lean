import MarketGateway.Proofs.Hub.Admission
import MarketGateway.Proofs.Hub.Supply

/-!
# One feed for each key

A feed is started by a subscription that joins an open room whose flag is unset, and by nothing
else. It goes on until its room is closed, it gives up (`Hub.GivesUp`) or it breaks down
(`Hub.BreaksDown`), and a room is not closed before its grace period is over. `Hub.Carries` says
this of a step.

With `Hub.Fed` and with one open room for each key at most it follows that a key has one feed at
most, even if a feed that gave up is started again and a room that was closed has been replaced by
another one. A feed that breaks down lets nobody know: its room is flagged without a feed that goes
on, and whoever joins it starts none (`one_feed_per_key_or_crashed`, `crashed_feed_keeps_flag`).
-/

namespace MarketGateway

variable {π : Type}

namespace Hub

variable {hub next : Hub π} {id : RoomId} {room : Room π} {place : TaskId} {task : FeedTask}
  {started : List RoomId}

/-- The rooms that feeds were started for, one after another. -/
def startedFor (hub : Hub π) : List RoomId := hub.tasks.map (·.room)

/-- A session of a feed ends, and no attempt is left. -/
def GivesUp (hub next : Hub π) (place : TaskId) : Prop :=
  ∃ task after connected, hub.tasks[place]? = some task ∧
    task.supervisor.phase = .running connected ∧ next.tasks[place]? = some after ∧
    after.supervisor.phase = .stopped ∧ after.supervisor.backoff.mayRetry = false

/-- A session of a feed ends, and the random part of the delay to the next one cannot be drawn. -/
def BreaksDown (hub next : Hub π) (place : TaskId) : Prop :=
  ∃ task after connected, hub.tasks[place]? = some task ∧
    task.supervisor.phase = .running connected ∧ next.tasks[place]? = some after ∧
    after.supervisor.phase = .crashed ∧ after.supervisor.backoff.Crashes

/-- A feed of a room goes on, and no other one has been started for the room since. -/
structure Lasts (hub next : Hub π) (place : TaskId) (id : RoomId) : Prop where
  active : ∃ after, next.tasks[place]? = some after ∧ after.room = id ∧
    after.supervisor.isActive = true
  alone : next.startedFor.count id = hub.startedFor.count id

/-! ## Every step -/

/-- What a step does to the feeds: it starts some, the others go on, and those that crashed stay
as they are. -/
structure Carries (hub next : Hub π) (started : List RoomId) : Prop where
  rooms : next.startedFor = hub.startedFor ++ started
  goesOn {place : TaskId} {task : FeedTask} (hTask : hub.tasks[place]? = some task)
      (hActive : task.supervisor.isActive = true) (hWanted : hub.stops task.room = false) :
    (∃ after, next.tasks[place]? = some after ∧ after.supervisor.isActive = true) ∨
      hub.GivesUp next place ∨ hub.BreaksDown next place
  wrecked {place : TaskId} {task : FeedTask} (hTask : hub.tasks[place]? = some task)
      (hCrashed : task.supervisor.phase = .crashed) : next.tasks[place]? = some task

theorem Carries.room_eq {after : FeedTask} (hCarries : hub.Carries next started)
    (hTask : hub.tasks[place]? = some task) (hAfter : next.tasks[place]? = some after) :
    after.room = task.room := by
  have hBefore : hub.startedFor[place]? = some task.room := by
    rw [startedFor, List.getElem?_map, hTask, Option.map_some]
  have hNow : next.startedFor[place]? = some after.room := by
    rw [startedFor, List.getElem?_map, hAfter, Option.map_some]
  rw [hCarries.rooms, List.getElem?_append_left (List.getElem?_eq_some_iff.mp hBefore).1,
    hBefore] at hNow
  exact (Option.some.inj hNow).symm

theorem carries_of_tasks (hTasks : next.tasks = hub.tasks) : hub.Carries next [] where
  rooms := by rw [startedFor, startedFor, hTasks, List.append_nil]
  goesOn {place task} hTask hActive _ := .inl ⟨task, hTasks ▸ hTask, hActive⟩
  wrecked {place task} hTask _ := hTasks ▸ hTask

/-- A step that starts no feed lets one of them move at most. -/
theorem Supervises.carries (hStep : hub.Supervises next)
    (hLength : next.tasks.length = hub.tasks.length) : hub.Carries next [] := by
  cases hStep with
  | keeps hTasks => exact carries_of_tasks hTasks
  | starts room cancelled hTasks =>
    rw [hTasks, List.length_append] at hLength
    simp at hLength
  | @turns turned before supervisor hBefore hTurn hTasks =>
    obtain ⟨hLt, hGet⟩ := List.getElem?_eq_some_iff.mp hBefore
    constructor
    · have hLtRooms : turned < (hub.tasks.map (·.room)).length := by simpa using hLt
      have hAt : (hub.tasks.map (·.room))[turned] = before.room := by rw [List.getElem_map, hGet]
      have hSame : (hub.tasks.map (·.room)).set turned before.room = hub.tasks.map (·.room) := by
        rw [← hAt, List.set_getElem_self]
      rw [startedFor, startedFor, hTasks, List.map_set, hSame, List.append_nil]
    · intro place task hTask hActive hWanted
      by_cases hPlace : turned = place
      · subst hPlace
        obtain rfl := Option.some.inj (hBefore.symm.trans hTask)
        have hAfter : next.tasks[turned]? = some { before with supervisor := supervisor } := by
          rw [hTasks, List.getElem?_set_self hLt]
        rw [hWanted] at hTurn
        rcases hTurn.goes_on hActive with hStill |
          ⟨⟨connected, hPhase⟩, ⟨hStopped, hNone⟩ | ⟨hCrashed, hDraw⟩⟩
        · exact .inl ⟨_, hAfter, hStill⟩
        · exact .inr (.inl ⟨before, _, connected, hTask, hPhase, hAfter, hStopped, hNone⟩)
        · exact .inr (.inr ⟨before, _, connected, hTask, hPhase, hAfter, hCrashed, hDraw⟩)
      · refine .inl ⟨task, ?_, hActive⟩
        rw [hTasks, List.getElem?_set_ne hPlace, hTask]
    · intro place task hTask hCrashed
      by_cases hPlace : turned = place
      · subst hPlace
        obtain rfl := Option.some.inj (hBefore.symm.trans hTask)
        rw [hTurn.of_crashed hCrashed] at hTasks
        rw [hTasks, List.getElem?_set_self hLt]
      · rw [hTasks, List.getElem?_set_ne hPlace, hTask]

theorem carries_connected (hub : Hub π) (place : TaskId) :
    hub.Carries (hub.connected place) [] := by
  refine (hub.supervises_connected place).carries ?_
  unfold connected
  split
  · exact List.length_set
  · rfl

theorem carries_ended (hub : Hub π) (place : TaskId) (error : Option FeedError)
    (offset : Binary64) : hub.Carries (hub.ended place error offset) [] := by
  refine (hub.supervises_ended place error offset).carries ?_
  unfold ended
  split
  · split
    · dsimp only
      rw [setTask_tasks]
      exact List.length_set
    · rfl
  · rfl

theorem carries_wake (hub : Hub π) (place : TaskId) : hub.Carries (hub.wake place) [] := by
  refine (hub.supervises_wake place).carries ?_
  unfold wake
  split
  · split
    · split
      · dsimp only
        rw [setTask_tasks]
        exact List.length_set
      · rfl
    · rfl
  · rfl

/-- By induction on the tasks that are let go. -/
theorem startedFor_release (hub : Hub π) : hub.release.startedFor = hub.startedFor := by
  unfold release
  generalize List.range hub.tasks.length = places
  induction places generalizing hub with
  | nil => rfl
  | cons place rest ih =>
    refine (ih _).trans ?_
    dsimp only
    split
    · split
      · exact (hub.carries_wake place).rooms.trans (List.append_nil _)
      · rfl
    · rfl

theorem carries_release (hub : Hub π) : hub.Carries hub.release [] where
  rooms := by rw [startedFor_release, List.append_nil]
  goesOn {place task} hTask hActive hWanted := by
    rcases hub.relents_release.tasks hTask with hKept | ⟨same, _, _, hSame, -, -, -, hStops⟩
    · exact .inl ⟨task, hKept, hActive⟩
    · obtain rfl := Option.some.inj (hTask.symm.trans hSame)
      exact absurd (hWanted.symm.trans hStops) (by decide)
  wrecked {place task} hTask hCrashed := by
    rcases hub.relents_release.tasks hTask with hKept | ⟨same, _, _, hSame, hWaits, -⟩
    · exact hKept
    · obtain rfl := Option.some.inj (hTask.symm.trans hSame)
      cases hCrashed.symm.trans hWaits

theorem stops_of_open (hLive : hub.cancelled = false) (hRoom : hub.rooms.get? id = some room)
    (hOpen : room.closed = false) : hub.stops id = false := by
  simp [stops, Rooms.isClosed, hLive, hRoom, hOpen]

theorem counts_startFeed (hWanted : hub.stops id = false) :
    (hub.startFeed id).holders id = hub.holders id + 1 ∧
      (hub.startFeed id).crashes id = hub.crashes id := by
  constructor
  · rw [holders, startFeed_tasks, List.countP_append, List.countP_singleton, holds_self, hWanted]
    rfl
  · rw [crashes, startFeed_tasks, List.countP_append, List.countP_singleton, hWanted]
    simp [FeedTask.crashedFor, Supervisor.start, Supervisor.enter, crashes]

/-- Who joins an open room starts its feed if there is none that has not stopped. -/
theorem carries_joining (hFed : hub.Fed) (hLive : hub.cancelled = false) (key : RoomKey)
    (client : ClientId) (mailbox : MailboxId) (hRoom : hub.rooms.get? id = some room)
    (hOpen : room.closed = false) :
    let after := (Operation.step (.subscribe key client mailbox (.joining id)) hub).2
    hub.Carries after (if hub.holders id = 0 then [id] else []) ∧ after.holders id = 1 ∧
      after.crashes id = hub.crashes id := by
  rw [step_subscribe, Subscribing.step]
  rcases hub.joinRoom_cases id client mailbox with ⟨_, -, -, -, hClosed⟩ |
    ⟨before, after, next, hJoin, hTouches, hTasks, -, hStill, -⟩
  · exact absurd (hOpen.symm.trans (hClosed room hRoom)) (by decide)
  · obtain rfl := Option.some.inj (hRoom.symm.trans hTouches.before)
    rw [hJoin]
    have hHolders : next.holders id = hub.holders id := by rw [holders, holders, hTasks]
    have hCrashes : next.crashes id = hub.crashes id := by rw [crashes, crashes, hTasks]
    have hOwn := hFed.holders hRoom hOpen
    cases hRunning : room.running with
    | false =>
      rw [hRunning] at hOwn
      have hNone : hub.holders id = 0 := hOwn
      have hWanted : next.stops id = false :=
        stops_of_open (hTouches.alters.cancelled.trans hLive) hTouches.after hStill
      obtain ⟨hMore, hSame⟩ := counts_startFeed hWanted
      have hKept {place : TaskId} {task : FeedTask} (hTask : hub.tasks[place]? = some task) :
          (next.startFeed id).tasks[place]? = some task := by
        rw [startFeed_tasks, hTasks]
        exact (List.getElem?_append_left (List.getElem?_eq_some_iff.mp hTask).1).trans hTask
      rw [if_pos hNone]
      refine ⟨⟨?_, ?_, fun hTask _ => hKept hTask⟩, ?_, hSame.trans hCrashes⟩
      · change (next.startFeed id).startedFor = _
        rw [startedFor, startFeed_tasks, hTasks, List.map_append]
        rfl
      · intro place task hTask hActive _
        exact .inl ⟨task, hKept hTask, hActive⟩
      · change (next.startFeed id).holders id = 1
        rw [hMore, hHolders, hNone]
    | true =>
      rw [hRunning] at hOwn
      have hOne : hub.holders id = 1 := hOwn
      rw [if_neg (by simp [hOne])]
      exact ⟨carries_of_tasks hTasks, hHolders.trans hOne, hCrashes⟩

theorem carries_broadcastTo (hub : Hub π) (id : RoomId) (payload : π) :
    hub.Carries (hub.broadcastTo id payload).2 [] := by
  unfold broadcastTo
  split <;> exact carries_of_tasks rfl

/-- Nothing else starts a feed. -/
theorem Operation.carries (operation : Operation π)
    (hOther : ∀ key client mailbox id room,
      operation = .subscribe key client mailbox (.joining id) → hub.rooms.get? id = some room →
      room.closed = true) :
    hub.Carries (operation.step hub).2 [] := by
  cases operation with
  | subscribe key client mailbox progress =>
    rw [step_subscribe]
    cases progress with
    | looking =>
      rw [Subscribing.step]
      split <;> exact carries_of_tasks rfl
    | joining id =>
      rw [Subscribing.step]
      rcases hub.joinRoom_cases id client mailbox with ⟨next, hJoin, -, hTasks, -⟩ |
        ⟨before, _, _, -, hTouches, -, hOpen, -⟩
      · rw [hJoin]
        exact carries_of_tasks hTasks
      · have hClosed := hOther key client mailbox id before rfl hTouches.before
        exact absurd (hOpen.symm.trans hClosed) (by decide)
    | discarding | done => exact carries_of_tasks rfl
  | leave id client =>
    rw [step_leave, leaveRoom]
    split <;> exact carries_of_tasks rfl
  | unsubscribe | broadcast | read | schedule => exact carries_of_tasks rfl
  | send id payload => exact hub.carries_broadcastTo id payload
  | publish id payload =>
    have hSent := carries_broadcastTo { hub with state := hub.state.message } id payload
    exact ⟨hSent.rooms, hSent.goesOn, hSent.wrecked⟩
  | teardown id generation =>
    have hClose : hub.Carries (hub.closeIfIdle id generation).2 [] := by
      unfold closeIfIdle
      split <;> exact carries_of_tasks rfl
    rw [Operation.step]
    split
    · exact carries_of_tasks rfl
    · generalize hub.closeIfIdle id generation = result at hClose
      obtain ⟨closed, next⟩ := result
      cases closed <;> exact hClose
  | remove id =>
    have hRelease := (hub.removeIfSame id).carries_release
    exact ⟨hRelease.rooms, hRelease.goesOn, hRelease.wrecked⟩

/-- An open room has no second feed that has not stopped. -/
theorem Fed.place_eq (hFed : hub.Fed) {other : TaskId} {same : FeedTask}
    (hTask : hub.tasks[place]? = some task) (hSame : hub.tasks[other]? = some same)
    (hActive : task.supervisor.phase ≠ .stopped) (hOther : same.supervisor.phase ≠ .stopped)
    (hRooms : task.room = same.room) (hRoom : hub.rooms.get? same.room = some room)
    (hOpen : room.closed = false) : place = other := by
  have hOne : hub.holders same.room ≤ 1 := by
    rw [hFed.holders hRoom hOpen]
    split <;> decide
  refine eq_of_countP_le_one hOne hTask ?_ hSame ?_
  · simpa [FeedTask.holds, Supervisor.isStopped, hRooms] using hActive
  · simpa [FeedTask.holds, Supervisor.isStopped] using hOther

namespace Traffic

variable {traffic : Traffic π} {move : Move π}

/-- The move is the step of a subscription that joins this room, which is open. -/
def Joins (traffic : Traffic π) (move : Move π) (id : RoomId) : Prop :=
  ∃ index key client mailbox room, move = .go index ∧
    traffic.operations[index]? = some (.subscribe key client mailbox (.joining id)) ∧
    traffic.hub.rooms.get? id = some room ∧ room.closed = false

theorem carries_joins (hFed : traffic.hub.Fed) (hLive : traffic.hub.cancelled = false)
    (hJoins : traffic.Joins move id) :
    traffic.hub.Carries (traffic.step move).hub
        (if traffic.hub.holders id = 0 then [id] else []) ∧
      (traffic.step move).hub.holders id = 1 ∧
      (traffic.step move).hub.crashes id = traffic.hub.crashes id := by
  obtain ⟨index, key, client, mailbox, room, rfl, hOperation, hRoom, hOpen⟩ := hJoins
  rw [(step_go hOperation).1]
  exact carries_joining hFed hLive key client mailbox hRoom hOpen

theorem carries_step (traffic : Traffic π) (hOther : ∀ id, ¬ traffic.Joins move id) :
    traffic.hub.Carries (traffic.step move).hub [] := by
  cases move with
  | request | wait | mailboxes => exact carries_of_tasks rfl
  | go index =>
    cases hIndex : traffic.operations[index]? with
    | none =>
      rw [step, hIndex]
      exact carries_of_tasks rfl
    | some operation =>
      rw [(step_go hIndex).1]
      refine operation.carries ?_
      rintro key client mailbox id room rfl hRoom
      by_contra hOpen
      exact hOther id ⟨index, key, client, mailbox, room, rfl, hIndex, hRoom, by simpa using hOpen⟩
  | fire index =>
    obtain ⟨timers, hHub | ⟨place, hHub⟩⟩ := traffic.step_fire index <;> rw [hHub]
    · exact carries_of_tasks rfl
    · have hWake := carries_wake { traffic.hub with timers := timers } place
      exact ⟨hWake.rooms, hWake.goesOn, hWake.wrecked⟩
  | connected place => exact traffic.hub.carries_connected place
  | ended place error offset => exact traffic.hub.carries_ended place error offset
  | wake place => exact traffic.hub.carries_wake place

/-- A feed is started only for a room without one that has not stopped. -/
theorem exists_carries (hFed : traffic.hub.Fed) (hLive : traffic.hub.cancelled = false)
    (move : Move π) :
    ∃ started, traffic.hub.Carries (traffic.step move).hub started ∧
      ∀ id ∈ started, traffic.hub.holders id = 0 := by
  by_cases hJoins : ∃ id, traffic.Joins move id
  · obtain ⟨id, hJoins⟩ := hJoins
    refine ⟨_, (carries_joins hFed hLive hJoins).1, ?_⟩
    intro other hOther
    split at hOther
    · next hNone =>
      rw [List.mem_singleton.mp hOther]
      exact hNone
    · cases hOther
  · refine ⟨[], traffic.carries_step (not_exists.mp hJoins), ?_⟩
    intro other hOther
    cases hOther

/-! ## Every run -/

variable {kind : FeedKind} {config : HubConfig} {moves early : List (Move π)}

/-- A feed has given up or broken down since an earlier moment. -/
def EndedSince (kind : FeedKind) (config : HubConfig) (early moves : List (Move π))
    (place : TaskId) : Prop :=
  ∃ middle move, early <+: middle ∧ middle ++ [move] <+: moves ∧
    ((run kind config middle).hub.GivesUp (run kind config (middle ++ [move])).hub place ∨
      (run kind config middle).hub.BreaksDown (run kind config (middle ++ [move])).hub place)

/-- By induction on the moves. -/
theorem sound_run (kind : FeedKind) (config : HubConfig) (moves : List (Move π)) :
    (run kind config moves).hub.Sound config.reconnect := by
  induction moves using List.reverseRecOn with
  | nil => exact fun task hMem => absurd hMem List.not_mem_nil
  | append_singleton moves move ih =>
    have hSound := ((run kind config moves).tends move).sound
    rw [(config_run kind config moves).1] at hSound
    rw [run_snoc]
    exact hSound ih

/-- Under a policy whose random part can be drawn whatever the delay, no feed crashes. -/
theorem no_crash_of_draws (hDraws : ∀ delay, config.reconnect.draws delay = true) (id : RoomId) :
    (run kind config moves).hub.crashes id = 0 := by
  refine List.countP_eq_zero.mpr ?_
  intro task hMem hFor
  have hCrashed : task.supervisor.phase = .crashed := by
    simp only [FeedTask.crashedFor, Bool.and_eq_true, decide_eq_true_eq] at hFor
    exact hFor.2
  obtain ⟨hPolicy, hCrashes⟩ := sound_run kind config moves task hMem
  have hFails := (hCrashes hCrashed).2
  rw [hPolicy, hDraws] at hFails
  cases hFails

/-- By induction on the moves that come later: a feed that crashed is never heard of again. -/
theorem wrecked_run (hTask : (run kind config moves).hub.tasks[place]? = some task)
    (hCrashed : task.supervisor.phase = .crashed) (later : List (Move π)) :
    (run kind config (moves ++ later)).hub.tasks[place]? = some task := by
  induction later using List.reverseRecOn with
  | nil => rwa [List.append_nil]
  | append_singleton later move ih =>
    rw [← List.append_assoc, run_snoc]
    obtain ⟨_, hCarries, -⟩ := exists_carries (fed_run kind config (moves ++ later))
      (config_run kind config (moves ++ later)).2 move
    exact hCarries.wrecked ih hCrashed

/-- A room with a member is open until the grace period is over. -/
theorem open_within_grace (hEarly : early <+: moves)
    (hOccupied : (run kind config early).Occupied id)
    (hSoon : (run kind config moves).hub.now <
      (run kind config early).hub.now + config.gracePeriod) :
    ∃ room, (run kind config moves).hub.rooms.get? id = some room ∧ room.closed = false := by
  obtain ⟨late, rfl⟩ := hEarly
  induction late using List.reverseRecOn with
  | nil =>
    obtain ⟨room, hRoom, hSome⟩ := hOccupied
    rw [List.append_nil]
    exact ⟨room, hRoom, (tidy_run kind config early).indexed.open_of_member hRoom hSome⟩
  | append_singleton late move ih =>
    rw [← List.append_assoc] at hSoon ⊢
    have hShifts := run_shifts kind config (early ++ late) move
    have hNow := hShifts.now
    obtain ⟨before, hBefore, hOpen⟩ := ih (Nat.lt_of_le_of_lt hNow hSoon)
    obtain ⟨room, hRoom, -⟩ := hShifts.rooms hBefore
    refine ⟨room, hRoom, ?_⟩
    by_contra hClosed
    have hAfter := closedAfterGrace hBefore hOpen hRoom (by simpa using hClosed)
    have hLate := hAfter.vacant early (List.prefix_append _ _) hOccupied
    exact Nat.lt_irrefl _ (Nat.lt_of_le_of_lt (Nat.le_trans hLate hNow) hSoon)

/-- By induction on the moves that come later, during which the room is open. -/
theorem lasts_or_ended (hEarly : early <+: moves)
    (hTask : (run kind config early).hub.tasks[place]? = some task)
    (hActive : task.supervisor.isActive = true)
    (hRoom : (run kind config moves).hub.rooms.get? task.room = some room)
    (hOpen : room.closed = false) :
    (run kind config early).hub.Lasts (run kind config moves).hub place task.room ∨
      EndedSince kind config early moves place := by
  obtain ⟨late, rfl⟩ := hEarly
  induction late using List.reverseRecOn generalizing room with
  | nil =>
    rw [List.append_nil]
    exact .inl ⟨⟨task, hTask, rfl, hActive⟩, rfl⟩
  | append_singleton late move ih =>
    rw [← List.append_assoc] at hRoom ⊢
    have hFed := fed_run kind config (early ++ late)
    have hLive := (config_run kind config (early ++ late)).2
    have hMade := (fed_run kind config early).made task (List.mem_of_getElem? hTask)
    obtain ⟨first, hFirst⟩ := Option.ne_none_iff_exists'.mp hMade
    obtain ⟨before, hBefore, -⟩ :=
      (run_evolves kind config (List.prefix_append early late)).rooms hFirst
    have hBeforeOpen : before.closed = false := by
      obtain ⟨after, hAfter, hChange⟩ := (run_shifts kind config _ move).rooms hBefore
      obtain rfl := Option.some.inj (hRoom.symm.trans hAfter)
      exact hChange.evolves.was_open hOpen
    rcases ih hBeforeOpen hBefore with
      ⟨⟨now, hNow, hSame, hStill⟩, hCount⟩ | ⟨middle, last, hMiddle, hLast, hEnds⟩
    · obtain ⟨started, hCarries, hNone⟩ := exists_carries hFed hLive move
      rw [← run_snoc] at hCarries
      have hWanted : (run kind config (early ++ late)).hub.stops now.room = false := by
        rw [hSame]
        exact stops_of_open hLive hBefore hBeforeOpen
      rcases hCarries.goesOn hNow hStill hWanted with ⟨after, hAfter, hOn⟩ | hEnds
      · refine .inl ⟨⟨after, hAfter, (hCarries.room_eq hNow hAfter).trans hSame, hOn⟩, ?_⟩
        -- What is started is started for other rooms, since this one has a feed.
        have hPos := holders_pos hNow (Supervisor.not_isStopped_of_isActive hStill)
        have hAbsent : task.room ∉ started := by
          intro hMem
          rw [hSame, hNone _ hMem] at hPos
          exact Nat.lt_irrefl _ hPos
        rw [hCarries.rooms, List.count_append, hCount, List.count_eq_zero.mpr hAbsent,
          Nat.add_zero]
      · exact .inr ⟨early ++ late, move, List.prefix_append _ _, List.prefix_rfl, hEnds⟩
    · exact .inr ⟨middle, last, hMiddle, hLast.trans (List.prefix_append _ _), hEnds⟩

/-- **A key has one feed at most, and a flag that stands for none stands for a crash.** After every
run an open room has no feed that goes on if it is not flagged as running. If it is, it has one, or
one that crashed: its policy has a random part that cannot be drawn, and it stays as it is for good.
To join an open room starts a feed just if the room has neither, after which it has one; nothing
else starts a feed. A feed whose room had a member less than a grace period ago has gone on up to
now, with no other one started for its room, unless it gave up or broke down. And two feeds that
have not stopped in open rooms of the same key are the same one. -/
theorem one_feed_per_key_or_crashed (kind : FeedKind) (config : HubConfig)
    (moves : List (Move π)) :
    let hub := (run kind config moves).hub
    (∀ id room, hub.rooms.get? id = some room → room.closed = false →
      hub.feeds id + hub.crashes id = if room.running then 1 else 0) ∧
    (∀ (place : TaskId) (task : FeedTask), hub.tasks[place]? = some task →
      task.supervisor.phase = .crashed →
      task.supervisor.backoff.policy = config.reconnect ∧ task.supervisor.backoff.Crashes ∧
      ∀ later, (run kind config (moves ++ later)).hub.tasks[place]? = some task) ∧
    (∀ move id, (run kind config moves).Joins move id →
      let after := (run kind config (moves ++ [move])).hub
      after.startedFor =
        hub.startedFor ++ (if hub.feeds id + hub.crashes id = 0 then [id] else []) ∧
      after.feeds id + after.crashes id = 1 ∧ after.crashes id = hub.crashes id) ∧
    (∀ move, (∀ id, ¬ (run kind config moves).Joins move id) →
      (run kind config (moves ++ [move])).hub.startedFor = hub.startedFor) ∧
    (∀ early recent place task, early <+: moves → recent <+: moves →
      (run kind config early).hub.tasks[place]? = some task → task.supervisor.isActive = true →
      (run kind config recent).Occupied task.room →
      hub.now < (run kind config recent).hub.now + config.gracePeriod →
      (run kind config early).hub.Lasts hub place task.room ∨
        EndedSince kind config early moves place) ∧
    ∀ (place other : TaskId) (task same : FeedTask) (room next : Room π),
      hub.tasks[place]? = some task → hub.tasks[other]? = some same →
      task.supervisor.phase ≠ .stopped → same.supervisor.phase ≠ .stopped →
      hub.rooms.get? task.room = some room → hub.rooms.get? same.room = some next →
      room.closed = false → next.closed = false → room.key = next.key → place = other := by
  have hFed := fed_run kind config moves
  have hLive := (config_run kind config moves).2
  have hIndexed := (tidy_run kind config moves).indexed
  refine ⟨?_, ?_, ?_, ?_, ?_, ?_⟩
  · intro id room hRoom hOpen
    rw [← holders_eq]
    exact hFed.holders hRoom hOpen
  · intro place task hTask hCrashed
    obtain ⟨hPolicy, hDraw⟩ := sound_run kind config moves task (List.mem_of_getElem? hTask)
    exact ⟨hPolicy, hDraw hCrashed, wrecked_run hTask hCrashed⟩
  · intro move id hJoins
    obtain ⟨hCarries, hOne, hSame⟩ := carries_joins hFed hLive hJoins
    rw [run_snoc, ← holders_eq]
    exact ⟨hCarries.rooms, (holders_eq _ id).symm.trans hOne, hSame⟩
  · intro move hOther
    rw [run_snoc]
    exact ((run kind config moves).carries_step hOther).rooms.trans (List.append_nil _)
  · intro early recent place task hEarly hRecent hTask hActive hOccupied hSoon
    obtain ⟨room, hRoom, hOpen⟩ := open_within_grace hRecent hOccupied hSoon
    exact lasts_or_ended hEarly hTask hActive hRoom hOpen
  · intro place other task same room next hTask hSame hActive hOther hRoom hNext hOpen hStill hKey
    have hFirst := hIndexed.find?_of_open hRoom hOpen
    have hSecond := hIndexed.find?_of_open hNext hStill
    rw [hKey] at hFirst
    have hRooms : task.room = same.room := Option.some.inj (hFirst.symm.trans hSecond)
    exact hFed.place_eq hTask hSame hActive hOther hRooms hNext hStill

/-! ## A feed that is started again -/

def oneRetry : HubConfig := ⟨10, { ReconnectPolicy.immediate 1 with maxAttempts := 1 }⟩

/-- The feed of the first client fails twice and gives up. A second client joins, both leave, and
the first one comes back after four units of time. -/
def restartMoves : List (Move Nat) :=
  let refused := some (FeedError.transport "refused")
  [.request (.subscribe priceRoom 1 0), .go 0, .go 0,
    .ended 0 refused .zero, .wait 1, .wake 0, .ended 0 refused .zero,
    .request (.subscribe priceRoom 2 1), .go 0, .go 0,
    .request (.unsubscribe priceRoom 1), .go 0, .go 0,
    .request (.unsubscribe priceRoom 2), .go 0, .go 0, .go 0,
    .wait 4, .request (.subscribe priceRoom 1 2), .go 0, .go 0]

/-- The second client starts the feed again, and the first one finds that one running. -/
theorem one_feed_per_key_of_restart :
    (run .markPrice oneRetry (restartMoves.take 9)).hub.feeds 0 = 0 ∧
    (run .markPrice oneRetry (restartMoves.take 10)).hub.startedFor = [0, 0] ∧
    (run .markPrice oneRetry (restartMoves.take 10)).hub.Lasts
      (run .markPrice oneRetry restartMoves).hub 1 0 := by
  obtain ⟨-, -, hJoin, -⟩ := one_feed_per_key_or_crashed .markPrice oneRetry (restartMoves.take 9)
  obtain ⟨-, -, -, -, hLasts, -⟩ := one_feed_per_key_or_crashed .markPrice oneRetry restartMoves
  have hNone : (run .markPrice oneRetry (restartMoves.take 9)).hub.feeds 0 = 0 := by
    decide +kernel
  have hWhole : (run .markPrice oneRetry (restartMoves.take 9)).hub.crashes 0 = 0 := by
    decide +kernel
  have hJoins : (run .markPrice oneRetry (restartMoves.take 9)).Joins (.go 0) 0 :=
    ⟨0, priceRoom, 2, 1, { key := priceRoom, members := [(1, 0)], generation := 1 }, rfl, rfl,
      by decide +kernel, rfl⟩
  have hStarted := (hJoin (.go 0) 0 hJoins).1
  rw [hNone, hWhole] at hStarted
  refine ⟨hNone, hStarted.trans (by decide +kernel), ?_⟩
  let running : FeedTask := ⟨0, ⟨.new oneRetry.reconnect, .running false⟩⟩
  have hTask : (run .markPrice oneRetry (restartMoves.take 10)).hub.tasks[1]? = some running := by
    decide +kernel
  have hOccupied : (run .markPrice oneRetry (restartMoves.take 10)).Occupied 0 :=
    ⟨{ key := priceRoom, members := [(1, 0), (2, 1)], running := true, generation := 2 },
      by decide +kernel, by decide⟩
  refine (hLasts _ _ 1 running (List.take_prefix 10 _) (List.take_prefix 10 _) hTask (by decide)
    hOccupied (by decide +kernel)).resolve_right ?_
  -- At no moment the second feed is over.
  have hRuns : ∀ n < restartMoves.length + 1,
      ((run .markPrice oneRetry (restartMoves.take n)).hub.tasks[1]?).all
        (·.supervisor.isActive) = true := by decide +kernel
  rintro ⟨middle, move, -, hLate, hEnds⟩
  have hRunning := hRuns _ (Nat.lt_succ_of_le hLate.length_le)
  rw [← List.prefix_iff_eq_take.mp hLate] at hRunning
  rcases hEnds with ⟨_, after, _, -, -, hAfter, hPhase, -⟩ | ⟨_, after, _, -, -, hAfter, hPhase, -⟩
  all_goals
    rw [hAfter] at hRunning
    simp [Supervisor.isActive, hPhase] at hRunning

/-- A random part whose width is no number. -/
def undrawable : HubConfig := ⟨10, { ReconnectPolicy.immediate 1 with jitter := .nan }⟩

/-- The first session of the feed is refused, and then another client joins. -/
def crashMoves : List (Move Nat) :=
  [.request (.subscribe priceRoom 1 0), .go 0, .go 0,
    .ended 0 (some (.transport "refused")) .zero,
    .request (.subscribe priceRoom 2 1), .go 0, .go 0]

/-- The room is open and flagged as running, no feed goes on in it, and the second client starts
none. -/
theorem crashed_feed_keeps_flag :
    let hub := (run .markPrice undrawable crashMoves).hub
    (hub.rooms.get? 0).map (fun room => (room.closed, room.members.length, room.running)) =
      some (false, 2, true) ∧
    hub.feeds 0 = 0 ∧ hub.crashes 0 = 1 ∧ hub.startedFor = [0] := by
  decide +kernel

end Traffic

end Hub

end MarketGateway
