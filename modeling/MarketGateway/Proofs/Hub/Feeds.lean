import MarketGateway.Health
import MarketGateway.Proofs.Feed.Supervisor
import MarketGateway.Proofs.Hub.Grace
import MarketGateway.Proofs.Hub.Operations

/-!
# What a hub reports of its feeds

All supervisors of a hub write to one `FeedState`. `Traffic.Event` adds to the moves of a hub that
it is cancelled or shut down at any moment, after which each supervisor notices for itself, and
`Traffic.course` is a hub after some events.

`reported_state_true_or_left_over` says how far the reported state can be believed. A feed is
connected just while a session is, and connecting only while a session is under way. It is
reconnecting while a supervisor waits, and also after one gave up its wait because its room stopped
(`Hub.Abandons`): that is the only way to stop that notes nothing, so the state stays until another
supervisor notes something (`Traffic.LeftOver`).
-/

namespace MarketGateway

variable {π : Type}

namespace Hub

variable {hub next last : Hub π}

def supervisors (hub : Hub π) : List Supervisor := hub.tasks.map (·.supervisor)

/-- Some supervisor waits out a delay. -/
def Waits (hub : Hub π) : Prop := ∃ task ∈ hub.tasks, ∃ due, task.supervisor.phase = .waiting due

/-- A supervisor gives up its wait as its room stops. -/
def Abandons (hub next : Hub π) (id : TaskId) : Prop :=
  ∃ task after due, hub.tasks[id]? = some task ∧ task.supervisor.phase = .waiting due ∧
    next.tasks[id]? = some after ∧ after.supervisor.phase = .stopped ∧ hub.stops task.room = true

/-! ## One step of a supervisor -/

/-- What a step can do to the supervisors of a hub and to the state that they share. -/
inductive Supervises (hub next : Hub π) : Prop
  | keeps (hTasks : next.tasks = hub.tasks) (hNoted : next.state.noted = hub.state.noted)
      (hSessions : next.state.sessions = hub.state.sessions)
  | starts (room : RoomId) (cancelled : Bool)
      (hTasks : next.tasks =
        hub.tasks ++ [⟨room, (Supervisor.start hub.config.reconnect cancelled hub.state).1⟩])
      (hState : next.state = (Supervisor.start hub.config.reconnect cancelled hub.state).2)
  | turns {id : TaskId} {task : FeedTask} {supervisor : Supervisor}
      (hTask : hub.tasks[id]? = some task)
      (hTurn : task.supervisor.Turn (hub.stops task.room) hub.state supervisor next.state)
      (hTasks : next.tasks = hub.tasks.set id { task with supervisor := supervisor })

theorem Supervises.refl (hub : Hub π) : hub.Supervises hub := .keeps rfl rfl rfl

@[simp] theorem setTask_tasks (hub : Hub π) (id : TaskId) (room : RoomId) (supervisor : Supervisor)
    (state : FeedState) :
    (hub.setTask id room supervisor state).tasks = hub.tasks.set id ⟨room, supervisor⟩ := by
  unfold setTask
  split
  · rfl
  · rfl
  · rfl
  · dsimp only
    split <;> rfl

@[simp] theorem setTask_state (hub : Hub π) (id : TaskId) (room : RoomId) (supervisor : Supervisor)
    (state : FeedState) : (hub.setTask id room supervisor state).state = state := by
  unfold setTask
  split
  · rfl
  · rfl
  · rfl
  · dsimp only
    split <;> rfl

theorem startFeed_tasks (hub : Hub π) (room : RoomId) :
    (hub.startFeed room).tasks = hub.tasks ++
      [⟨room, (Supervisor.start hub.config.reconnect (hub.stops room) hub.state).1⟩] := by
  rw [startFeed, setTask_tasks]
  simp

theorem supervises_startFeed (hTasks : next.tasks = hub.tasks) (hState : next.state = hub.state)
    (hConfig : next.config = hub.config) (room : RoomId) :
    hub.Supervises (next.startFeed room) := by
  refine .starts room (next.stops room) ?_ ?_
  · rw [startFeed_tasks, hTasks, hState, hConfig]
  · rw [startFeed, setTask_state, hState, hConfig]

theorem supervises_connected (hub : Hub π) (id : TaskId) : hub.Supervises (hub.connected id) := by
  unfold connected
  split
  · next task hTask => exact .turns hTask (Supervisor.connected_turn _ _ _) rfl
  · exact .refl hub

theorem supervises_ended (hub : Hub π) (id : TaskId) (error : Option FeedError)
    (offset : Binary64) : hub.Supervises (hub.ended id error offset) := by
  unfold ended
  split
  · next task hTask =>
    split
    · refine .turns hTask ?_ (setTask_tasks _ _ _ _ _)
      rw [setTask_state]
      exact Supervisor.ended_turn _ _ _ _ _ _
    · exact .refl hub
  · exact .refl hub

theorem supervises_wake (hub : Hub π) (id : TaskId) : hub.Supervises (hub.wake id) := by
  unfold wake
  split
  · next task hTask =>
    split
    · split
      · refine .turns hTask ?_ (setTask_tasks _ _ _ _ _)
        rw [setTask_state]
        exact Supervisor.wake_turn _ _ _ _
      · exact .refl hub
    · exact .refl hub
  · exact .refl hub

theorem Undisturbed.stops (hSame : hub.Undisturbed next) (room : RoomId) :
    next.stops room = hub.stops room := by
  have hStill := hSame.rooms room
  have hClosed : next.rooms.isClosed room = hub.rooms.isClosed room := by
    unfold Rooms.isClosed
    cases hRoom : hub.rooms.get? room with
    | none =>
      rw [hRoom, Option.map_none, Option.map_eq_none_iff] at hStill
      rw [hStill]
    | some before =>
      rw [hRoom, Option.map_some, Option.map_eq_some_iff] at hStill
      obtain ⟨after, hAfter, hEq⟩ := hStill
      have hFlag := congrArg Room.closed hEq
      rw [hAfter]
      exact hFlag
  rw [Hub.stops, Hub.stops, hSame.cancelled, hClosed]

/-! ## The supervisors of rooms that stop -/

/-- Nothing happens to the supervisors but that some give up their waits. -/
structure Relents (hub next : Hub π) : Prop where
  stops (room : RoomId) : next.stops room = hub.stops room
  state : next.state = hub.state
  tasks {id : TaskId} {task : FeedTask} (hTask : hub.tasks[id]? = some task) :
    next.tasks[id]? = some task ∨ hub.Abandons next id

theorem Relents.refl (hub : Hub π) : hub.Relents hub := ⟨fun _ => rfl, rfl, .inl⟩

theorem Relents.trans (hFirst : hub.Relents next) (hSecond : next.Relents last) :
    hub.Relents last where
  stops room := (hSecond.stops room).trans (hFirst.stops room)
  state := hSecond.state.trans hFirst.state
  tasks {id task} hTask := by
    rcases hFirst.tasks hTask with
      hKept | ⟨before, middle, due, hBefore, hWaits, hMiddle, hStopped, hStops⟩
    · rcases hSecond.tasks hKept with
        hLast | ⟨same, after, due, hSame, hWaits, hAfter, hStopped, hStops⟩
      · exact .inl hLast
      · obtain rfl := Option.some.inj (hKept.symm.trans hSame)
        rw [hFirst.stops] at hStops
        exact .inr ⟨task, after, due, hTask, hWaits, hAfter, hStopped, hStops⟩
    · refine .inr ⟨before, middle, due, hBefore, hWaits, ?_, hStopped, hStops⟩
      rcases hSecond.tasks hMiddle with hLast | ⟨same, _, _, hSame, hAgain, -⟩
      · exact hLast
      · obtain rfl := Option.some.inj (hMiddle.symm.trans hSame)
        cases hStopped.symm.trans hAgain

/-- A supervisor that goes on in a room that stops gives up its wait. -/
theorem relents_wake {id : TaskId} {task : FeedTask} (hTask : hub.tasks[id]? = some task)
    (hStops : hub.stops task.room = true) : hub.Relents (hub.wake id) := by
  cases hPhase : task.supervisor.phase with
  | waiting due =>
    let stopped : Supervisor := { task.supervisor with phase := .stopped }
    have hWake : hub.wake id = hub.setTask id task.room stopped hub.state := by
      simp only [wake, hTask, hPhase, Supervisor.wake, Supervisor.enter, hStops, true_or, if_true]
      rfl
    rw [hWake]
    refine ⟨(undisturbed_setTask _ _ _ _ _).stops, setTask_state _ _ _ _ _, ?_⟩
    intro other same hSame
    by_cases hOther : id = other
    · subst hOther
      have hLt := (List.getElem?_eq_some_iff.mp hTask).1
      refine .inr ⟨task, ⟨task.room, stopped⟩, due, hTask, hPhase, ?_, rfl, hStops⟩
      rw [setTask_tasks, List.getElem?_set_self hLt]
    · rw [setTask_tasks]
      exact .inl ((List.getElem?_set_ne hOther).trans hSame)
  | running | stopped | crashed =>
    have hWake : hub.wake id = hub := by simp only [wake, hTask, hPhase]
    rw [hWake]
    exact .refl hub

/-- By induction on the tasks that are let go, one after another. -/
theorem relents_release (hub : Hub π) : hub.Relents hub.release := by
  unfold release
  generalize List.range hub.tasks.length = ids
  induction ids generalizing hub with
  | nil => exact .refl hub
  | cons id rest ih =>
    refine Relents.trans ?_ (ih _)
    dsimp only
    split
    · next task hTask =>
      split
      · next hStops => exact relents_wake hTask hStops
      · exact .refl hub
    · exact .refl hub

/-! ## What steps keep -/

/-- The shared state agrees with the supervisors. -/
def Reports (hub : Hub π) : Prop := hub.state.Reports hub.supervisors

theorem getElem?_supervisors {id : TaskId} {task : FeedTask} (hTask : hub.tasks[id]? = some task) :
    hub.supervisors[id]? = some task.supervisor := by
  rw [supervisors, List.getElem?_map, hTask, Option.map_some]

theorem Supervises.reports (hStep : hub.Supervises next) (hReports : hub.Reports) :
    next.Reports := by
  unfold Reports supervisors at *
  cases hStep with
  | keeps hTasks hNoted hSessions =>
    rw [hTasks]
    exact hReports.congr hNoted hSessions
  | starts room cancelled hTasks hState =>
    rw [hTasks, hState, List.map_append]
    exact hReports.started hub.config.reconnect cancelled
  | turns hTask hTurn hTasks =>
    rw [hTasks, List.map_set]
    exact hReports.turned (getElem?_supervisors hTask) hTurn

theorem reports_release (hReports : hub.Reports) : hub.release.Reports := by
  unfold release
  generalize List.range hub.tasks.length = ids
  induction ids generalizing hub with
  | nil => exact hReports
  | cons id rest ih =>
    refine ih ?_
    dsimp only
    split
    · split
      · exact (supervises_wake hub id).reports hReports
      · exact hReports
    · exact hReports

/-- A state that says that the feed reconnects was written by a supervisor that waits, or it said
so before and a supervisor that waits still does or has just given up. -/
def Persists (hub next : Hub π) : Prop :=
  next.state.status = .reconnecting →
    next.Waits ∨ (hub.state.status = .reconnecting ∧ (hub.Waits → ∃ id, hub.Abandons next id))

theorem persists_of_tasks (hStatus : next.state.status = .reconnecting →
      hub.state.status = .reconnecting)
    (hTasks : ∀ {id task}, hub.tasks[id]? = some task →
      next.tasks[id]? = some task ∨ hub.Abandons next id) : hub.Persists next := by
  intro hNext
  by_cases hWaits : next.Waits
  · exact .inl hWaits
  · refine .inr ⟨hStatus hNext, ?_⟩
    rintro ⟨task, hMem, due, hPhase⟩
    obtain ⟨id, hTask⟩ := List.mem_iff_getElem?.mp hMem
    rcases hTasks hTask with hKept | hAbandons
    · exact absurd ⟨task, List.mem_of_getElem? hKept, due, hPhase⟩ hWaits
    · exact ⟨id, hAbandons⟩

theorem Relents.persists (hRelents : hub.Relents next) : hub.Persists next :=
  persists_of_tasks (by rw [hRelents.state]; exact id) hRelents.tasks

theorem Supervises.persists (hStep : hub.Supervises next) : hub.Persists next := by
  cases hStep with
  | keeps hTasks hNoted hSessions =>
    refine persists_of_tasks ?_ (by rw [hTasks]; exact .inl)
    rw [FeedState.status_reconnecting_iff, FeedState.status_reconnecting_iff, hNoted, hSessions]
    exact id
  | starts room cancelled hTasks hState =>
    refine persists_of_tasks ?_ ?_
    · intro hStatus
      rw [hState] at hStatus
      rwa [FeedState.start_reconnecting hStatus] at hStatus
    · intro id task hTask
      rw [hTasks]
      exact .inl ((List.getElem?_append_left (List.getElem?_eq_some_iff.mp hTask).1).trans hTask)
  | @turns id task supervisor hTask hTurn hTasks =>
    have hLt := (List.getElem?_eq_some_iff.mp hTask).1
    have hAfter : next.tasks[id]? = some { task with supervisor := supervisor } := by
      rw [hTasks, List.getElem?_set_self hLt]
    intro hStatus
    rcases FeedState.turn_reconnecting hTurn hStatus with
      ⟨due, hWaits⟩ | ⟨hState, hMove⟩
    · exact .inl ⟨_, List.mem_of_getElem? hAfter, due, hWaits⟩
    · refine persists_of_tasks (by rw [hState]; exact fun hSame => hSame) ?_ hStatus
      intro other same hSame
      by_cases hOther : id = other
      · subst hOther
        rcases hMove with rfl | ⟨⟨due, hWaits⟩, hStopped, hStops⟩
        · obtain rfl := Option.some.inj (hTask.symm.trans hSame)
          exact .inl hAfter
        · exact .inr ⟨task, _, due, hTask, hWaits, hAfter, hStopped, hStops⟩
      · rw [hTasks]
        exact .inl ((List.getElem?_set_ne hOther).trans hSame)

/-- Every supervisor goes by this policy, and those that crashed did so at a draw that fails. -/
def Sound (hub : Hub π) (policy : ReconnectPolicy) : Prop :=
  ∀ task ∈ hub.tasks, task.supervisor.backoff.policy = policy ∧
    (task.supervisor.phase = .crashed → task.supervisor.backoff.Crashes)

theorem Supervises.sound (hStep : hub.Supervises next) (hSound : hub.Sound hub.config.reconnect) :
    next.Sound hub.config.reconnect := by
  intro task hMem
  cases hStep with
  | keeps hTasks => exact hSound task (hTasks ▸ hMem)
  | starts room cancelled hTasks =>
    rw [hTasks] at hMem
    rcases List.mem_append.mp hMem with hOld | hNew
    · exact hSound task hOld
    · rw [List.mem_singleton.mp hNew]
      rcases Supervisor.start_cases hub.config.reconnect cancelled hub.state with
        ⟨-, hStart⟩ | hStart <;> rw [hStart] <;> exact ⟨rfl, by simp⟩
  | turns hTask hTurn hTasks =>
    rw [hTasks] at hMem
    rcases List.mem_or_eq_of_mem_set hMem with hOld | rfl
    · exact hSound task hOld
    · obtain ⟨hPolicy, hCrashed⟩ := hSound _ (List.mem_of_getElem? hTask)
      refine ⟨hTurn.policy.trans hPolicy, ?_⟩
      intro hPhase
      rcases hTurn.crashed_cases hPhase with hSame | hCrashes
      · dsimp only at hPhase ⊢
        rw [hSame] at hPhase ⊢
        exact hCrashed hPhase
      · exact hCrashes

/-- By induction on the tasks that are let go. -/
theorem sound_release (hSound : hub.Sound hub.config.reconnect) :
    hub.release.Sound hub.config.reconnect := by
  unfold release
  generalize List.range hub.tasks.length = ids
  induction ids generalizing hub with
  | nil => exact hSound
  | cons id rest ih =>
    have hConfig := (undisturbed_wake hub id).config
    have hWoken := (supervises_wake hub id).sound hSound
    rw [← hConfig] at hWoken ⊢
    rw [List.foldl_cons]
    split
    · split
      · exact ih hWoken
      · rw [hConfig]
        exact ih hSound
    · rw [hConfig]
      exact ih hSound

/-- A step keeps the shared state in agreement with the supervisors, and the supervisors sound. -/
structure Tends (hub next : Hub π) : Prop where
  reports (hReports : hub.Reports) : next.Reports
  persists (hReports : hub.Reports) : hub.Persists next
  sound (hSound : hub.Sound hub.config.reconnect) : next.Sound hub.config.reconnect

theorem Supervises.tends (hStep : hub.Supervises next) : hub.Tends next :=
  ⟨hStep.reports, fun _ => hStep.persists, hStep.sound⟩

theorem tends_of_kept (hTasks : next.tasks = hub.tasks)
    (hNoted : next.state.noted = hub.state.noted)
    (hSessions : next.state.sessions = hub.state.sessions) : hub.Tends next :=
  (Supervises.keeps hTasks hNoted hSessions).tends

/-! ## Operations and moves -/

theorem joinRoom_feeds (hub : Hub π) (room : RoomId) (client : ClientId) (mailbox : MailboxId) :
    (hub.joinRoom room client mailbox).2.tasks = hub.tasks ∧
      (hub.joinRoom room client mailbox).2.state = hub.state ∧
      (hub.joinRoom room client mailbox).2.config = hub.config := by
  unfold joinRoom
  split <;> exact ⟨rfl, rfl, rfl⟩

theorem supervises_subscribing (hub : Hub π) (key : RoomKey) (client : ClientId)
    (mailbox : MailboxId) (progress : Subscribing) :
    hub.Supervises (progress.step key client mailbox hub).2 := by
  cases progress with
  | looking =>
    rw [Subscribing.step]
    split
    · exact .refl hub
    · exact .keeps rfl rfl rfl
  | joining room =>
    rw [Subscribing.step]
    obtain ⟨hTasks, hState, hConfig⟩ := hub.joinRoom_feeds room client mailbox
    have hKeeps : hub.Supervises (hub.joinRoom room client mailbox).2 :=
      .keeps hTasks (by rw [hState]) (by rw [hState])
    generalize hub.joinRoom room client mailbox = result at hTasks hState hConfig hKeeps
    obtain ⟨_ | start, next⟩ := result
    · exact hKeeps
    · dsimp only
      split
      · exact supervises_startFeed hTasks hState hConfig room
      · exact hKeeps
  | discarding room => exact .keeps rfl rfl rfl
  | done outcome => exact .refl hub

theorem supervises_broadcastTo (hub : Hub π) (room : RoomId) (payload : π) :
    hub.Supervises (hub.broadcastTo room payload).2 := by
  unfold broadcastTo
  split <;> exact .keeps rfl rfl rfl

theorem Operation.tends (operation : Operation π) (hub : Hub π) :
    hub.Tends (operation.step hub).2 := by
  cases operation with
  | subscribe key client mailbox progress =>
    rw [step_subscribe]
    exact (hub.supervises_subscribing key client mailbox progress).tends
  | leave room client =>
    rw [step_leave, leaveRoom]
    split <;> exact tends_of_kept rfl rfl rfl
  | unsubscribe | broadcast | read | schedule => exact tends_of_kept rfl rfl rfl
  | send room payload => exact (hub.supervises_broadcastTo room payload).tends
  | publish room payload =>
    rw [step_publish, broadcastTo]
    split <;> exact tends_of_kept rfl rfl rfl
  | teardown room generation =>
    rw [step]
    split
    · exact (Supervises.refl hub).tends
    · have hKeeps : hub.Supervises (hub.closeIfIdle room generation).2 := by
        unfold closeIfIdle
        split <;> exact .keeps rfl rfl rfl
      generalize hub.closeIfIdle room generation = result at hKeeps
      obtain ⟨closed, next⟩ := result
      cases closed <;> exact hKeeps.tends
  | remove room =>
    have hRelents := (hub.removeIfSame room).relents_release
    have hReports (hBefore : (hub.removeIfSame room).Reports) :
        (hub.removeIfSame room).release.Reports := reports_release hBefore
    have hSound (hBefore : (hub.removeIfSame room).Sound hub.config.reconnect) :
        (hub.removeIfSame room).release.Sound hub.config.reconnect := sound_release hBefore
    refine ⟨hReports, fun _ => Relents.persists ?_, hSound⟩
    exact ⟨hRelents.stops, hRelents.state, hRelents.tasks⟩

namespace Traffic

theorem tends (traffic : Traffic π) (move : Move π) :
    traffic.hub.Tends (traffic.step move).hub := by
  cases move with
  | request | wait | mailboxes => exact tends_of_kept rfl rfl rfl
  | go index =>
    rw [step]
    split
    · exact Operation.tends _ traffic.hub
    · exact (Supervises.refl _).tends
  | fire index =>
    obtain ⟨timers, hHub | ⟨task, hHub⟩⟩ := traffic.step_fire index <;> rw [hHub]
    · exact tends_of_kept rfl rfl rfl
    · have hStep : traffic.hub.Supervises (wake { traffic.hub with timers := timers } task) := by
        cases supervises_wake { traffic.hub with timers := timers } task with
        | keeps hTasks hNoted hSessions => exact .keeps hTasks hNoted hSessions
        | starts room cancelled hTasks hState => exact .starts room cancelled hTasks hState
        | turns hTask hTurn hTasks => exact .turns hTask hTurn hTasks
      exact hStep.tends
  | connected task => exact (supervises_connected _ _).tends
  | ended task error offset => exact (supervises_ended _ _ _ _).tends
  | wake task => exact (supervises_wake _ _).tends

/-! ## Hubs that can be cancelled -/

/-- What happens to a hub that can be cancelled. -/
inductive Event (π : Type)
  | move (move : Move π)
  /-- Nobody is let in any more, and every supervisor has to stop when it notices. -/
  | cancelled
  /-- Every registered room is closed, as the second part of a shutdown. -/
  | roomsClosed

def meet (traffic : Traffic π) : Event π → Traffic π
  | .move move => traffic.step move
  | .cancelled => { traffic with hub := { traffic.hub with cancelled := true } }
  | .roomsClosed =>
    { traffic with
      hub := { traffic.hub with rooms := traffic.hub.rooms.closeAll }.record
        [.rooms traffic.hub.kind 0] }

def meets (traffic : Traffic π) (events : List (Event π)) : Traffic π := events.foldl meet traffic

/-- A new hub after some events. -/
def course (kind : FeedKind) (config : HubConfig) (events : List (Event π)) : Traffic π :=
  meets { hub := { kind := kind, config := config } } events

theorem meets_wakes (traffic : Traffic π) (ids : List TaskId) :
    (traffic.meets (ids.map fun id => .move (.wake id))).hub = ids.foldl wake traffic.hub := by
  rw [meets, List.foldl_map]
  induction ids generalizing traffic with
  | nil => rfl
  | cons id rest ih => exact ih _

/-- In a hub that is cancelled every supervisor goes on that waits. -/
theorem release_of_cancelled (hub : Hub π) (hCancelled : hub.cancelled = true) :
    hub.release = (List.range hub.tasks.length).foldl wake hub := by
  unfold release
  generalize List.range hub.tasks.length = ids
  induction ids generalizing hub with
  | nil => rfl
  | cons id rest ih =>
    have hRest := ih (hub.wake id) ((undisturbed_wake hub id).cancelled.trans hCancelled)
    rw [List.foldl_cons, List.foldl_cons, ← hRest]
    split
    · next task hTask =>
      have hStops : hub.stops task.room = true := by rw [stops, hCancelled, Bool.true_or]
      rw [if_pos hStops]
    · next hNone =>
      have hSame : hub.wake id = hub := by simp only [wake, hNone]
      rw [hSame]

/-- A hub that is cancelled at once, supervisors and all. -/
theorem hub_of_cancel_alone (traffic : Traffic π) :
    (traffic.meets (.cancelled :: (List.range traffic.hub.tasks.length).map
      fun id => .move (.wake id))).hub = traffic.hub.cancel := by
  rw [meets, List.foldl_cons]
  exact (meets_wakes _ _).trans (release_of_cancelled _ rfl).symm

/-- A hub that is shut down at once, supervisors and all. -/
theorem hub_of_shutDown_alone (traffic : Traffic π) :
    (traffic.meets (.cancelled :: .roomsClosed :: (List.range traffic.hub.tasks.length).map
      fun id => .move (.wake id))).hub = traffic.hub.shutDown := by
  rw [meets, List.foldl_cons, List.foldl_cons]
  exact (meets_wakes _ _).trans (release_of_cancelled _ rfl).symm

theorem tends_meet (traffic : Traffic π) (event : Event π) :
    traffic.hub.Tends (traffic.meet event).hub := by
  cases event with
  | move move => exact traffic.tends move
  | cancelled | roomsClosed => exact tends_of_kept rfl rfl rfl

variable {kind : FeedKind} {config : HubConfig} {events : List (Event π)}

theorem course_snoc (kind : FeedKind) (config : HubConfig) (events : List (Event π))
    (event : Event π) :
    course kind config (events ++ [event]) = (course kind config events).meet event :=
  List.foldl_append

/-- By induction on the events. -/
theorem reports_course (kind : FeedKind) (config : HubConfig) (events : List (Event π)) :
    (course kind config events).hub.Reports := by
  induction events using List.reverseRecOn with
  | nil => exact FeedState.reports_new kind
  | append_singleton events event ih =>
    rw [course_snoc]
    exact (tends_meet _ event).reports ih

/-- The state says that the feed reconnects since before a supervisor gave up its wait. -/
def LeftOver (kind : FeedKind) (config : HubConfig) (events : List (Event π)) : Prop :=
  ∃ early event id, early ++ [event] <+: events ∧
    (course kind config early).hub.Abandons (course kind config (early ++ [event])).hub id ∧
    Throughout (fun now => (course kind config now).hub.state.status = .reconnecting) early events

theorem leftOver_snoc {event : Event π} (hLeft : LeftOver kind config events)
    (hStatus : (course kind config (events ++ [event])).hub.state.status = .reconnecting) :
    LeftOver kind config (events ++ [event]) := by
  obtain ⟨early, cause, id, hEarly, hAbandons, hSince⟩ := hLeft
  exact ⟨early, cause, id, hEarly.trans (List.prefix_append _ _), hAbandons, hSince.snoc hStatus⟩

/-- By induction on the events: the supervisor that wrote the state still waits, or it was the last
one to wait and gave up. -/
theorem waits_or_leftOver
    (hStatus : (course kind config events).hub.state.status = .reconnecting) :
    (course kind config events).hub.Waits ∨ LeftOver kind config events := by
  induction events using List.reverseRecOn with
  | nil => cases hStatus
  | append_singleton events event ih =>
    have hPersists := (tends_meet (course kind config events) event).persists
      (reports_course kind config events)
    rw [← course_snoc] at hPersists
    rcases hPersists hStatus with hWaits | ⟨hBefore, hGivesUp⟩
    · exact .inl hWaits
    · refine .inr ?_
      rcases ih hBefore with hWaited | hLeft
      · obtain ⟨id, hAbandons⟩ := hGivesUp hWaited
        exact ⟨events, event, id, List.prefix_rfl, hAbandons,
          (Throughout.refl hBefore).snoc hStatus⟩
      · exact leftOver_snoc hLeft hStatus

theorem exists_running {hub : Hub π} {connected : Bool} :
    (∃ supervisor ∈ hub.supervisors, supervisor.phase = .running connected) ↔
      ∃ task ∈ hub.tasks, task.supervisor.phase = .running connected := by
  simp [supervisors]

/-- **What is reported of the feeds is true, but for a wait that was given up.** However rooms come
and go, sessions connect, fail and back off, and the hub is cancelled: the state is connected just
while a session is connected, and connecting only while a session is between its start and its end.
It is reconnecting only while a supervisor waits out its delay, and once every supervisor has
stopped or crashed it is disconnected; the one exception is that a supervisor gave up its wait
because its room stopped, and nothing was noted since. -/
theorem reported_state_true_or_left_over (kind : FeedKind) (config : HubConfig)
    (events : List (Event π)) :
    ((course kind config events).hub.state.status = .connected ↔
      ∃ task ∈ (course kind config events).hub.tasks, task.supervisor.phase = .running true) ∧
    ((course kind config events).hub.state.status = .connecting →
      ∃ task ∈ (course kind config events).hub.tasks, task.supervisor.phase = .running false) ∧
    ((course kind config events).hub.state.status = .reconnecting →
      (∃ task ∈ (course kind config events).hub.tasks, ∃ due,
        task.supervisor.phase = .waiting due) ∨ LeftOver kind config events) ∧
    ((∀ task ∈ (course kind config events).hub.tasks, task.supervisor.isActive = false) →
      (course kind config events).hub.state.status = .disconnected ∨
        LeftOver kind config events) := by
  have hReports := reports_course kind config events
  have hConnected := hReports.status_connected_iff.trans exists_running
  have hConnecting := fun hStatus => exists_running.mp (hReports.of_status_connecting hStatus)
  refine ⟨hConnected, hConnecting, waits_or_leftOver, ?_⟩
  intro hInactive
  have hIdle {connected : Bool} : ¬ ∃ task ∈ (course kind config events).hub.tasks,
      task.supervisor.phase = .running connected := by
    rintro ⟨task, hMem, hRuns⟩
    simpa [Supervisor.isActive, hRuns] using hInactive task hMem
  cases hStatus : (course kind config events).hub.state.status with
  | disconnected => exact .inl rfl
  | connecting => exact absurd (hConnecting hStatus) hIdle
  | connected => exact absurd (hConnected.mp hStatus) hIdle
  | reconnecting =>
    rcases waits_or_leftOver hStatus with ⟨task, hMem, due, hWaits⟩ | hLeft
    · simpa [Supervisor.isActive, hWaits] using hInactive task hMem
    · exact .inr hLeft

/-! ## A room that is torn down while its feed backs off -/

/-- A client joins, the first session of the feed is refused, and the client leaves. The room is
torn down while the supervisor waits. -/
def tornDownEvents : List (Event Nat) :=
  [.request (.subscribe priceRoom 1 0), .go 0, .go 0, .ended 0 (some (.transport "refused")) .zero,
    .request (.unsubscribe priceRoom 1), .go 0, .go 0, .go 0, .wait 10, .fire 1, .go 0,
    .go 0].map .move

/-- No room is left, no supervisor is left that could note anything, and the feed is reported as
reconnecting, so the gateway counts as impaired. -/
theorem torn_down_feed_reconnecting :
    let hub := (course .markPrice quickGrace tornDownEvents).hub
    hub.rooms.registered = [] ∧ (∀ task ∈ hub.tasks, task.supervisor.phase = .stopped) ∧
    hub.state.status = .reconnecting ∧
    FeedStates.health ⟨hub.state, { kind := .markPrice }, { kind := .depth },
      FeedState.connected { kind := .trading }⟩ = .degraded := by
  decide +kernel

/-- While the session is under way the state says so; after the teardown it is left over. -/
theorem reported_state_left_over_of_tornDown :
    (∃ task ∈ (course .markPrice quickGrace (tornDownEvents.take 3)).hub.tasks,
      task.supervisor.phase = .running false) ∧
    LeftOver .markPrice quickGrace tornDownEvents := by
  obtain ⟨-, hConnecting, -, -⟩ :=
    reported_state_true_or_left_over .markPrice quickGrace (tornDownEvents.take 3)
  obtain ⟨-, -, -, hStopped⟩ :=
    reported_state_true_or_left_over .markPrice quickGrace tornDownEvents
  refine ⟨hConnecting (by decide +kernel), ?_⟩
  refine (hStopped (by decide +kernel)).resolve_left ?_
  decide +kernel

end Traffic

end Hub

end MarketGateway
