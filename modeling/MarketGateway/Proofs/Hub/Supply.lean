import MarketGateway.Proofs.Hub.Feeds

/-!
# How many feeds a room has

A room says whether its feed runs. The flag is set by the member that finds it unset, who starts the
feed, and it is unset when a supervisor stops while the room is open. `Hub.Fed` says whom the flag
stands for: an open room has one supervised feed that has not stopped if it is set, and none if not.

A feed that has not stopped goes on, unless it has crashed (`holders_eq`). So the flag is right as
long as no feed of the room has crashed. A crash leaves it set for good.

Feeds of closed rooms may go on for a while. They do no harm, since a room is never opened again,
and their last step leaves a closed room as it is.
-/

namespace MarketGateway

variable {π : Type}

/-- Whether a supervised feed is for this room and goes on. -/
def FeedTask.supplies (task : FeedTask) (id : RoomId) : Bool :=
  task.room = id && task.supervisor.isActive

/-- Whether a supervised feed was for this room and has crashed. -/
def FeedTask.crashedFor (task : FeedTask) (id : RoomId) : Bool :=
  task.room = id && task.supervisor.phase = .crashed

/-- Whether a supervised feed is for this room and has not stopped. -/
def FeedTask.holds (task : FeedTask) (id : RoomId) : Bool :=
  task.room = id && !task.supervisor.isStopped

/-- A room that is open after a step was so before, with the same flag. -/
def Room.KeepsFlag (room after : Room π) : Prop :=
  after.closed = false → room.closed = false ∧ room.running = after.running

theorem Room.keepsFlag_leave (room : Room π) (client : ClientId) :
    room.KeepsFlag (room.leave client).2 := by
  unfold leave
  split <;> exact fun hOpen => ⟨hOpen, rfl⟩

theorem Room.keepsFlag_broadcast (room : Room π) (payload : π) (boxes : Mailboxes π) :
    room.KeepsFlag (room.broadcast payload boxes).2.1 := by
  unfold broadcast
  split <;> exact fun hOpen => ⟨hOpen, rfl⟩

theorem Room.keepsFlag_closeIfIdle (room : Room π) (generation : Nat) :
    room.KeepsFlag (room.closeIfIdle generation).2 := by
  unfold closeIfIdle
  split
  · exact fun hOpen => ⟨hOpen, rfl⟩
  · exact fun hOpen => absurd hOpen (by simp)

namespace Hub

variable {hub next : Hub π} {id other : RoomId} {room : Room π} {place : TaskId} {task : FeedTask}

/-- Number of feeds of a room that go on. -/
def feeds (hub : Hub π) (id : RoomId) : Nat := hub.tasks.countP (·.supplies id)

/-- Number of feeds of a room that have crashed. -/
def crashes (hub : Hub π) (id : RoomId) : Nat := hub.tasks.countP (·.crashedFor id)

/-- Number of feeds of a room that have not stopped. -/
def holders (hub : Hub π) (id : RoomId) : Nat := hub.tasks.countP (·.holds id)

theorem holders_eq (hub : Hub π) (id : RoomId) :
    hub.holders id = hub.feeds id + hub.crashes id := by
  unfold holders feeds crashes
  induction hub.tasks with
  | nil => rfl
  | cons task rest ih =>
    have hTask : (if task.holds id then 1 else 0) =
        (if task.supplies id then 1 else 0) + if task.crashedFor id then 1 else 0 := by
      unfold FeedTask.holds FeedTask.supplies FeedTask.crashedFor Supervisor.isActive
        Supervisor.isStopped
      by_cases hRoom : task.room = id <;> cases task.supervisor.phase <;> simp [hRoom]
    rw [List.countP_cons, List.countP_cons, List.countP_cons, ih, hTask]
    omega

/-- The flag of every open room tells the number of feeds that have not stopped. -/
structure Fed (hub : Hub π) : Prop where
  made : ∀ task ∈ hub.tasks, hub.rooms.get? task.room ≠ none
  holders : ∀ {id room}, hub.rooms.get? id = some room → room.closed = false →
    hub.holders id = if room.running then 1 else 0

/-! ## Steps that leave the feeds alone -/

/-- The rooms stay as they are as far as their feeds go; some are closed, and some are new. -/
structure Hosts (hub next : Hub π) : Prop where
  kept {id : RoomId} (hRoom : hub.rooms.get? id ≠ none) : next.rooms.get? id ≠ none
  opened {id : RoomId} {room : Room π} (hRoom : next.rooms.get? id = some room)
      (hOpen : room.closed = false) :
    (∃ before, hub.rooms.get? id = some before ∧ before.closed = false ∧
      before.running = room.running) ∨
    hub.rooms.get? id = none ∧ room.running = false

theorem Fed.hosts (hFed : hub.Fed) (hHosts : hub.Hosts next) (hTasks : next.tasks = hub.tasks) :
    next.Fed where
  made task hTask := by
    rw [hTasks] at hTask
    exact hHosts.kept (hFed.made task hTask)
  holders {id room} hRoom hOpen := by
    have hHolders : next.holders id = hub.holders id := by rw [Hub.holders, Hub.holders, hTasks]
    rw [hHolders]
    rcases hHosts.opened hRoom hOpen with ⟨before, hBefore, hStill, hFlag⟩ | ⟨hNone, hFlag⟩
    · rw [← hFlag]
      exact hFed.holders hBefore hStill
    · -- No feed was started for a room that was not there.
      rw [hFlag]
      refine List.countP_eq_zero.mpr ?_
      intro task hTask hHolds
      have hSame : task.room = id := by
        simp only [FeedTask.holds, Bool.and_eq_true, decide_eq_true_eq] at hHolds
        exact hHolds.1
      exact hFed.made task hTask (hSame ▸ hNone)

theorem hosts_of_same (hRooms : ∀ id, next.rooms.get? id = hub.rooms.get? id) :
    hub.Hosts next where
  kept {id} hRoom := by rwa [hRooms id]
  opened {id room} hRoom hOpen := .inl ⟨room, (hRooms id).symm.trans hRoom, hOpen, rfl⟩

/-- One room changes, but neither is it opened nor is its flag another one while it is open. -/
theorem hosts_set {after : Room π} (hRoom : hub.rooms.get? id = some room)
    (hFlag : room.KeepsFlag after) (hRooms : next.rooms = hub.rooms.set id after) :
    hub.Hosts next where
  kept {other} hOther := by
    rw [hRooms, Rooms.get?_set]
    split
    · simpa using hOther
    · exact hOther
  opened {other found} hFound hOpen := by
    rw [hRooms, Rooms.get?_set] at hFound
    split at hFound
    · next hSame =>
      subst hSame
      rw [hRoom, Option.map_some, Option.some.injEq] at hFound
      subst hFound
      exact .inl ⟨room, hRoom, hFlag hOpen⟩
    · exact .inl ⟨found, hFound, hOpen, rfl⟩

theorem hosts_getOrMake (hub : Hub π) (key : RoomKey) : hub.Hosts (hub.getOrMake key).2 := by
  obtain ⟨hKept, hMade⟩ := hub.rooms.getOrMake_spec key
  have hRooms : (hub.getOrMake key).2.rooms = (hub.rooms.getOrMake key).2 := rfl
  constructor
  · intro id hRoom
    obtain ⟨room, hSome⟩ := Option.ne_none_iff_exists'.mp hRoom
    rw [hRooms, hKept id room hSome]
    simp
  · intro id room hRoom hOpen
    rw [hRooms] at hRoom
    cases hBefore : hub.rooms.get? id with
    | none =>
      obtain ⟨-, rfl⟩ := hMade id room hBefore hRoom
      exact .inr ⟨rfl, rfl⟩
    | some before =>
      obtain rfl := Option.some.inj ((hKept id before hBefore).symm.trans hRoom)
      exact .inl ⟨before, rfl, hOpen, rfl⟩

/-! ## Steps of supervisors -/

theorem holders_set (hTask : hub.tasks[place]? = some task) (supervisor : Supervisor)
    (hTasks : next.tasks = hub.tasks.set place ⟨task.room, supervisor⟩) (id : RoomId) :
    next.holders id + (if task.holds id then 1 else 0) =
      hub.holders id + if (⟨task.room, supervisor⟩ : FeedTask).holds id then 1 else 0 := by
  rw [holders, holders, hTasks]
  exact countP_set_add (·.holds id) _ hTask

theorem holds_of_ne (supervisor : Supervisor) (hNe : id ≠ other) :
    (⟨other, supervisor⟩ : FeedTask).holds id = false := by
  simp [FeedTask.holds, Ne.symm hNe]

theorem holds_self (id : RoomId) (supervisor : Supervisor) :
    (⟨id, supervisor⟩ : FeedTask).holds id = !supervisor.isStopped := by
  simp [FeedTask.holds]

/-- A supervisor that stops unsets the flag of its room, and one that crashes does not. -/
theorem get?_setTask (hub : Hub π) (place : TaskId) (id : RoomId) (supervisor : Supervisor)
    (state : FeedState) (other : RoomId) :
    (hub.setTask place id supervisor state).rooms.get? other =
      if supervisor.isStopped = true ∧ other = id then (hub.rooms.get? other).map Room.feedStopped
      else hub.rooms.get? other := by
  unfold setTask
  split
  · next hPhase => simp [Supervisor.isStopped, hPhase]
  · next hPhase => simp [Supervisor.isStopped, hPhase]
  · next hPhase => simp [Supervisor.isStopped, hPhase]
  · next hPhase =>
    by_cases hOther : other = id
    · subst hOther
      dsimp only
      cases hRoom : hub.rooms.get? other with
      | none => simp [hRoom]
      | some room => simp [Supervisor.isStopped, hPhase, Rooms.get?_set, hRoom]
    · dsimp only
      cases hRoom : hub.rooms.get? id with
      | none => simp [hOther]
      | some room => simp [Rooms.get?_set, hOther, Ne.symm hOther]

/-- A hub whose flags are right but for the room of one feed, which is flagged and has no other. -/
structure FedBut (hub : Hub π) (task : FeedTask) : Prop where
  made : ∀ task ∈ hub.tasks, hub.rooms.get? task.room ≠ none
  others : ∀ {id room}, id ≠ task.room → hub.rooms.get? id = some room → room.closed = false →
    hub.holders id = if room.running then 1 else 0
  own : ∀ {room}, hub.rooms.get? task.room = some room → room.closed = false →
    room.running = true ∧ hub.holders task.room = if task.supervisor.isStopped then 0 else 1

theorem made_set (hMade : ∀ entry ∈ hub.tasks, hub.rooms.get? entry.room ≠ none)
    (hTask : hub.tasks[place]? = some task) (supervisor : Supervisor) :
    ∀ entry ∈ hub.tasks.set place ⟨task.room, supervisor⟩,
      hub.rooms.get? entry.room ≠ none := by
  intro entry hEntry
  rcases List.mem_or_eq_of_mem_set hEntry with hOld | rfl
  · exact hMade entry hOld
  · exact hMade task (List.mem_of_getElem? hTask)

theorem holders_set_of_ne (hTask : hub.tasks[place]? = some task) (supervisor : Supervisor)
    (hTasks : next.tasks = hub.tasks.set place ⟨task.room, supervisor⟩) (hNe : id ≠ task.room) :
    next.holders id = hub.holders id := by
  have hOld : task.holds id = false := holds_of_ne task.supervisor hNe
  simpa [hOld, holds_of_ne supervisor hNe] using holders_set hTask supervisor hTasks id

theorem FedBut.holders_set_self (hFed : hub.FedBut task) (hTask : hub.tasks[place]? = some task)
    (supervisor : Supervisor)
    (hTasks : next.tasks = hub.tasks.set place ⟨task.room, supervisor⟩)
    (hRoom : hub.rooms.get? task.room = some room) (hOpen : room.closed = false) :
    next.holders task.room = if supervisor.isStopped then 0 else 1 := by
  have hSet := holders_set hTask supervisor hTasks task.room
  have hOld : task.holds task.room = !task.supervisor.isStopped :=
    holds_self task.room task.supervisor
  rw [hOld, holds_self task.room supervisor, (hFed.own hRoom hOpen).2] at hSet
  cases hStopped : task.supervisor.isStopped <;> cases hNext : supervisor.isStopped <;>
    simp [hStopped, hNext] at hSet ⊢ <;> omega

/-- The feed puts its flag right with its step. -/
theorem FedBut.setTask (hFed : hub.FedBut task) (hTask : hub.tasks[place]? = some task)
    (supervisor : Supervisor) (state : FeedState) :
    (hub.setTask place task.room supervisor state).Fed := by
  have hTasks := setTask_tasks hub place task.room supervisor state
  constructor
  · intro entry hEntry
    rw [hTasks] at hEntry
    have hMade := made_set hFed.made hTask supervisor entry hEntry
    rw [get?_setTask]
    split
    · simpa using hMade
    · exact hMade
  · intro id room hRoom hOpen
    rw [get?_setTask] at hRoom
    by_cases hId : id = task.room
    · subst hId
      cases hStopped : supervisor.isStopped with
      | true =>
        simp only [hStopped, true_and, if_true] at hRoom
        obtain ⟨before, hBefore, rfl⟩ := Option.map_eq_some_iff.mp hRoom
        have hStill : before.closed = false :=
          (Room.closed_of_still (Room.still_feedStopped before)).mp hOpen
        rw [hFed.holders_set_self hTask supervisor hTasks hBefore hStill]
        simp [Room.feedStopped, hStill, hStopped]
      | false =>
        simp only [hStopped, Bool.false_eq_true, false_and, if_false] at hRoom
        rw [hFed.holders_set_self hTask supervisor hTasks hRoom hOpen, (hFed.own hRoom hOpen).1]
        simp [hStopped]
    · rw [if_neg fun hBoth => hId hBoth.2] at hRoom
      rw [holders_set_of_ne hTask supervisor hTasks hId]
      exact hFed.others hId hRoom hOpen

theorem holders_pos (hTask : hub.tasks[place]? = some task)
    (hActive : task.supervisor.isStopped = false) : 0 < hub.holders task.room := by
  refine List.countP_pos_iff.mpr ⟨task, List.mem_of_getElem? hTask, ?_⟩
  simp [FeedTask.holds, hActive]

/-- The room of a feed that has not stopped is flagged, and has no other feed. -/
theorem Fed.but (hFed : hub.Fed) (hTask : hub.tasks[place]? = some task)
    (hActive : task.supervisor.isStopped = false) : hub.FedBut task where
  made := hFed.made
  others _ := hFed.holders
  own {room} hRoom hOpen := by
    have hHolders := hFed.holders hRoom hOpen
    have hSome := holders_pos hTask hActive
    cases hRunning : room.running with
    | true => simpa [hRunning, hActive] using hHolders
    | false =>
      rw [hRunning] at hHolders
      exact absurd hHolders (Nat.ne_of_gt hSome)

theorem Fed.connected (hFed : hub.Fed) (place : TaskId) : (hub.connected place).Fed := by
  unfold Hub.connected
  split
  · next task hTask =>
    dsimp only
    have hStops : (task.supervisor.connected hub.state).1.isStopped =
        task.supervisor.isStopped := by
      unfold Supervisor.connected
      split
      · next hPhase => simp [Supervisor.isStopped, hPhase]
      · rfl
    generalize task.supervisor.connected hub.state = outcome at hStops
    obtain ⟨supervisor, state⟩ := outcome
    refine ⟨?_, ?_⟩
    · exact made_set hFed.made hTask supervisor
    · intro id room hRoom hOpen
      have hSame : (⟨task.room, supervisor⟩ : FeedTask).holds id = task.holds id := by
        simp only [FeedTask.holds, hStops]
      have hSet := countP_set_add (·.holds id) (⟨task.room, supervisor⟩ : FeedTask) hTask
      rw [hSame] at hSet
      exact (Nat.add_right_cancel hSet).trans (hFed.holders hRoom hOpen)
  · exact hFed

theorem Fed.ended (hFed : hub.Fed) (place : TaskId) (error : Option FeedError)
    (offset : Binary64) : (hub.ended place error offset).Fed := by
  unfold Hub.ended
  split
  · next task hTask =>
    split
    · next hPhase =>
      have hActive : task.supervisor.isStopped = false := by simp [Supervisor.isStopped, hPhase]
      generalize task.supervisor.ended hub.now (hub.stops task.room) error offset hub.state =
        outcome
      obtain ⟨supervisor, state, metrics⟩ := outcome
      have hRecorded : (hub.record metrics).Fed :=
        hFed.hosts (hosts_of_same fun _ => rfl) rfl
      exact (hRecorded.but hTask hActive).setTask hTask supervisor state
    · exact hFed
  · exact hFed

theorem Fed.wake (hFed : hub.Fed) (place : TaskId) : (hub.wake place).Fed := by
  unfold Hub.wake
  split
  · next task hTask =>
    split
    · next hPhase =>
      have hActive : task.supervisor.isStopped = false := by simp [Supervisor.isStopped, hPhase]
      split
      · exact (hFed.but hTask hActive).setTask hTask _ _
      · exact hFed
    · exact hFed
  · exact hFed

/-- By induction on the tasks that are let go. -/
theorem Fed.release (hFed : hub.Fed) : hub.release.Fed := by
  unfold Hub.release
  generalize List.range hub.tasks.length = places
  induction places generalizing hub with
  | nil => exact hFed
  | cons place rest ih =>
    refine ih ?_
    dsimp only
    split
    · split
      · exact hFed.wake place
      · exact hFed
    · exact hFed

/-- A feed that is started for a room that was flagged for it. -/
theorem Fed.startFeed (hMade : ∀ task ∈ hub.tasks, hub.rooms.get? task.room ≠ none)
    (hRoom : hub.rooms.get? id = some room) (hRunning : room.running = true)
    (hNone : hub.holders id = 0)
    (hOthers : ∀ {other room}, other ≠ id → hub.rooms.get? other = some room →
      room.closed = false → hub.holders other = if room.running then 1 else 0) :
    (hub.startFeed id).Fed := by
  unfold Hub.startFeed
  generalize Supervisor.start hub.config.reconnect (hub.stops id) hub.state = started
  obtain ⟨supervisor, state⟩ := started
  dsimp only
  let started : Hub π := { hub with tasks := hub.tasks ++ [FeedTask.mk id supervisor] }
  have hTask : started.tasks[hub.tasks.length]? = some ⟨id, supervisor⟩ :=
    List.getElem?_concat_length
  have hHolders (other : RoomId) : started.holders other =
      hub.holders other + if (⟨id, supervisor⟩ : FeedTask).holds other then 1 else 0 := by
    rw [Hub.holders, Hub.holders, List.countP_append, List.countP_singleton]
  have hBut : started.FedBut ⟨id, supervisor⟩ := by
    refine ⟨?_, ?_, ?_⟩
    · intro task hMem
      rcases List.mem_append.mp hMem with hOld | hNew
      · exact hMade task hOld
      · rw [List.mem_singleton.mp hNew]
        exact fun hAbsent => absurd (hRoom.symm.trans hAbsent) (by simp)
    · intro other found hNe hFound hOpen
      rw [hHolders, holds_of_ne supervisor hNe]
      exact hOthers hNe hFound hOpen
    · intro found hFound hOpen
      obtain rfl := Option.some.inj (hRoom.symm.trans hFound)
      refine ⟨hRunning, ?_⟩
      rw [hHolders, hNone, holds_self]
      cases supervisor.isStopped <;> rfl
  exact hBut.setTask hTask supervisor state

/-! ## Operations -/

/-- Joining an open room sets its flag, and tells whether it was unset. -/
theorem joinRoom_cases (hub : Hub π) (id : RoomId) (client : ClientId) (mailbox : MailboxId) :
    (∃ next, hub.joinRoom id client mailbox = (none, next) ∧ hub.Spares next ∧
      next.tasks = hub.tasks ∧ ∀ room, hub.rooms.get? id = some room → room.closed = true) ∨
    ∃ before after next, hub.joinRoom id client mailbox = (some (!before.running), next) ∧
      hub.Touches next id before after ∧ next.tasks = hub.tasks ∧ before.closed = false ∧
      after.closed = false ∧ after.running = true := by
  have hTasks := (hub.joinRoom_feeds id client mailbox).1
  rcases hub.joinRoom_spec id client mailbox with
    ⟨hNone, hSpares, hClosed⟩ | ⟨start, before, after, hStart, hTouches, -⟩
  · exact .inl ⟨_, Prod.ext hNone rfl, hSpares, hTasks, hClosed⟩
  · have hFlag := hStart
    have hAfter := hTouches.after
    simp only [joinRoom, hTouches.before, Room.join] at hFlag hAfter
    cases hOpen : before.closed with
    | true => simp [hOpen] at hFlag
    | false =>
      simp only [hOpen, Bool.false_eq_true, if_false, Option.some.injEq] at hFlag hAfter
      rw [Rooms.get?_set, if_pos rfl, hTouches.before, Option.map_some, Option.some.injEq] at hAfter
      subst hFlag hAfter
      exact .inr ⟨before, _, _, Prod.ext hStart rfl, hTouches, hTasks, hOpen, rfl, rfl⟩

/-- A member that finds the flag unset starts the feed, and no other one does. -/
theorem Fed.joined {before after : Room π} (hFed : hub.Fed)
    (hTouches : hub.Touches next id before after) (hTasks : next.tasks = hub.tasks)
    (hOpen : before.closed = false) (hRunning : after.running = true) :
    (if !before.running then next.startFeed id else next).Fed := by
  have hHolders (other : RoomId) : next.holders other = hub.holders other := by
    rw [Hub.holders, Hub.holders, hTasks]
  have hMade : ∀ task ∈ next.tasks, next.rooms.get? task.room ≠ none := by
    intro task hTask
    rw [hTasks] at hTask
    obtain ⟨room, hRoom⟩ := Option.ne_none_iff_exists'.mp (hFed.made task hTask)
    obtain ⟨last, hLast, -⟩ := hTouches.alters.rooms hRoom
    rw [hLast]
    simp
  have hOthers {other : RoomId} {room : Room π} (hNe : other ≠ id)
      (hRoom : next.rooms.get? other = some room) (hStill : room.closed = false) :
      next.holders other = if room.running then 1 else 0 := by
    rw [hTouches.others other hNe] at hRoom
    rw [hHolders]
    exact hFed.holders hRoom hStill
  have hOwn := hFed.holders hTouches.before hOpen
  cases hBefore : before.running with
  | false =>
    rw [hBefore] at hOwn
    exact Fed.startFeed hMade hTouches.after hRunning ((hHolders id).trans hOwn) hOthers
  | true =>
    change next.Fed
    refine ⟨hMade, ?_⟩
    intro other room hRoom hStill
    by_cases hNe : other = id
    · subst hNe
      obtain rfl := Option.some.inj (hTouches.after.symm.trans hRoom)
      rw [hHolders, hRunning, hOwn, hBefore]
    · exact hOthers hNe hRoom hStill

theorem Fed.subscribing (hFed : hub.Fed) (key : RoomKey) (client : ClientId) (mailbox : MailboxId)
    (progress : Subscribing) : (progress.step key client mailbox hub).2.Fed := by
  cases progress with
  | looking =>
    rw [Subscribing.step]
    split
    · exact hFed
    · exact hFed.hosts (hosts_getOrMake hub key) rfl
  | joining id =>
    rw [Subscribing.step]
    rcases hub.joinRoom_cases id client mailbox with ⟨next, hJoin, hSpares, hTasks, -⟩ |
      ⟨before, after, next, hJoin, hTouches, hTasks, hOpen, -, hRunning⟩ <;> rw [hJoin]
    · exact hFed.hosts (hosts_of_same hSpares.rooms) hTasks
    · exact hFed.joined hTouches hTasks hOpen hRunning
  | discarding id => exact hFed.hosts (hosts_of_same fun _ => rfl) rfl
  | done outcome => exact hFed

theorem Fed.broadcastTo (hFed : hub.Fed) (id : RoomId) (payload : π) :
    (hub.broadcastTo id payload).2.Fed := by
  unfold Hub.broadcastTo
  split
  · next room hRoom =>
    exact hFed.hosts (hosts_set hRoom (room.keepsFlag_broadcast payload hub.boxes) rfl) rfl
  · exact hFed

theorem Fed.operation (hFed : hub.Fed) (operation : Operation π) : (operation.step hub).2.Fed := by
  cases operation with
  | subscribe key client mailbox progress =>
    rw [step_subscribe]
    exact hFed.subscribing key client mailbox progress
  | unsubscribe | broadcast | read => exact hFed
  | schedule => exact hFed.hosts (hosts_of_same fun _ => rfl) rfl
  | leave id client =>
    rw [step_leave, leaveRoom]
    split
    · next room hRoom => exact hFed.hosts (hosts_set hRoom (room.keepsFlag_leave client) rfl) rfl
    · exact hFed
  | send id payload => exact hFed.broadcastTo id payload
  | publish id payload =>
    have hNoted : Fed { hub with state := hub.state.message } :=
      hFed.hosts (hosts_of_same fun _ => rfl) rfl
    exact hNoted.broadcastTo id payload
  | teardown id generation =>
    have hClosed : (hub.closeIfIdle id generation).2.Fed := by
      unfold closeIfIdle
      split
      · next room hRoom =>
        exact hFed.hosts (hosts_set hRoom (room.keepsFlag_closeIfIdle generation) rfl) rfl
      · exact hFed
    rw [Operation.step]
    split
    · exact hFed
    · split <;> next hClose => rwa [hClose] at hClosed
  | remove id =>
    have hRemoved : (hub.removeIfSame id).Fed := hFed.hosts (hosts_of_same fun _ => rfl) rfl
    exact hRemoved.release

/-! ## Traffic -/

namespace Traffic

theorem fed_step {traffic : Traffic π} (hFed : traffic.hub.Fed) (move : Move π) :
    (traffic.step move).hub.Fed := by
  cases move with
  | request => exact hFed
  | go index =>
    rw [step]
    split
    · exact hFed.operation _
    · exact hFed
  | fire index =>
    obtain ⟨timers, hHub⟩ := traffic.step_fire index
    have hFired : Fed { traffic.hub with timers := timers } :=
      hFed.hosts (hosts_of_same fun _ => rfl) rfl
    rcases hHub with hHub | ⟨place, hHub⟩ <;> rw [hHub]
    · exact hFired
    · exact hFired.wake place
  | wait | mailboxes => exact hFed.hosts (hosts_of_same fun _ => rfl) rfl
  | connected place => exact hFed.connected place
  | ended place error offset => exact hFed.ended place error offset
  | wake place => exact hFed.wake place

/-- By induction on the moves. -/
theorem fed_run (kind : FeedKind) (config : HubConfig) (moves : List (Move π)) :
    (run kind config moves).hub.Fed := by
  induction moves using List.reverseRecOn with
  | nil => exact ⟨fun _ hNone => absurd hNone List.not_mem_nil, fun hRoom => by cases hRoom⟩
  | append_singleton moves move ih =>
    rw [run_snoc]
    exact fed_step ih move

end Traffic

end Hub

end MarketGateway
