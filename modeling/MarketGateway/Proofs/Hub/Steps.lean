import Mathlib.Tactic.SplitIfs
import MarketGateway.Proofs.Hub.Rooms

/-!
# How a step changes a hub

A step leaves the time and the settings of a hub alone, changes each room as `Room.Change` allows,
keeps every timer and sets at most timers that wake supervisors (`Hub.Alters`). The feeds change
less: of a room only whether its feed runs (`Hub.Undisturbed`).

Each step under a lock changes one room (`Hub.Touches`) or none (`Hub.Spares`), and its lemma says
what it answers in either case.
-/

namespace MarketGateway

variable {π : Type}

theorem Rooms.get?_set (rooms : Rooms π) (id other : RoomId) (room : Room π) :
    (rooms.set id room).get? other =
      if id = other then (rooms.get? other).map fun _ => room else rooms.get? other := by
  simp only [Rooms.set, Rooms.get?, List.getElem?_set']
  rfl

/-- All rooms stay, and the only one that can be new is the one that is found. -/
theorem Rooms.getOrMake_spec (rooms : Rooms π) (key : RoomKey) :
    (∀ id room, rooms.get? id = some room → (rooms.getOrMake key).2.get? id = some room) ∧
      ∀ id room, rooms.get? id = none → (rooms.getOrMake key).2.get? id = some room →
        id = (rooms.getOrMake key).1 ∧ room = { key := key } := by
  unfold Rooms.getOrMake
  split
  · refine ⟨fun _ _ hRoom => hRoom, ?_⟩
    intro id room hNone hSome
    exact absurd (hNone.symm.trans hSome) (by simp)
  · refine ⟨?_, ?_⟩
    · intro id room hRoom
      exact (List.getElem?_append_left (List.getElem?_eq_some_iff.mp hRoom).1).trans hRoom
    · intro id room hNone hSome
      have hLength : rooms.made.length ≤ id := List.getElem?_eq_none_iff.mp hNone
      have hNew : [({ key := key } : Room π)][id - rooms.made.length]? = some room :=
        (List.getElem?_append_right hLength).symm.trans hSome
      rw [List.getElem?_singleton] at hNew
      split at hNew
      · next hFirst =>
        exact ⟨Nat.le_antisymm (Nat.le_of_sub_eq_zero hFirst) hLength, (Option.some.inj hNew).symm⟩
      · cases hNew

namespace Hub

variable {hub next last : Hub π}

/-- Both hubs have the same timers but for some that wake supervisors. -/
def Wakes (timers more : Timers Alarm) : Prop :=
  ∃ wakes, more = timers ++ wakes ∧ ∀ timer ∈ wakes, ∃ task, timer.alarm = .wake task

theorem Wakes.refl (timers : Timers Alarm) : Wakes timers timers :=
  ⟨[], (List.append_nil _).symm, fun _ hTimer => absurd hTimer List.not_mem_nil⟩

theorem Wakes.trans {timers more all : Timers Alarm} (hFirst : Wakes timers more)
    (hSecond : Wakes more all) : Wakes timers all := by
  obtain ⟨first, rfl, hWakes⟩ := hFirst
  obtain ⟨second, rfl, hMore⟩ := hSecond
  refine ⟨first ++ second, List.append_assoc _ _ _, ?_⟩
  intro timer hTimer
  exact (List.mem_append.mp hTimer).elim (hWakes timer) (hMore timer)

/-! ## Feeds -/

/-- The rooms, the registry, the mailboxes, the time and the settings are left alone; only a feed
may stop. -/
structure Undisturbed (hub next : Hub π) : Prop where
  rooms (id : RoomId) : (next.rooms.get? id).map Room.still = (hub.rooms.get? id).map Room.still
  registered : next.rooms.registered = hub.rooms.registered
  boxes : next.boxes = hub.boxes
  now : next.now = hub.now
  config : next.config = hub.config
  cancelled : next.cancelled = hub.cancelled
  timers : Wakes hub.timers next.timers

theorem Undisturbed.refl (hub : Hub π) : hub.Undisturbed hub :=
  ⟨fun _ => rfl, rfl, rfl, rfl, rfl, rfl, .refl _⟩

theorem Undisturbed.trans (hFirst : hub.Undisturbed next) (hSecond : next.Undisturbed last) :
    hub.Undisturbed last where
  rooms id := (hSecond.rooms id).trans (hFirst.rooms id)
  registered := hSecond.registered.trans hFirst.registered
  boxes := hSecond.boxes.trans hFirst.boxes
  now := hSecond.now.trans hFirst.now
  config := hSecond.config.trans hFirst.config
  cancelled := hSecond.cancelled.trans hFirst.cancelled
  timers := hFirst.timers.trans hSecond.timers

theorem undisturbed_setTask (hub : Hub π) (id : TaskId) (room : RoomId) (supervisor : Supervisor)
    (state : FeedState) : hub.Undisturbed (hub.setTask id room supervisor state) := by
  unfold setTask
  split
  · exact ⟨fun _ => rfl, rfl, rfl, rfl, rfl, rfl, .refl _⟩
  · exact ⟨fun _ => rfl, rfl, rfl, rfl, rfl, rfl, .refl _⟩
  · next due _ =>
    refine ⟨fun _ => rfl, rfl, rfl, rfl, rfl, rfl, [_], rfl, ?_⟩
    intro timer hTimer
    exact ⟨id, by rw [List.mem_singleton.mp hTimer]⟩
  · dsimp only
    split
    · next r hRoom =>
      refine ⟨?_, rfl, rfl, rfl, rfl, rfl, .refl _⟩
      intro other
      simp only [Rooms.get?_set]
      split
      · next hSame =>
        subst hSame
        simp [hRoom, Room.still_feedStopped]
      · rfl
    · exact ⟨fun _ => rfl, rfl, rfl, rfl, rfl, rfl, .refl _⟩

theorem undisturbed_startFeed (hub : Hub π) (room : RoomId) :
    hub.Undisturbed (hub.startFeed room) := by
  unfold startFeed
  generalize Supervisor.start hub.config.reconnect (hub.stops room) hub.state = started
  obtain ⟨supervisor, state⟩ := started
  have hTasks : hub.Undisturbed { hub with tasks := hub.tasks ++ [FeedTask.mk room supervisor] } :=
    ⟨fun _ => rfl, rfl, rfl, rfl, rfl, rfl, .refl _⟩
  exact hTasks.trans (undisturbed_setTask _ _ _ _ _)

theorem undisturbed_connected (hub : Hub π) (id : TaskId) : hub.Undisturbed (hub.connected id) := by
  unfold connected
  split
  · exact ⟨fun _ => rfl, rfl, rfl, rfl, rfl, rfl, .refl _⟩
  · exact .refl hub

theorem undisturbed_ended (hub : Hub π) (id : TaskId) (error : Option FeedError)
    (offset : Binary64) : hub.Undisturbed (hub.ended id error offset) := by
  unfold ended
  split
  · next task _ =>
    split
    · generalize task.supervisor.ended hub.now (hub.stops task.room) error offset hub.state =
        outcome
      obtain ⟨supervisor, state, metrics⟩ := outcome
      have hRecord : hub.Undisturbed (hub.record metrics) :=
        ⟨fun _ => rfl, rfl, rfl, rfl, rfl, rfl, .refl _⟩
      exact hRecord.trans (undisturbed_setTask _ _ _ _ _)
    · exact .refl hub
  · exact .refl hub

theorem undisturbed_wake (hub : Hub π) (id : TaskId) : hub.Undisturbed (hub.wake id) := by
  unfold wake
  split
  · next task _ =>
    split
    · split
      · exact undisturbed_setTask _ _ _ _ _
      · exact .refl hub
    · exact .refl hub
  · exact .refl hub

theorem undisturbed_release (hub : Hub π) : hub.Undisturbed hub.release := by
  unfold release
  generalize List.range hub.tasks.length = tasks
  induction tasks generalizing hub with
  | nil => exact .refl hub
  | cons id rest ih =>
    refine Undisturbed.trans ?_ (ih _)
    dsimp only
    split
    · split
      · exact undisturbed_wake hub id
      · exact .refl hub
    · exact .refl hub

/-! ## Steps -/

/-- What a move changes at most of the rooms, the time and the settings. -/
structure Shifts (hub next : Hub π) : Prop where
  now : hub.now ≤ next.now
  config : next.config = hub.config
  cancelled : next.cancelled = hub.cancelled
  rooms {id : RoomId} {room : Room π} (hRoom : hub.rooms.get? id = some room) :
    ∃ after, next.rooms.get? id = some after ∧ room.Change after
  /-- A room that is made has had no members. -/
  made {id : RoomId} {after : Room π} (hBefore : hub.rooms.get? id = none)
    (hAfter : next.rooms.get? id = some after) : after.members = [] ∧ after.generation = 0

/-- Steps take no time, and set at most timers that wake supervisors. -/
structure Alters (hub next : Hub π) : Prop extends Shifts hub next where
  sameTime : next.now = hub.now
  timers : Wakes hub.timers next.timers

theorem shifts_of_rooms (hNow : hub.now ≤ next.now) (hConfig : next.config = hub.config)
    (hCancelled : next.cancelled = hub.cancelled)
    (hRooms : ∀ id, next.rooms.get? id = hub.rooms.get? id) : hub.Shifts next where
  now := hNow
  config := hConfig
  cancelled := hCancelled
  rooms {id room} hRoom := ⟨room, (hRooms id).trans hRoom, .refl room⟩
  made {id after} hBefore hAfter := by
    rw [hRooms, hBefore] at hAfter
    cases hAfter

theorem Alters.refl (hub : Hub π) : hub.Alters hub :=
  ⟨shifts_of_rooms (Nat.le_refl _) rfl rfl fun _ => rfl, rfl, .refl _⟩

theorem Alters.then_undisturbed (hFirst : hub.Alters next) (hSecond : next.Undisturbed last) :
    hub.Alters last where
  now := hSecond.now ▸ hFirst.now
  sameTime := hSecond.now.trans hFirst.sameTime
  config := hSecond.config.trans hFirst.config
  cancelled := hSecond.cancelled.trans hFirst.cancelled
  timers := hFirst.timers.trans hSecond.timers
  rooms {id room} hRoom := by
    obtain ⟨middle, hMiddle, hChange⟩ := hFirst.rooms hRoom
    have hStill := hSecond.rooms id
    rw [hMiddle, Option.map_some, Option.map_eq_some_iff] at hStill
    obtain ⟨after, hAfter, hSame⟩ := hStill
    exact ⟨after, hAfter, hChange.of_still hSame⟩
  made {id after} hBefore hAfter := by
    have hStill := hSecond.rooms id
    rw [hAfter, Option.map_some, eq_comm, Option.map_eq_some_iff] at hStill
    obtain ⟨middle, hMiddle, hSame⟩ := hStill
    obtain ⟨hMembers, hGeneration⟩ := hFirst.made hBefore hMiddle
    exact ⟨(congrArg Room.members hSame).symm.trans hMembers,
      (congrArg Room.generation hSame).symm.trans hGeneration⟩

theorem Undisturbed.alters (hSame : hub.Undisturbed next) : hub.Alters next :=
  (Alters.refl hub).then_undisturbed hSame

/-- One room is changed and the others are not. -/
structure Touches (hub next : Hub π) (id : RoomId) (before after : Room π) : Prop where
  alters : hub.Alters next
  before : hub.rooms.get? id = some before
  after : next.rooms.get? id = some after
  others (other : RoomId) (hOther : other ≠ id) :
    next.rooms.get? other = hub.rooms.get? other

/-- No room is changed. -/
structure Spares (hub next : Hub π) : Prop where
  alters : hub.Alters next
  rooms (id : RoomId) : next.rooms.get? id = hub.rooms.get? id

theorem Spares.refl (hub : Hub π) : hub.Spares hub := ⟨.refl hub, fun _ => rfl⟩

theorem touches_set {id : RoomId} {before after : Room π}
    (hBefore : hub.rooms.get? id = some before) (hChange : before.Change after) (boxes : Mailboxes π) (metrics : List Metric) :
    hub.Touches
      { hub with rooms := hub.rooms.set id after, boxes := boxes, metrics := metrics }
      id before after where
  before := hBefore
  after := by rw [Rooms.get?_set, if_pos rfl, hBefore, Option.map_some]
  others other hOther := by rw [Rooms.get?_set, if_neg (Ne.symm hOther)]
  alters := {
    now := Nat.le_refl _
    sameTime := rfl
    config := rfl
    cancelled := rfl
    timers := .refl _
    rooms := by
      intro other room hRoom
      rw [Rooms.get?_set, hRoom]
      split
      · next hSame =>
        subst hSame
        obtain rfl := Option.some.inj (hBefore.symm.trans hRoom)
        exact ⟨after, rfl, hChange⟩
      · exact ⟨room, rfl, .refl room⟩
    made := by
      intro other next hNone hSome
      rw [Rooms.get?_set, hNone] at hSome
      split at hSome <;> cases hSome }

theorem spares_set {id : RoomId} {room : Room π} (hRoom : hub.rooms.get? id = some room) :
    hub.Spares { hub with rooms := hub.rooms.set id room } := by
  have hTouches := touches_set hRoom (.refl room) hub.boxes hub.metrics
  refine ⟨hTouches.alters, ?_⟩
  intro other
  by_cases hOther : other = id
  · rw [hOther, hRoom]
    exact hTouches.after
  · exact hTouches.others other hOther

theorem spares_removeIfSame (hub : Hub π) (room : RoomId) : hub.Spares (hub.removeIfSame room) :=
  ⟨⟨shifts_of_rooms (Nat.le_refl _) rfl rfl fun _ => rfl, rfl, .refl _⟩, fun _ => rfl⟩

/-- The room of a key is registered, or it is made. -/
theorem getOrMake_spec (hub : Hub π) (key : RoomKey) :
    hub.Alters (hub.getOrMake key).2 ∧
      (∀ id room, hub.rooms.get? id = some room →
        (hub.getOrMake key).2.rooms.get? id = some room) ∧
      (∀ id room, hub.rooms.get? id = none → (hub.getOrMake key).2.rooms.get? id = some room →
        id = (hub.getOrMake key).1) := by
  obtain ⟨hKept, hMade⟩ := hub.rooms.getOrMake_spec key
  unfold getOrMake
  generalize hub.rooms.getOrMake key = result at hKept hMade
  obtain ⟨id, rooms⟩ := result
  refine ⟨⟨⟨Nat.le_refl _, rfl, rfl, ?_, ?_⟩, rfl, .refl _⟩, hKept,
    fun other room hNone hSome => (hMade other room hNone hSome).1⟩
  · intro other room hRoom
    exact ⟨room, hKept other room hRoom, .refl room⟩
  · intro other room hNone hSome
    rw [(hMade other room hNone hSome).2]
    exact ⟨rfl, rfl⟩

theorem joinRoom_spec (hub : Hub π) (room : RoomId) (client : ClientId) (mailbox : MailboxId) :
    ((hub.joinRoom room client mailbox).1 = none ∧
      hub.Spares (hub.joinRoom room client mailbox).2 ∧
      ∀ r, hub.rooms.get? room = some r → r.closed = true) ∨
    ∃ start before after, (hub.joinRoom room client mailbox).1 = some start ∧
      hub.Touches (hub.joinRoom room client mailbox).2 room before after ∧
      after.members ≠ [] := by
  unfold joinRoom
  split
  · next r hRoom =>
    rcases r.join_spec client mailbox hub.boxes with ⟨hClosed, hJoin⟩ |
      ⟨start, next, boxes, hJoin, hChange, hMembers⟩
    · rw [hJoin]
      refine .inl ⟨rfl, spares_set hRoom, ?_⟩
      intro other hOther
      obtain rfl := Option.some.inj (hRoom.symm.trans hOther)
      exact hClosed
    · rw [hJoin]
      exact .inr ⟨start, r, next, rfl, touches_set hRoom hChange boxes hub.metrics, hMembers⟩
  · next hRoom => exact .inl ⟨rfl, .refl hub, fun r hR => absurd (hRoom.symm.trans hR) (by simp)⟩

theorem leaveRoom_spec (hub : Hub π) (room : RoomId) (client : ClientId) :
    (hub.leaveRoom room client = (.notMember, (hub.leaveRoom room client).2) ∧
      hub.Spares (hub.leaveRoom room client).2) ∨
    ∃ before after, hub.Touches (hub.leaveRoom room client).2 room before after ∧
      (((hub.leaveRoom room client).1 = .others ∧ after.members ≠ []) ∨
        ((hub.leaveRoom room client).1 = .emptied after.generation ∧ before.members ≠ [] ∧
          after.members = [])) := by
  unfold leaveRoom
  split
  · next r hRoom =>
    rcases r.leave_spec client with hLeave | ⟨next, hLeave, hChange, hMembers⟩ |
      ⟨next, hLeave, hChange, hBefore, hMembers⟩
    · rw [hLeave]
      exact .inl ⟨rfl, spares_set hRoom⟩
    · rw [hLeave]
      exact .inr ⟨r, next, touches_set hRoom hChange hub.boxes hub.metrics, .inl ⟨rfl, hMembers⟩⟩
    · rw [hLeave]
      exact .inr ⟨r, next, touches_set hRoom hChange hub.boxes hub.metrics,
        .inr ⟨rfl, hBefore, hMembers⟩⟩
  · exact .inl ⟨rfl, .refl hub⟩

theorem closeIfIdle_spec (hub : Hub π) (room : RoomId) (generation : Nat) :
    ((hub.closeIfIdle room generation).1 = false ∧
      hub.Spares (hub.closeIfIdle room generation).2 ∧
      ∀ r, hub.rooms.get? room = some r →
        ¬ (r.closed = false ∧ r.members = [] ∧ r.generation = generation)) ∨
    ((hub.closeIfIdle room generation).1 = true ∧
      ∃ before after, hub.Touches (hub.closeIfIdle room generation).2 room before after ∧
        before.closed = false ∧ before.members = [] ∧ before.generation = generation ∧
        after.closed = true ∧ after.members = []) := by
  unfold closeIfIdle
  split
  · next r hRoom =>
    rcases r.closeIfIdle_spec generation with ⟨hClose, hBusy⟩ |
      ⟨next, hClose, hChange, hIdle⟩
    · rw [hClose]
      refine .inl ⟨rfl, spares_set hRoom, ?_⟩
      intro other hOther
      obtain rfl := Option.some.inj (hRoom.symm.trans hOther)
      exact hBusy
    · rw [hClose]
      exact .inr ⟨rfl, r, next, touches_set hRoom hChange hub.boxes hub.metrics, hIdle⟩
  · next hRoom => exact .inl ⟨rfl, .refl hub, fun r hR => absurd (hRoom.symm.trans hR) (by simp)⟩

theorem broadcastTo_spec (hub : Hub π) (room : RoomId) (payload : π) :
    ((hub.broadcastTo room payload).1.emptied = false ∧
      hub.Spares (hub.broadcastTo room payload).2) ∨
    ∃ before after, hub.Touches (hub.broadcastTo room payload).2 room before after ∧
      after.closed = before.closed ∧
      ((hub.broadcastTo room payload).1.emptied = true ↔
        before.members ≠ [] ∧ after.members = []) := by
  unfold broadcastTo
  split
  · next r hRoom =>
    obtain ⟨hChange, hClosed, hEmptied⟩ := r.broadcast_spec payload hub.boxes
    generalize r.broadcast payload hub.boxes = outcome at hChange hClosed hEmptied
    obtain ⟨stats, next, boxes⟩ := outcome
    exact .inr ⟨r, next, touches_set hRoom hChange boxes _, hClosed, hEmptied⟩
  · exact .inl ⟨rfl, .refl hub⟩

end Hub

end MarketGateway
