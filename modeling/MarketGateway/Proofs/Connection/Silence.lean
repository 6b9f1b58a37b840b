import MarketGateway.Proofs.Connection.Delivery

/-!
# The read deadline

Among the moves of a connection only a frame that comes in starts the read deadline anew, and only
the clock moves the time (`timing_step_frame`, `timing_step_wait`, `timing_step_of_other`). So the
deadline is over when the peer has been silent for its length, whatever the connection itself
writes.

`Listening` follows a connection that nothing else disturbs along its moves, in any order and with
any of them at one time. The clock is asked to be `Prompt`: it does not pass the end of the deadline
before the reading side has seen it. A frame that comes in at the very end of the deadline still
counts if the reading side takes it before it checks.
-/

namespace MarketGateway

namespace Connection

variable {connection : Connection} {move : Move}

/-! ## The clock and the deadline -/

/-- The settings, the time and the end of the read deadline. -/
def timing (connection : Connection) : ConnectionConfig × Duration × Duration :=
  (connection.config, connection.now, connection.readDue)

theorem timing_heed (connection : Connection) : connection.heed.timing = connection.timing := by
  unfold heed
  split <;> rfl

theorem timing_deliver (connection : Connection) (content : String) :
    (connection.deliver content).timing = connection.timing := by
  unfold deliver
  split <;> rfl

theorem timing_onFrame (connection : Connection) (frame : Frame) :
    (connection.onFrame frame).timing = connection.timing := by
  rcases connection.onFrame_cases frame with ⟨content, -, hNext⟩ | ⟨-, -, _, hNext⟩ | ⟨-, hNext⟩
  · rw [hNext, timing_deliver]
  · rw [hNext]
    rfl
  · rw [hNext]
    rfl

theorem timing_checkRead (connection : Connection) :
    connection.checkRead.timing = connection.timing := by
  unfold checkRead
  split <;> rfl

theorem timing_recv (connection : Connection) : connection.recv.2.timing = connection.timing := by
  rcases connection.recv_cases with ⟨_, _, -, hRecv⟩ | ⟨-, -, hRecv⟩ | ⟨-, -, _, hRecv, -⟩ <;>
    rw [hRecv] <;> rfl

theorem timing_nextWrite (connection : Connection) :
    connection.nextWrite.2.timing = connection.timing := by
  unfold nextWrite
  split_ifs
  · rfl
  · rfl
  · rfl
  · split <;> rfl

theorem timing_wrote (connection : Connection) : connection.wrote.timing = connection.timing := by
  unfold wrote
  split <;> rfl

theorem timing_writeFailed (connection : Connection) :
    connection.writeFailed.timing = connection.timing := by
  unfold writeFailed
  split <;> rfl

theorem timing_checkWrite (connection : Connection) :
    connection.checkWrite.2.timing = connection.timing := by
  unfold checkWrite
  split
  · split <;> rfl
  · dsimp only
    split <;> rfl
  · rfl

/-- A frame comes in. -/
def Move.isFrame : Move → Bool
  | socket (.frame _) => true
  | _ => false

theorem timing_step_wait (connection : Connection) (time : Duration) :
    (connection.step (.wait time)).timing =
      (connection.config, connection.now + time, connection.readDue) := rfl

theorem timing_step_frame (hFrame : move.isFrame = true) (hReading : connection.reading = true) :
    (connection.step move).timing =
      (connection.config, connection.now,
        connection.now + connection.config.heartbeat.readDeadline) := by
  unfold Move.isFrame at hFrame
  split at hFrame
  · next frame =>
    rw [step, receive, if_pos hReading]
    exact timing_onFrame _ frame
  · cases hFrame

/-- Neither does anything else but a frame renew the deadline, nor does it take time. -/
theorem timing_step_of_other (connection : Connection) (hFrame : move.isFrame = false)
    (hWait : ∀ time, move ≠ .wait time) :
    (connection.step move).timing = connection.timing := by
  cases move with
  | socket event =>
    cases event with
    | frame frame => cases hFrame
    | ended | failed =>
      simp only [step, receive]
      split <;> rfl
  | recv => exact connection.timing_recv
  | stop => rfl
  | heed => exact connection.timing_heed
  | checkRead => exact connection.timing_checkRead
  | send content => rfl
  | write missesStop missesPing =>
    exact (connection.glimpse missesStop missesPing).timing_nextWrite
  | wrote => exact connection.timing_wrote
  | writeFailed => exact connection.timing_writeFailed
  | checkWrite => exact connection.timing_checkWrite
  | wait time => exact absurd rfl (hWait time)

theorem fault?_ne_readDeadline (event : SocketEvent) (inbound : Queue String) (after : Duration) :
    event.fault? inbound ≠ some (.readDeadline after) := by
  unfold SocketEvent.fault?
  split
  · simp
  · simp
  · simp
  · split <;> simp

/-- The end of the read deadline is met at the check of the reading side, and at no other move. -/
theorem eq_checkRead_of_fault? {after : Duration}
    (hFault : move.fault? connection = some (.readDeadline after)) :
    move = .checkRead ∧ connection.reading = true ∧ connection.readDue ≤ connection.now := by
  cases move with
  | checkRead => exact ⟨rfl, (Option.ite_none_right_eq_some.mp hFault).1⟩
  | socket event =>
    exact absurd (Option.ite_none_right_eq_some.mp hFault).2 (fault?_ne_readDeadline _ _ _)
  | writeFailed =>
    simp only [Move.fault?] at hFault
    split at hFault <;> cases hFault
  | checkWrite =>
    simp only [Move.fault?] at hFault
    split at hFault
    · cases (Option.ite_none_right_eq_some.mp hFault).2
    · cases hFault
  | recv | stop | heed | send | write | wrote | wait => cases hFault

/-- The move does not let time pass the end of the read deadline. -/
def Move.InTime (connection : Connection) : Move → Prop
  | wait time => connection.reading = true → connection.now + time ≤ connection.readDue
  | _ => True

instance (connection : Connection) : (move : Move) → Decidable (move.InTime connection)
  | .wait time =>
    inferInstanceAs
      (Decidable (connection.reading = true → connection.now + time ≤ connection.readDue))
  | .socket _ | .recv | .stop | .heed | .checkRead | .send _ | .write _ _ | .wrote | .writeFailed
  | .checkWrite => .isTrue trivial

/-- The reading side goes on, and its deadline, which has not passed, began at the given time. -/
structure Listens (config : ConnectionConfig) (since : Duration) (connection : Connection) :
    Prop where
  reading : connection.reading = true
  config_eq : connection.config = config
  readDue : connection.readDue = since + config.heartbeat.readDeadline
  now_le : connection.now ≤ since + config.heartbeat.readDeadline

theorem Listens.step {config : ConnectionConfig} {since : Duration}
    (hListens : connection.Listens config since) (hInTime : move.InTime connection)
    (hReading : (connection.step move).reading = true) :
    (connection.step move).Listens config (if move.isFrame then connection.now else since) := by
  obtain ⟨hBefore, hConfig, hDue, hNow⟩ := hListens
  by_cases hFrame : move.isFrame = true
  · have hTiming := timing_step_frame hFrame hBefore
    simp only [timing, Prod.mk.injEq] at hTiming
    obtain ⟨hConfigNext, hNowNext, hDueNext⟩ := hTiming
    rw [if_pos hFrame]
    exact ⟨hReading, hConfigNext.trans hConfig, by rw [hDueNext, hConfig],
      by rw [hNowNext]; exact Nat.le_add_right _ _⟩
  · rw [if_neg hFrame]
    by_cases hWait : ∃ time, move = .wait time
    · obtain ⟨time, rfl⟩ := hWait
      exact ⟨hReading, hConfig, hDue, hDue ▸ hInTime hBefore⟩
    · have hTiming := connection.timing_step_of_other (Bool.eq_false_iff.mpr hFrame)
        (not_exists.mp hWait)
      simp only [timing, Prod.mk.injEq] at hTiming
      obtain ⟨hConfigNext, hNowNext, hDueNext⟩ := hTiming
      exact ⟨hReading, hConfigNext.trans hConfig, hDueNext.trans hDue,
        Nat.le_trans (Nat.le_of_eq hNowNext) hNow⟩

/-- A check at the end of the deadline ends the reading side. -/
theorem checkRead_of_due (hReading : connection.reading = true)
    (hDue : connection.readDue ≤ connection.now) :
    connection.checkRead =
      (connection.fail (.readDeadline connection.config.heartbeat.readDeadline)).finishReading :=
  if_pos (by simp [hReading, hDue])

namespace Course

/-! ## Silence -/

/-- When the last frame came in if these moves follow; the given time if none of them brings one. -/
def heardAfter (course : Course) (heard : Duration) : List Move → Duration
  | [] => heard
  | move :: moves =>
    (course.step move).heardAfter (if move.isFrame then course.connection.now else heard) moves

/-- When the last frame came in, or when the connection was established if none has. -/
def heard (config : ConnectionConfig) (now : Duration) (moves : List Move) : Duration :=
  heardAfter { connection := establish config now } now moves

/-- In these moves, time does not pass the end of the read deadline before the reading side has seen
it. -/
def PromptAfter (course : Course) : List Move → Prop
  | [] => True
  | move :: moves => move.InTime course.connection ∧ (course.step move).PromptAfter moves

instance decidablePromptAfter :
    (course : Course) → (moves : List Move) → Decidable (course.PromptAfter moves)
  | _, [] => .isTrue trivial
  | course, move :: moves =>
    have := decidablePromptAfter (course.step move) moves
    inferInstanceAs (Decidable (_ ∧ _))

def Prompt (config : ConnectionConfig) (now : Duration) (moves : List Move) : Prop :=
  PromptAfter { connection := establish config now } moves

/-- Nothing but silence ends the connection: it is not stopped, and its sides meet no other failure
than the end of the read deadline. -/
structure Undisturbed (config : ConnectionConfig) (now : Duration) (moves : List Move) : Prop where
  unstopped : (run config now moves).stopped = false
  faults : ∀ error ∈ (run config now moves).faults,
    error = .readDeadline config.heartbeat.readDeadline

variable {config : ConnectionConfig} {now : Duration} {moves : List Move} {move : Move}

theorem heard_snoc (config : ConnectionConfig) (now : Duration) (moves : List Move) (move : Move) :
    heard config now (moves ++ [move]) =
      if move.isFrame then (run config now moves).connection.now else heard config now moves := by
  have hAfter (course : Course) (since : Duration) :
      course.heardAfter since (moves ++ [move]) =
        if move.isFrame then (course.steps moves).connection.now
        else course.heardAfter since moves := by
    induction moves generalizing course since with
    | nil => rfl
    | cons first rest ih => exact ih _ _
  exact hAfter _ _

theorem prompt_snoc (config : ConnectionConfig) (now : Duration) (moves : List Move)
    (move : Move) :
    Prompt config now (moves ++ [move]) ↔
      Prompt config now moves ∧ move.InTime (run config now moves).connection := by
  have hAfter (course : Course) :
      course.PromptAfter (moves ++ [move]) ↔
        course.PromptAfter moves ∧ move.InTime (course.steps moves).connection := by
    induction moves generalizing course with
    | nil => simp [PromptAfter, steps]
    | cons first rest ih =>
      rw [List.cons_append, PromptAfter, PromptAfter, ih, and_assoc]
      rfl
  exact hAfter _

theorem faults_snoc (config : ConnectionConfig) (now : Duration) (moves : List Move) (move : Move) :
    (run config now (moves ++ [move])).faults =
      (run config now moves).faults ++ (move.fault? (run config now moves).connection).toList := by
  rw [run_snoc]
  rfl

theorem Undisturbed.of_snoc (hUndisturbed : Undisturbed config now (moves ++ [move])) :
    Undisturbed config now moves where
  unstopped := by
    have hStopped := hUndisturbed.unstopped
    rw [run_snoc] at hStopped
    exact (Bool.or_eq_false_iff.mp hStopped).1
  faults error hMem := by
    refine hUndisturbed.faults error ?_
    rw [faults_snoc]
    exact List.mem_append_left _ hMem

/-- What a failure of the next move says about it. -/
theorem Undisturbed.fault_cases (hUndisturbed : Undisturbed config now (moves ++ [move])) :
    move.fault? (run config now moves).connection = none ∨
      move.fault? (run config now moves).connection =
        some (.readDeadline config.heartbeat.readDeadline) := by
  cases hFault : move.fault? (run config now moves).connection with
  | none => exact .inl rfl
  | some error =>
    refine .inr (congrArg some (hUndisturbed.faults error ?_))
    rw [faults_snoc, hFault]
    exact List.mem_append_right _ (List.mem_singleton.mpr rfl)

/-- Nobody tells the sides of an undisturbed connection to stop before one meets a failure. -/
theorem Undisturbed.not_cancelled (hUndisturbed : Undisturbed config now moves)
    (hNone : (run config now moves).faults = []) :
    (run config now moves).connection.cancelled = false := by
  refine Bool.eq_false_iff.mpr ?_
  intro hCancelled
  rcases (sound_run config now moves).cause (.inl hCancelled) with hSome | hStopped
  · exact hSome hNone
  · exact Bool.noConfusion (hUndisturbed.unstopped.symm.trans hStopped)

theorem Undisturbed.reading (hUndisturbed : Undisturbed config now moves)
    (hNone : (run config now moves).faults = []) :
    (run config now moves).connection.reading = true := by
  rw [← Bool.not_eq_false]
  intro hOver
  have hCancelled := (sound_run config now moves).told hOver
  exact Bool.noConfusion ((hUndisturbed.not_cancelled hNone).symm.trans hCancelled)

/-- The reading side of a connection that nothing but silence ends. -/
inductive Listening (config : ConnectionConfig) (now : Duration) (moves : List Move) : Prop
  /-- It goes on. -/
  | going (hListens : (run config now moves).connection.Listens config (heard config now moves))
      (hFaults : (run config now moves).faults = [])
  /-- It checked when the deadline ended. -/
  | ended {before after : List Move} (hMoves : moves = before ++ .checkRead :: after)
      (hBefore : (run config now before).connection.reading = true)
      (hNow : (run config now before).connection.now =
        heard config now before + config.heartbeat.readDeadline)
      (hEnd : (run config now (before ++ [.checkRead])).connection.reading = false)
      (hOver : (run config now moves).connection.reading = false)
      (hFaults : (run config now moves).faults = [.readDeadline config.heartbeat.readDeadline])

/-- A move while the reading side goes on. -/
theorem listening_of_going
    (hListens : (run config now moves).connection.Listens config (heard config now moves))
    (hFaults : (run config now moves).faults = [])
    (hInTime : move.InTime (run config now moves).connection)
    (hUndisturbed : Undisturbed config now (moves ++ [move])) :
    Listening config now (moves ++ [move]) := by
  have hNext : (run config now (moves ++ [move])).connection =
      (run config now moves).connection.step move := by
    rw [run_snoc]
    rfl
  have hFaultsNext := faults_snoc config now moves move
  rw [hFaults] at hFaultsNext
  rcases hUndisturbed.fault_cases with hNone | hSilent
  · rw [hNone] at hFaultsNext
    have hStill := hUndisturbed.reading hFaultsNext
    rw [hNext] at hStill
    refine .going ?_ hFaultsNext
    rw [hNext, heard_snoc]
    exact hListens.step hInTime hStill
  · rw [hSilent] at hFaultsNext
    obtain ⟨rfl, hReading, hDue⟩ := eq_checkRead_of_fault? hSilent
    have hEnd : (run config now (moves ++ [.checkRead])).connection.reading = false := by
      rw [hNext, Connection.step, checkRead_of_due hReading hDue]
      rfl
    exact .ended rfl hReading (Nat.le_antisymm hListens.now_le (hListens.readDue ▸ hDue)) hEnd hEnd
      hFaultsNext

theorem listening_run (hPrompt : Prompt config now moves)
    (hUndisturbed : Undisturbed config now moves) : Listening config now moves := by
  induction moves using List.reverseRecOn with
  | nil => exact .going ⟨rfl, rfl, rfl, Nat.le_add_right _ _⟩ rfl
  | append_singleton moves move ih =>
    obtain ⟨hBefore, hInTime⟩ := (prompt_snoc config now moves move).mp hPrompt
    cases ih hBefore hUndisturbed.of_snoc with
    | going hListens hFaults => exact listening_of_going hListens hFaults hInTime hUndisturbed
    | ended hMoves hReading hNow hEnd hOver hFaults =>
      -- a side that is over does not meet the end of the deadline again
      have hNone : move.fault? (run config now moves).connection = none := by
        refine hUndisturbed.fault_cases.resolve_right ?_
        intro hSilent
        exact Bool.noConfusion (hOver.symm.trans (eq_checkRead_of_fault? hSilent).2.1)
      refine .ended (by rw [hMoves, List.append_assoc, List.cons_append]) hReading hNow
        hEnd (over_steps hOver [move]).1 ?_
      rw [faults_snoc, hFaults, hNone]
      rfl

/-- A connection that listens ends if time goes on to the end of the deadline without a frame. -/
theorem ends_of_listens {course : Course} {since rest : Duration}
    (hListens : course.connection.Listens config since) (hFaults : course.faults = [])
    (hRest : course.connection.now + rest = since + config.heartbeat.readDeadline) :
    let next := (course.step (.wait rest)).step .checkRead
    next.connection.now = since + config.heartbeat.readDeadline ∧
      next.connection.reading = false ∧
      next.faults = [.readDeadline config.heartbeat.readDeadline] := by
  have hReading : (course.step (.wait rest)).connection.reading = true := hListens.reading
  have hConfig : (course.step (.wait rest)).connection.config = config := hListens.config_eq
  have hDue : (course.step (.wait rest)).connection.readDue ≤
      (course.step (.wait rest)).connection.now :=
    Nat.le_of_eq (hListens.readDue.trans hRest.symm)
  have hFault : Move.checkRead.fault? (course.step (.wait rest)).connection =
      some (.readDeadline config.heartbeat.readDeadline) := by
    rw [Move.fault?, if_pos ⟨hReading, hDue⟩, hConfig]
  have hNext : ((course.step (.wait rest)).step .checkRead).connection =
      (course.step (.wait rest)).connection.checkRead := rfl
  refine ⟨?_, ?_, ?_⟩
  · rw [hNext, checkRead_of_due hReading hDue]
    exact hRest
  · rw [hNext, checkRead_of_due hReading hDue]
    rfl
  · show course.faults ++ [] ++
      (Move.checkRead.fault? (course.step (.wait rest)).connection).toList = _
    rw [hFaults, hFault]
    rfl

/-- What the read deadline does on a connection that nothing but silence ends. -/
structure Guarded (config : ConnectionConfig) (now : Duration) (moves : List Move) : Prop where
  /-- While the connection goes on, the silence has not been longer than the deadline. -/
  going (hReading : (run config now moves).connection.reading = true) :
    (run config now moves).connection.now ≤
        heard config now moves + config.heartbeat.readDeadline ∧
      (run config now moves).faults = [] ∧ (run config now moves).connection.cancelled = false
  /-- It ends when the silence has been as long as the deadline, and its owner is told so. -/
  ended (hOver : (run config now moves).connection.reading = false) :
    (∃ before after, moves = before ++ .checkRead :: after ∧
      (run config now before).connection.reading = true ∧
      (run config now before).connection.now =
        heard config now before + config.heartbeat.readDeadline ∧
      (run config now (before ++ [.checkRead])).connection.reading = false) ∧
      (run config now moves).faults = [.readDeadline config.heartbeat.readDeadline] ∧
      (run config now moves).connection.cancelled = true ∧
      ((run config now moves).errors = [] →
        ∀ error, Move.recv.error? (run config now moves).connection = some error →
          error = .readDeadline config.heartbeat.readDeadline)
  /-- It does not end as long as every silence is shorter. -/
  spared (hShort : ∀ before after, moves = before ++ after →
      (run config now before).connection.now <
        heard config now before + config.heartbeat.readDeadline) :
    (run config now moves).connection.reading = true
  /-- It ends if no frame comes for the rest of the deadline. -/
  due (hReading : (run config now moves).connection.reading = true) :
    let rest := heard config now moves + config.heartbeat.readDeadline -
      (run config now moves).connection.now
    let next := run config now (moves ++ [.wait rest, .checkRead])
    next.connection.now = heard config now moves + config.heartbeat.readDeadline ∧
      next.connection.reading = false ∧
      next.faults = [.readDeadline config.heartbeat.readDeadline]
  /-- A frame of any kind starts the deadline anew, also at the very end of it. -/
  renewed (move : Move) (hFrame : move.isFrame = true)
      (hReading : (run config now moves).connection.reading = true) :
    (run config now (moves ++ [move])).connection.readDue =
      (run config now moves).connection.now + config.heartbeat.readDeadline
  /-- Nothing else does, and what is written in particular. -/
  kept (move : Move) (hFrame : move.isFrame = false) :
    (run config now (moves ++ [move])).connection.readDue =
      (run config now moves).connection.readDue

/-- **A connection that nothing else ends is ended by silence, as soon as it has lasted for the read
deadline, and not before.** The deadline starts anew with every frame that comes in, whatever it
brings, and with nothing that is written. -/
theorem ended_by_silence_alone (config : ConnectionConfig) (now : Duration) (moves : List Move)
    (hPrompt : Prompt config now moves) (hUndisturbed : Undisturbed config now moves) :
    Guarded config now moves where
  going hReading := by
    cases listening_run hPrompt hUndisturbed with
    | going hListens hFaults =>
      exact ⟨hListens.now_le, hFaults, hUndisturbed.not_cancelled hFaults⟩
    | ended _ _ _ _ hOver _ => exact Bool.noConfusion (hReading.symm.trans hOver)
  ended hOver := by
    have hSound := sound_run config now moves
    cases listening_run hPrompt hUndisturbed with
    | going hListens _ => exact Bool.noConfusion (hListens.reading.symm.trans hOver)
    | ended hMoves hReading hNow hEnd _ hFaults =>
      refine ⟨⟨_, _, hMoves, hReading, hNow, hEnd⟩, hFaults, hSound.told hOver, ?_⟩
      intro hNone error hError
      rcases first_error hSound hNone hError with hFirst | ⟨hEmpty, -, -⟩
      · rw [hFaults] at hFirst
        exact (Option.some.inj hFirst).symm
      · rw [hFaults] at hEmpty
        cases hEmpty
  spared hShort := by
    cases listening_run hPrompt hUndisturbed with
    | going hListens _ => exact hListens.reading
    | ended hMoves _ hNow _ _ _ => exact absurd hNow (Nat.ne_of_lt (hShort _ _ hMoves))
  due hReading := by
    have hRun (rest : Duration) : run config now (moves ++ [.wait rest, .checkRead]) =
        ((run config now moves).step (.wait rest)).step .checkRead := List.foldl_append
    cases listening_run hPrompt hUndisturbed with
    | going hListens hFaults =>
      dsimp only
      rw [hRun]
      exact ends_of_listens hListens hFaults (Nat.add_sub_of_le hListens.now_le)
    | ended _ _ _ _ hOver _ => exact Bool.noConfusion (hReading.symm.trans hOver)
  renewed move hFrame hReading := by
    rw [run_snoc]
    cases listening_run hPrompt hUndisturbed with
    | going hListens _ =>
      have hTiming := timing_step_frame hFrame hReading
      rw [hListens.config_eq] at hTiming
      exact congrArg (fun timing => timing.2.2) hTiming
    | ended _ _ _ _ hOver _ => exact Bool.noConfusion (hReading.symm.trans hOver)
  kept move hFrame := by
    rw [run_snoc]
    by_cases hWait : ∃ time, move = .wait time
    · obtain ⟨time, rfl⟩ := hWait
      rfl
    · have hTiming :=
        (run config now moves).connection.timing_step_of_other hFrame (not_exists.mp hWait)
      exact congrArg (fun timing => timing.2.2) hTiming

/-! ## Frames of every kind, and a ping -/

/-- A ping is due after 40 ms of silence, and the end of the deadline after 100 ms. -/
def watchful : ConnectionConfig where
  url := "wss://exchange"
  heartbeat := ⟨.ofMillis 40, .ofMillis 100⟩
  connectTimeout := .ofMillis 500
  writeTimeout := .ofMillis 50
  outboundCapacity := 4
  inboundCapacity := 4

/-- The second frame, which is no text, comes at the very end of the deadline. A ping and a text are
written after the last one. -/
def fadingOut : List Move :=
  [.wait (.ofMillis 60), .socket (.frame (.text "one")), .wait (.ofMillis 100),
    .socket (.frame (.binary [0xff])), .checkRead, .socket (.frame (.ping [])),
    .wait (.ofMillis 20), .socket (.frame (.pong [])), .wait (.ofMillis 40), .write false false,
    .wrote, .send "two", .write false false, .wrote, .wait (.ofMillis 60), .checkRead]

theorem ended_by_silence_alone_of_fadingOut :
    Prompt watchful 0 fadingOut ∧ Undisturbed watchful 0 fadingOut ∧
      (run watchful 0 fadingOut).faults = [.readDeadline (.ofMillis 100)] := by
  have hPrompt : Prompt watchful 0 fadingOut := by
    unfold Prompt
    decide +kernel
  have hUndisturbed : Undisturbed watchful 0 fadingOut := by
    constructor
    · decide +kernel
    · decide +kernel
  have hOver : (run watchful 0 fadingOut).connection.reading = false := by decide +kernel
  exact ⟨hPrompt, hUndisturbed,
    ((ended_by_silence_alone watchful 0 fadingOut hPrompt hUndisturbed).ended hOver).2.1⟩

end Course

end Connection

end MarketGateway
