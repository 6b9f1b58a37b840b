import MarketGateway.Proofs.Depth.Attempts

/-!
# How depth feeds come to be live

A run of a depth feed stands where `Feed.Stands` says (`stands_run`), with the attempts that its
inputs have spent (`spends`). A wait for a bridge began with the snapshot of its attempt
(`wait_began`), and a step that asks for a snapshot does so in a feed that fetches it
(`asking_of_step`).

So the bootstrap asks for no more snapshots than are allowed, and gives up exactly when all attempts
were spent and nothing else has ended it (`bootstrap_lawful`).
-/

namespace MarketGateway.Depth

open Book

namespace Feed

variable {config : DepthConfig} {feed : Feed} {Ended : Option FeedError → Prop} {spent : Nat}

/-! ## Runs -/

theorem run_snoc (config : DepthConfig) (key : RoomKey) (connect : Except TransportError Unit)
    (inputs : List Input) (input : Input) :
    run config key connect (inputs ++ [input]) = (run config key connect inputs).step input := by
  simp [run]

theorem verdicts_snoc (feed : Feed) (inputs : List Input) (input : Input) :
    feed.verdicts (inputs ++ [input]) =
      feed.verdicts inputs ++ ((inputs.foldl Feed.step feed).verdict? input).toList := by
  induction inputs generalizing feed with
  | nil => simp [verdicts]
  | cons first rest ih => simp [verdicts, ih]

/-- How the inputs spend the attempts of a connected feed. -/
def spends (config : DepthConfig) (key : RoomKey) (inputs : List Input) : List Verdict :=
  (start config key (.ok ())).verdicts inputs

theorem spends_snoc (config : DepthConfig) (key : RoomKey) (inputs : List Input) (input : Input) :
    spends config key (inputs ++ [input]) =
      spends config key inputs ++ ((run config key (.ok ()) inputs).verdict? input).toList :=
  verdicts_snoc _ inputs input

/-- One of the inputs ended the feed. -/
def EndedBy (config : DepthConfig) (key : RoomKey) (inputs : List Input)
    (failure : Option FeedError) : Prop :=
  ∃ early input late, inputs = early ++ input :: late ∧
    (run config key (.ok ()) early).isOver = false ∧
    Ends (run config key (.ok ()) early) input failure

theorem stands_run (config : DepthConfig) (key : RoomKey) (inputs : List Input) :
    Stands (EndedBy config key inputs) config (spends config key inputs).length
      (run config key (.ok ()) inputs) := by
  induction inputs using List.reverseRecOn with
  | nil => exact stands_start config key
  | append_singleton inputs input ih =>
    rw [run_snoc, spends_snoc, List.length_append]
    have hNext := ih.step input
    refine ⟨hNext.ofConfig, hNext.fetches, hNext.stage.mono ?_⟩
    rintro failure (⟨early, first, late, rfl, hOpen, hEnds⟩ | ⟨hOpen, hEnds⟩)
    · exact ⟨early, first, late ++ [input], by simp, hOpen, hEnds⟩
    · exact ⟨inputs, input, [], rfl, hOpen, hEnds⟩

/-! ## Waits for a bridge -/

theorem phase_of_checkBridge {attempt : Nat} {due : Duration}
    (hPhase : feed.checkBridge.phase = .bridging attempt due) :
    feed.phase = .bridging attempt due := by
  cases hOver : feed.overdue? with
  | none => rwa [checkBridge_of_none hOver] at hPhase
  | some verdict =>
    obtain ⟨attempts, _, -, hNext⟩ := checkBridge_of_some hOver
    rw [hNext] at hPhase
    exact absurd hPhase (phase_proceed_ne _ _ _ _)

theorem phase_of_onFrame {text : String} {attempt : Nat} {due : Duration}
    (hPhase : (feed.onFrame text).phase = .bridging attempt due) :
    feed.phase = .bridging attempt due := by
  obtain ⟨next, effects, -, ⟨error, -, hFrame⟩ | ⟨-, hFrame⟩⟩ := feed.onFrame_cases text
  · rw [hFrame] at hPhase
    cases hPhase
  · rw [hFrame] at hPhase
    split at hPhase
    · split at hPhase
      · exact hPhase
      · exact absurd hPhase (phase_proceed_ne _ _ _ _)
    · exact hPhase

/-- A wait begins when the snapshot comes that was asked for. -/
theorem phase_of_step {input : Input} {attempt : Nat} {due : Duration}
    (hPhase : (feed.step input).phase = .bridging attempt due) :
    feed.phase = .bridging attempt due ∨
      ∃ taken, input = .snapshot (.ok taken) ∧ feed.phase = .fetching attempt ∧
        due = feed.now + feed.config.bridgeTimeout := by
  cases input with
  | time now =>
    have hWaits : (feed.later now).phase = .bridging attempt due := phase_of_checkBridge hPhase
    exact .inl hWaits
  | snapshot result =>
    dsimp only [Feed.step] at hPhase
    split at hPhase
    · next asked taken hAsked =>
      unfold Feed.onSnapshot at hPhase
      dsimp only at hPhase
      split at hPhase
      · split at hPhase
        · exact absurd hPhase (phase_proceed_ne _ _ _ _)
        · cases hPhase
      · obtain ⟨rfl, rfl⟩ := Phase.bridging.inj hPhase
        exact .inr ⟨taken, rfl, hAsked, rfl⟩
      · exact absurd hPhase (phase_proceed_ne _ _ _ _)
    · cases hPhase
    · exact .inl hPhase
  | feed input =>
    cases input with
    | cancelled =>
      dsimp only [Feed.step] at hPhase
      split at hPhase
      · exact .inl hPhase
      · cases hPhase
    | lost error =>
      dsimp only [Feed.step] at hPhase
      split at hPhase
      · exact .inl (phase_of_checkBridge hPhase)
      · cases hPhase
    | frame text =>
      dsimp only [Feed.step] at hPhase
      split at hPhase
      · exact .inl (phase_of_checkBridge hPhase)
      · exact .inl (phase_of_checkBridge (phase_of_onFrame hPhase))

/-- By induction on the inputs: the wait that is on began with one of them. -/
theorem wait_began {key : RoomKey} {inputs : List Input} {attempt : Nat} {due : Duration}
    (hPhase : (run config key (.ok ()) inputs).phase = .bridging attempt due) :
    ∃ early taken later, inputs = early ++ .snapshot (.ok taken) :: later ∧
      (run config key (.ok ()) early).phase = .fetching attempt ∧
      due = (run config key (.ok ()) early).now + config.bridgeTimeout := by
  induction inputs using List.reverseRecOn with
  | nil =>
    rw [run, List.foldl_nil, start] at hPhase
    exact absurd hPhase (phase_proceed_ne _ _ _ _)
  | append_singleton inputs input ih =>
    rw [run_snoc] at hPhase
    rcases phase_of_step hPhase with hBefore | ⟨taken, rfl, hAsked, rfl⟩
    · obtain ⟨early, taken, later, rfl, hAsked, hDue⟩ := ih hBefore
      exact ⟨early, taken, later ++ [input], by simp, hAsked, hDue⟩
    · refine ⟨inputs, taken, [], rfl, hAsked, ?_⟩
      rw [(stands_run config key inputs).ofConfig]

/-- When the clock shows the time at which a wait is over, it is over. -/
theorem wait_ends {attempt : Nat} {due now : Duration} (hPhase : feed.phase = .bridging attempt due)
    (hDue : due ≤ now) : (feed.step (.time now)).phase ≠ .bridging attempt due := by
  have hOver : (feed.later now).overdue? = some .timedOut := by
    have hReached : due ≤ max feed.now now := Nat.le_trans hDue (Nat.le_max_right _ _)
    simp [overdue?, later, hPhase, hReached]
  obtain ⟨attempts, _, -, hNext⟩ := checkBridge_of_some hOver
  have hStep : feed.step (.time now) = (feed.later now).checkBridge := rfl
  rw [hStep, hNext]
  exact phase_proceed_ne _ _ _ _

/-! ## Fetches -/

/-- If the feed asked for a snapshot, it fetches it now. -/
def Asked (feed next : Feed) : Prop :=
  feed.fetches < next.fetches → ∃ attempt, next.phase = .fetching attempt

theorem asked_of_eq {next : Feed} (hSame : next.fetches = feed.fetches) : Asked feed next :=
  fun hMore => absurd hMore (by omega)

theorem asked_proceed {next : Feed} (hSame : next.fetches = feed.fetches) (attempts : Nat) :
    Asked feed (next.proceed attempts) := by
  unfold proceed
  split
  · exact asked_of_eq hSame
  · split
    · exact asked_of_eq hSame
    · exact fun _ => ⟨_, rfl⟩

theorem asked_checkBridge (feed : Feed) : Asked feed feed.checkBridge := by
  cases hOver : feed.overdue? with
  | none => exact asked_of_eq (by rw [checkBridge_of_none hOver])
  | some verdict =>
    obtain ⟨attempts, _, -, hNext⟩ := checkBridge_of_some hOver
    rw [hNext]
    exact asked_proceed (by rfl) attempts

theorem asked_onFrame (feed : Feed) (text : String) : Asked feed (feed.onFrame text) := by
  obtain ⟨next, effects, -, ⟨error, -, hFrame⟩ | ⟨-, hFrame⟩⟩ := feed.onFrame_cases text
  · exact asked_of_eq (by rw [hFrame]; rfl)
  · rw [hFrame]
    split
    · split
      · exact asked_of_eq rfl
      · exact asked_proceed (by rfl) _
    · exact asked_of_eq rfl

/-- A frame that comes while a snapshot is fetched does not ask for another one. -/
theorem fetches_onFrame {attempt : Nat} (hPhase : feed.phase = .fetching attempt) (text : String) :
    (feed.onFrame text).fetches = feed.fetches := by
  obtain ⟨next, effects, -, ⟨error, -, hFrame⟩ | ⟨-, hFrame⟩⟩ := feed.onFrame_cases text
  · rw [hFrame]
    rfl
  · rw [hFrame, hPhase]
    rfl

theorem asked_onSnapshot (feed : Feed) (attempts : Nat) (taken : Snapshot) :
    Asked feed (feed.onSnapshot attempts taken) := by
  unfold Feed.onSnapshot
  dsimp only
  split
  · split
    · exact asked_proceed (by rfl) attempts
    · exact asked_of_eq rfl
  · exact asked_of_eq rfl
  · exact asked_proceed (by rfl) attempts

/-- The feed that asks for a snapshot in a step is the one after the step, or the one whose wait was
over before. -/
theorem asking_of_step {input : Input} (hAsks : feed.fetches < (feed.step input).fetches) :
    ∃ asking ∈ [feed.checkBridge, feed.step input],
      asking.fetches = (feed.step input).fetches ∧
        ∃ attempt, asking.phase = .fetching attempt := by
  have hAfter : Asked feed (feed.step input) → ∃ asking ∈ [feed.checkBridge, feed.step input],
      asking.fetches = (feed.step input).fetches ∧
        ∃ attempt, asking.phase = .fetching attempt :=
    fun hAsked => ⟨_, by simp, rfl, hAsked hAsks⟩
  have hBefore : (feed.step input).fetches = feed.checkBridge.fetches →
      ∃ asking ∈ [feed.checkBridge, feed.step input],
        asking.fetches = (feed.step input).fetches ∧
          ∃ attempt, asking.phase = .fetching attempt :=
    fun hSame => ⟨_, by simp, hSame.symm, feed.asked_checkBridge (hSame ▸ hAsks)⟩
  cases input with
  | time now => exact hAfter (asked_checkBridge (feed.later now))
  | snapshot result =>
    refine hAfter ?_
    dsimp only [Feed.step]
    split
    · exact asked_onSnapshot feed _ _
    · exact asked_of_eq rfl
    · exact asked_of_eq rfl
  | feed input =>
    cases input with
    | cancelled =>
      refine hAfter (asked_of_eq ?_)
      dsimp only [Feed.step]
      split <;> rfl
    | lost error =>
      refine hBefore ?_
      dsimp only [Feed.step]
      split <;> rfl
    | frame text =>
      by_cases hOver : feed.checkBridge.isOver = true
      · exact hBefore (by simp [Feed.step, hOver])
      · have hStep : feed.step (.feed (.frame text)) = feed.checkBridge.onFrame text := by
          simp [Feed.step, hOver]
        by_cases hMore : feed.fetches < feed.checkBridge.fetches
        · obtain ⟨attempt, hPhase⟩ := feed.asked_checkBridge hMore
          exact hBefore (by rw [hStep, fetches_onFrame hPhase])
        · refine hAfter ?_
          intro hAsks
          rw [hStep] at hAsks ⊢
          exact asked_onFrame _ text (by omega)

/-- While a snapshot is fetched, the synchronizer connects. -/
theorem Stands.of_fetching {attempt : Nat} (hStands : Stands Ended config spent feed)
    (hPhase : feed.phase = .fetching attempt) :
    attempt = feed.fetches ∧ feed.session.sync.state = .connecting := by
  obtain ⟨-, hFetches, hStage⟩ := hStands
  cases hStage with
  | fetching hHere hState hLeft =>
    obtain rfl : spent + 1 = attempt := by simpa using hHere.symm.trans hPhase
    exact ⟨(hFetches.trans (Nat.min_eq_left hLeft)).symm, hState⟩
  | bridging hHere | live hHere | exhausted hHere | ended hHere =>
    exact absurd (hHere.symm.trans hPhase) (by simp)

/-! ## The count of attempts -/

/-- Attempts are counted up to the limit. -/
theorem Stands.attempt_le {attempt : Nat} (hStands : Stands Ended config spent feed)
    (hPhase : feed.phase = .fetching attempt ∨ ∃ due, feed.phase = .bridging attempt due) :
    attempt ≤ config.maxSnapshotAttempts := by
  cases hStands.stage with
  | fetching hHere _ hLeft =>
    rcases hPhase with hFetches | ⟨due, hWaits⟩
    · obtain rfl := Phase.fetching.inj (hHere.symm.trans hFetches)
      exact hLeft
    · cases hHere.symm.trans hWaits
  | bridging hHere _ _ hLeft =>
    rcases hPhase with hFetches | ⟨due, hWaits⟩
    · cases hHere.symm.trans hFetches
    · obtain ⟨rfl, -⟩ := Phase.bridging.inj (hHere.symm.trans hWaits)
      exact hLeft
  | live hHere | exhausted hHere | ended hHere =>
    rcases hPhase with hFetches | ⟨due, hWaits⟩
    · cases hHere.symm.trans hFetches
    · cases hHere.symm.trans hWaits

/-- A count of 32 bits never overflows: the attempt after the one that is under way has its number
in them, so that it is compared with the limit as it should be. -/
theorem count_fits (key : RoomKey) (inputs : List Input) {attempt : Nat}
    (hLimit : config.maxSnapshotAttempts < UInt32.size - 1)
    (hPhase : (run config key (.ok ()) inputs).phase = .fetching attempt ∨
      ∃ due, (run config key (.ok ()) inputs).phase = .bridging attempt due) :
    (UInt32.ofNat attempt + 1).toNat = attempt + 1 := by
  have hAttempt := (stands_run config key inputs).attempt_le hPhase
  have hMost : UInt32.size = 2 ^ 32 := rfl
  have hNumber : (UInt32.ofNat attempt).toNat = attempt := UInt32.toNat_ofNat_of_lt (by omega)
  have hNext : (UInt32.ofNat attempt + 1).toNat = (attempt + 1) % 2 ^ 32 := by
    rw [UInt32.toNat_add, hNumber]
    rfl
  rw [hNext]
  exact Nat.mod_eq_of_lt (by omega)

/-! ## The bootstrap -/

/-- What holds of a feed for a room that took the inputs, and of the attempts that it spent. -/
structure Lawful (config : DepthConfig) (key : RoomKey) (inputs : List Input) (feed : Feed)
    (spent : Nat) : Prop where
  /-- No more snapshots are asked for than are allowed. -/
  fetches : feed.fetches ≤ config.maxSnapshotAttempts
  /-- A snapshot is asked for while the synchronizer connects. -/
  asks : ∀ input, feed.fetches < (feed.step input).fetches →
    ∃ asking ∈ [feed.checkBridge, feed.step input],
      asking.fetches = (feed.step input).fetches ∧ asking.phase = .fetching asking.fetches ∧
        asking.session.sync.state = .connecting
  connects : ∀ attempt, feed.phase = .fetching attempt → feed.session.sync.state = .connecting
  /-- A wait goes on for no longer than is allowed since its snapshot came, and not past the time at
  which it is over. -/
  waits : ∀ attempt due, feed.phase = .bridging attempt due →
    feed.now ≤ due ∧
    (∃ early taken later, inputs = early ++ .snapshot (.ok taken) :: later ∧
      (run config key (.ok ()) early).phase = .fetching attempt ∧
      due = (run config key (.ok ()) early).now + config.bridgeTimeout) ∧
    ∀ now, due ≤ now → (feed.step (.time now)).phase ≠ .bridging attempt due
  live : feed.phase = .live → feed.session.sync.state = .synced
  exhausted : spent = config.maxSnapshotAttempts → feed.phase = .ended (some (noBridge config))
  /-- Where not all attempts are spent, one of the inputs has ended the feed. -/
  ended : ∀ failure, feed.phase = .ended failure →
    (failure = some (noBridge config) ∧ spent = config.maxSnapshotAttempts) ∨
      (EndedBy config key inputs failure ∧ spent < config.maxSnapshotAttempts)

/-- **The bootstrap of a depth feed ends as it should.** Whatever reaches a connected feed: it asks
for no more snapshots than are allowed, each time while its synchronizer connects; a snapshot waits
to be bridged no longer than is allowed, however many frames come meanwhile; and the feed is live
only in step. It gives up, for want of a bridge, when all attempts that are allowed turned out stale
or timed out, and otherwise it ends because it was cancelled, or with a fetch that failed, a lost
connection, a frame that tells of an error or events that do not go on from each other. -/
theorem bootstrap_lawful (config : DepthConfig) (key : RoomKey) (inputs : List Input) :
    Lawful config key inputs (run config key (.ok ()) inputs)
      (spends config key inputs).length := by
  have hStands := stands_run config key inputs
  have hStage := hStands.stage
  refine ⟨hStands.fetches ▸ Nat.min_le_right _ _, ?_, ?_, ?_, ?_, ?_, ?_⟩
  · intro input hAsks
    obtain ⟨asking, hMem, hFetches, attempt, hPhase⟩ := asking_of_step hAsks
    have hAsking : attempt = asking.fetches ∧ asking.session.sync.state = .connecting := by
      rcases List.mem_pair.mp hMem with rfl | rfl
      · exact hStands.checkBridge.of_fetching hPhase
      · exact (hStands.step input).of_fetching hPhase
    obtain ⟨rfl, hState⟩ := hAsking
    exact ⟨asking, hMem, hFetches, hPhase, hState⟩
  · intro attempt hPhase
    exact (hStands.of_fetching hPhase).2
  · intro attempt due hPhase
    refine ⟨?_, wait_began hPhase, fun now hDue => wait_ends hPhase hDue⟩
    cases hStage with
    | bridging hHere _ hDue =>
      obtain ⟨-, rfl⟩ := Phase.bridging.inj (hHere.symm.trans hPhase)
      exact hDue
    | fetching hHere | live hHere | exhausted hHere | ended hHere =>
      exact absurd (hHere.symm.trans hPhase) (by simp)
  · intro hPhase
    cases hStage with
    | live _ hState => exact hState
    | fetching hHere | bridging hHere | exhausted hHere | ended hHere =>
      exact absurd (hHere.symm.trans hPhase) (by simp)
  · intro hSpent
    cases hStage with
    | exhausted hPhase => exact hPhase
    | fetching _ _ hLeft | bridging _ _ _ hLeft | live _ _ hLeft | ended _ _ hLeft =>
      exact absurd hSpent (Nat.ne_of_lt hLeft)
  · intro failure hPhase
    cases hStage with
    | exhausted hHere hSpent =>
      obtain rfl := Phase.ended.inj (hHere.symm.trans hPhase)
      exact .inl ⟨rfl, hSpent⟩
    | ended hHere hEnded hLeft =>
      obtain rfl := Phase.ended.inj (hHere.symm.trans hPhase)
      exact .inr ⟨hEnded, hLeft⟩
    | fetching hHere | bridging hHere | live hHere =>
      exact absurd (hHere.symm.trans hPhase) (by simp)

def twoAttempts : DepthConfig := { depthConfig with maxSnapshotAttempts := 2 }

/-- Two snapshots come, and none is bridged in time. -/
def unbridgedInputs : List Input :=
  [.snapshot (.ok fiveBids), .time (.ofSecs 5), .snapshot (.ok fiveBids), .time (.ofSecs 10)]

theorem bootstrap_gives_up_after_two_attempts :
    spends twoAttempts fiveLevels unbridgedInputs = [.timedOut, .timedOut] ∧
      (run twoAttempts fiveLevels (.ok ()) unbridgedInputs).fetches ≤ 2 ∧
      (run twoAttempts fiveLevels (.ok ()) unbridgedInputs).phase =
        .ended (some (.snapshot "no bridging snapshot after 2 attempts")) := by
  have hSpends : spends twoAttempts fiveLevels unbridgedInputs = [.timedOut, .timedOut] := by
    decide +kernel
  have hLawful := bootstrap_lawful twoAttempts fiveLevels unbridgedInputs
  have hSpent : (spends twoAttempts fiveLevels unbridgedInputs).length = 2 := by rw [hSpends]; rfl
  have hReason : noBridge twoAttempts = .snapshot "no bridging snapshot after 2 attempts" := by
    decide +kernel
  exact ⟨hSpends, hLawful.fetches, hReason ▸ hLawful.exhausted hSpent⟩

end Feed

end MarketGateway.Depth
