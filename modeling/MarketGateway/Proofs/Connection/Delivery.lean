import Mathlib.Data.List.Induction
import MarketGateway.Proofs.Connection.Moves

/-!
# What the owner of a connection gets

No text is lost, repeated or put out of order between the socket and the owner. `Move.Proceeds` says
what each move but `recv` does to the queue, to the reading side and to the failure that is kept;
`recv_cases` says it of `recv`.

For every run it follows that what the owner got and what waits for it is all that the socket
brought up to the move that ended the reading side (`Course.Delivered`), and that the connection
keeps the first failure of either side until the first error (`Course.Sound`).
`texts_delivered_in_order` is the guarantee for the owner.
-/

namespace MarketGateway

namespace Connection

variable {connection next : Connection} {move : Move}

/-- The connection is being stopped: the sides were told to, or the close frame is being written. -/
def Ending (connection : Connection) : Prop :=
  connection.cancelled = true ∨ ∃ due, connection.writing = .closing due

/-! ## One move -/

/-- What a move does with the text that it brings. -/
inductive Move.Takes (move : Move) (connection next : Connection) : Prop
  | nothing (hNone : connection.reading = true → move.content? = none)
      (hItems : next.inbound.items = connection.inbound.items)
  | queued {content : String} (hReading : connection.reading = true)
      (hContent : move.content? = some content)
      (hRoom : connection.inbound.items.length < connection.inbound.capacity)
      (hItems : next.inbound.items = connection.inbound.items ++ [content])
      (hStill : next.reading = true) (hFault : move.fault? connection = none)
  | refused {content : String} (hReading : connection.reading = true)
      (hContent : move.content? = some content)
      (hFull : connection.inbound.capacity ≤ connection.inbound.items.length)
      (hItems : next.inbound.items = connection.inbound.items) (hOver : next.reading = false)
      (hFault : move.fault? connection = some (.inboundOverflow connection.inbound.capacity))

/-- What a move other than `recv` does. -/
structure Move.Proceeds (move : Move) (connection next : Connection) : Prop where
  failure : next.failure = connection.failure.or (move.fault? connection)
  ending : next.Ending → connection.Ending ∨ (move.fault? connection).isSome ∨ move = .stop
  stays : connection.reading = false → next.reading = false
  told : (connection.reading = false → connection.cancelled = true) → next.reading = false →
    next.cancelled = true
  capacity : next.inbound.capacity = connection.inbound.capacity
  unclosed : next.inbound.closed = connection.inbound.closed
  takes : move.Takes connection next

/-- A move of the writing side, of the owner or of the clock leaves the queue and the reading side
alone. -/
theorem proceeds_of_kept (hContent : move.content? = none)
    (hInbound : next.inbound = connection.inbound) (hReading : next.reading = connection.reading)
    (hFailure : next.failure = connection.failure.or (move.fault? connection))
    (hTold : connection.cancelled = true → next.cancelled = true)
    (hEnding : next.Ending → connection.Ending ∨ (move.fault? connection).isSome ∨ move = .stop) :
    move.Proceeds connection next where
  failure := hFailure
  ending := hEnding
  stays hOver := hReading.trans hOver
  told hBefore hAfter := hTold (hBefore (hReading.symm.trans hAfter))
  capacity := by rw [hInbound]
  unclosed := by rw [hInbound]
  takes := .nothing (fun _ => hContent) (by rw [hInbound])

/-- The reading side ends by a failure. -/
theorem proceeds_of_fault {error : TransportError}
    (hFault : move.fault? connection = some error)
    (hTakes : move.Takes connection (connection.fail error).finishReading)
    (hNext : next = (connection.fail error).finishReading) : move.Proceeds connection next where
  failure := by rw [hNext, hFault]; rfl
  ending _ := .inr (.inl (by rw [hFault]; rfl))
  stays _ := by rw [hNext]; rfl
  told _ _ := by rw [hNext]; rfl
  capacity := by rw [hNext]; rfl
  unclosed := by rw [hNext]; rfl
  takes := hNext ▸ hTakes

/-- A text that comes in is queued, or it ends the reading side if there is no room for it. -/
theorem deliver_cases (connection : Connection) (content : String)
    (hOpen : connection.inbound.closed = false) :
    (connection.inbound.items.length < connection.inbound.capacity ∧
      connection.deliver content =
        { connection with
          inbound := { connection.inbound with items := connection.inbound.items ++ [content] } }) ∨
    (connection.inbound.capacity ≤ connection.inbound.items.length ∧
      connection.deliver content =
        (connection.fail (.inboundOverflow connection.inbound.capacity)).finishReading) := by
  unfold deliver Queue.offer
  by_cases hFull : connection.inbound.capacity ≤ connection.inbound.items.length
  · exact .inr ⟨hFull, by simp [hOpen, hFull]⟩
  · exact .inl ⟨Nat.lt_of_not_le hFull, by simp [hOpen, hFull]⟩

/-- A frame that brings a text delivers it; any other frame but the closing one brings nothing. -/
theorem onFrame_cases (connection : Connection) (frame : Frame) :
    (∃ content, frame.content? = some content ∧
      connection.onFrame frame = connection.deliver content) ∨
    (frame.content? = none ∧ frame ≠ .close ∧
      ∃ outbound, connection.onFrame frame = { connection with outbound := outbound }) ∨
    (frame = .close ∧ connection.onFrame frame = (connection.fail .closed).finishReading) := by
  cases frame with
  | text content => exact .inl ⟨content, rfl, rfl⟩
  | binary bytes =>
    rw [onFrame, Frame.content?]
    cases Text.Utf8.strict? bytes with
    | some content => exact .inl ⟨content, rfl, rfl⟩
    | none => exact .inr (.inl ⟨rfl, by simp, connection.outbound, rfl⟩)
  | ping data => exact .inr (.inl ⟨rfl, by simp, _, rfl⟩)
  | pong data => exact .inr (.inl ⟨rfl, by simp, connection.outbound, rfl⟩)
  | close => exact .inr (.inr ⟨rfl, rfl⟩)

/-- The failure that a frame is depends on the text that it brings. -/
theorem fault?_frame {frame : Frame} (inbound : Queue String) (hFrame : frame ≠ .close) :
    (SocketEvent.frame frame).fault? inbound =
      if frame.content?.isSome ∧ inbound.capacity ≤ inbound.items.length then
        some (.inboundOverflow inbound.capacity)
      else none := by
  cases frame with
  | close => exact absurd rfl hFrame
  | text | binary | ping | pong => rfl

theorem proceeds_onFrame (frame : Frame) (hReading : connection.reading = true)
    (hOpen : connection.inbound.closed = false) :
    (Move.socket (.frame frame)).Proceeds connection (connection.onFrame frame) := by
  have hFault : (Move.socket (.frame frame)).fault? connection =
      (SocketEvent.frame frame).fault? connection.inbound := if_pos hReading
  rcases connection.onFrame_cases frame with ⟨content, hContent, hNext⟩ |
    ⟨hContent, hFrame, outbound, hNext⟩ | ⟨rfl, hNext⟩
  · have hFrame : frame ≠ .close := by
      rintro rfl
      cases hContent
    rw [fault?_frame _ hFrame, hContent] at hFault
    rw [hNext]
    rcases connection.deliver_cases content hOpen with ⟨hRoom, hDeliver⟩ | ⟨hFull, hDeliver⟩
    · rw [if_neg fun h => Nat.not_le_of_lt hRoom h.2] at hFault
      rw [hDeliver]
      exact ⟨by simp [hFault], .inl, id, fun hTold hOver => hTold hOver, rfl, rfl,
        .queued hReading hContent hRoom rfl hReading hFault⟩
    · rw [if_pos ⟨rfl, hFull⟩] at hFault
      exact proceeds_of_fault hFault (.refused hReading hContent hFull rfl rfl hFault) hDeliver
  · rw [fault?_frame _ hFrame, hContent, if_neg (by simp)] at hFault
    rw [hNext]
    exact proceeds_of_kept hContent rfl rfl (by simp [hFault]) id .inl
  · exact proceeds_of_fault hFault (.nothing (fun _ => rfl) rfl) hNext

theorem proceeds_receive (event : SocketEvent) (hOpen : connection.inbound.closed = false) :
    (Move.socket event).Proceeds connection (connection.receive event) := by
  by_cases hReading : connection.reading = true
  · have hFault : (Move.socket event).fault? connection = event.fault? connection.inbound :=
      if_pos hReading
    unfold receive
    rw [if_pos hReading]
    cases event with
    | ended => exact proceeds_of_fault hFault (.nothing (fun _ => rfl) rfl) rfl
    | failed => exact proceeds_of_fault hFault (.nothing (fun _ => rfl) rfl) rfl
    | frame frame =>
      -- the deadline that starts anew and the counter have no part in what follows
      let reached : Connection :=
        { connection with
          frames := connection.frames + 1
          readDue := connection.now + connection.config.heartbeat.readDeadline }
      obtain ⟨hFailure, hEnding, hOver, hTold, hCapacity, hUnclosed, hTakes⟩ :=
        proceeds_onFrame frame (show reached.reading = true from hReading) hOpen
      refine ⟨hFailure, hEnding, hOver, hTold, hCapacity, hUnclosed, ?_⟩
      cases hTakes with
      | nothing hNone hItems => exact .nothing hNone hItems
      | queued _ hContent hRoom hItems hStill hNoFault =>
        exact .queued hReading hContent hRoom hItems hStill hNoFault
      | refused _ hContent hFull hItems hEnd hFault =>
        exact .refused hReading hContent hFull hItems hEnd hFault
  · have hSame : connection.receive event = connection := if_neg hReading
    have hFault : (Move.socket event).fault? connection = none := if_neg hReading
    rw [hSame]
    exact ⟨by simp [hFault], .inl, id, id, rfl, rfl, .nothing (absurd · hReading) rfl⟩

/-! ## The writing side, the owner and the clock -/

theorem proceeds_heed (connection : Connection) :
    Move.heed.Proceeds connection connection.heed := by
  unfold heed
  split
  · next hCancelled =>
    exact ⟨by simp [Move.fault?, finishReading, cancel], fun _ => .inl (.inl hCancelled),
      fun _ => rfl, fun _ _ => rfl, rfl, rfl, .nothing (fun _ => rfl) rfl⟩
  · exact proceeds_of_kept rfl rfl rfl (by simp [Move.fault?]) id .inl

theorem proceeds_checkRead (connection : Connection) :
    Move.checkRead.Proceeds connection connection.checkRead := by
  unfold checkRead
  by_cases hOver : connection.reading = true ∧ connection.readDue ≤ connection.now
  · rw [if_pos (by simpa using hOver)]
    exact proceeds_of_fault (if_pos hOver) (.nothing (fun _ => rfl) rfl) rfl
  · rw [if_neg (by simpa using hOver)]
    have hFault : Move.checkRead.fault? connection = none := if_neg hOver
    exact proceeds_of_kept rfl rfl rfl (by simp [hFault]) id .inl

/-- Beginning a frame touches neither the queue of texts nor the failure. -/
theorem nextWrite_spec (connection : Connection) :
    connection.nextWrite.2.inbound = connection.inbound ∧
      connection.nextWrite.2.reading = connection.reading ∧
      connection.nextWrite.2.failure = connection.failure ∧
      (∀ due, connection.nextWrite.2.writing = .closing due →
        connection.cancelled = true ∨ connection.writing = .closing due) := by
  unfold nextWrite
  split
  · exact ⟨rfl, rfl, rfl, fun _ => .inr⟩
  · split
    · next hCancelled => exact ⟨rfl, rfl, rfl, fun _ _ => .inl hCancelled⟩
    · split
      · exact ⟨rfl, rfl, rfl, fun _ h => by cases h⟩
      · split
        · exact ⟨rfl, rfl, rfl, fun _ h => by cases h⟩
        · exact ⟨rfl, rfl, rfl, fun _ => .inr⟩

theorem proceeds_write (connection : Connection) (missesStop missesPing : Bool) :
    (Move.write missesStop missesPing).Proceeds connection
      (connection.beginWrite missesStop missesPing) := by
  obtain ⟨hInbound, hReading, hFailure, hClosing⟩ :=
    (connection.glimpse missesStop missesPing).nextWrite_spec
  refine proceeds_of_kept rfl hInbound hReading (hFailure.trans Option.or_none.symm) id ?_
  rintro (hCancelled | ⟨due, hDue⟩)
  · exact .inl (.inl hCancelled)
  · rcases hClosing due hDue with hCancelled | hBefore
    · exact .inl (.inl (Bool.and_eq_true_iff.mp hCancelled).1)
    · exact .inl (.inr ⟨due, hBefore⟩)

theorem proceeds_wrote (connection : Connection) :
    Move.wrote.Proceeds connection connection.wrote := by
  unfold wrote
  split
  · refine proceeds_of_kept rfl rfl rfl (by simp [Move.fault?]) id ?_
    rintro (hCancelled | ⟨_, ⟨⟩⟩)
    exact .inl (.inl hCancelled)
  · next due hDue =>
    exact proceeds_of_kept rfl rfl rfl (by simp [Move.fault?, finishWriting, cancel])
      (fun _ => rfl) fun _ => .inl (.inr ⟨due, hDue⟩)
  · exact proceeds_of_kept rfl rfl rfl (by simp [Move.fault?]) id .inl

theorem proceeds_writeFailed (connection : Connection) :
    Move.writeFailed.Proceeds connection connection.writeFailed := by
  unfold writeFailed
  split
  · next due hDue =>
    have hFault : Move.writeFailed.fault? connection = some .webSocket := by
      simp [Move.fault?, hDue]
    exact proceeds_of_kept rfl rfl rfl (by rw [hFault]; rfl) (fun _ => rfl)
      fun _ => .inr (.inl (by rw [hFault]; rfl))
  · next due hDue =>
    have hFault : Move.writeFailed.fault? connection = none := by simp [Move.fault?, hDue]
    exact proceeds_of_kept rfl rfl rfl (by simp [hFault, finishWriting, cancel])
      (fun _ => rfl) fun _ => .inl (.inr ⟨due, hDue⟩)
  · next hNot _ =>
    have hFault : Move.writeFailed.fault? connection = none := by simp only [Move.fault?]
    exact proceeds_of_kept rfl rfl rfl (by simp [hFault]) id .inl

theorem proceeds_checkWrite (connection : Connection) :
    Move.checkWrite.Proceeds connection connection.checkWrite.2 := by
  unfold checkWrite
  split
  · next due hDue =>
    have hFault : Move.checkWrite.fault? connection =
        if due ≤ connection.now then some (.writeTimeout connection.config.writeTimeout)
        else none := by simp [Move.fault?, hDue]
    split
    · next hLate =>
      rw [if_pos hLate] at hFault
      exact proceeds_of_kept rfl rfl rfl (by rw [hFault]; rfl) id
        fun _ => .inr (.inl (by rw [hFault]; rfl))
    · next hInTime =>
      rw [if_neg hInTime] at hFault
      exact proceeds_of_kept rfl rfl rfl (by simp [hFault]) id .inl
  · next due hDue =>
    have hFault : Move.checkWrite.fault? connection = none := by simp [Move.fault?, hDue]
    dsimp only
    split
    · exact proceeds_of_kept rfl rfl rfl (by simp [hFault, finishWriting, cancel])
        (fun _ => rfl) fun _ => .inl (.inr ⟨due, hDue⟩)
    · exact proceeds_of_kept rfl rfl rfl (by simp [hFault]) id .inl
  · next hNot _ =>
    have hFault : Move.checkWrite.fault? connection = none := by simp only [Move.fault?]
    exact proceeds_of_kept rfl rfl rfl (by simp [hFault]) id .inl

theorem proceeds_step (hOpen : connection.inbound.closed = false) (hOther : move ≠ .recv) :
    move.Proceeds connection (connection.step move) := by
  cases move with
  | socket event => exact proceeds_receive event hOpen
  | recv => exact absurd rfl hOther
  | stop =>
    exact proceeds_of_kept rfl rfl rfl (by simp [Move.fault?, step, cancel]) (fun _ => rfl)
      fun _ => .inr (.inr rfl)
  | heed => exact connection.proceeds_heed
  | checkRead => exact connection.proceeds_checkRead
  | send content => exact proceeds_of_kept rfl rfl rfl (by simp [Move.fault?, step, send]) id .inl
  | write missesStop missesPing => exact connection.proceeds_write missesStop missesPing
  | wrote => exact connection.proceeds_wrote
  | writeFailed => exact connection.proceeds_writeFailed
  | checkWrite => exact connection.proceeds_checkWrite
  | wait time => exact proceeds_of_kept rfl rfl rfl (by simp [Move.fault?, step]) id .inl

/-! ## What the owner takes -/

/-- The owner gets the oldest text; once there is none, nothing as long as the reading side goes on,
and then an error. -/
theorem recv_cases (connection : Connection) :
    (∃ content rest, connection.inbound.items = content :: rest ∧
      connection.recv =
        (.text content,
          { connection with inbound := { connection.inbound with items := rest } })) ∨
    (connection.inbound.items = [] ∧ connection.reading = true ∧
      connection.recv = (.nothing, connection)) ∨
    (connection.inbound.items = [] ∧ connection.reading = false ∧
      ∃ error, connection.recv = (.failed error, { connection with failure := none }) ∧
        (connection.failure = some error ∨ connection.failure = none ∧
          error = if connection.cancelled then .cancelled else .closed)) := by
  unfold recv Queue.take
  cases hItems : connection.inbound.items with
  | cons content rest => exact .inl ⟨content, rest, rfl, rfl⟩
  | nil =>
    by_cases hReading : connection.reading = true
    · exact .inr (.inl ⟨rfl, hReading, if_pos hReading⟩)
    · refine .inr (.inr ⟨rfl, by simpa using hReading, ?_⟩)
      dsimp only
      rw [if_neg hReading]
      cases hFailure : connection.failure with
      | some error => exact ⟨error, rfl, .inl rfl⟩
      | none =>
        have hSame : { connection with failure := none } = connection := by rw [← hFailure]
        exact ⟨_, by rw [hSame], .inr ⟨rfl, rfl⟩⟩

/-- A move of somebody else adds nothing to what the owner got. -/
theorem Move.returned?_eq_none (hOther : move ≠ .recv) : move.returned? connection = none := by
  cases move with
  | recv => exact absurd rfl hOther
  | _ => rfl

theorem Move.error?_eq_none (hOther : move ≠ .recv) : move.error? connection = none := by
  cases move with
  | recv => exact absurd rfl hOther
  | _ => rfl

namespace Course

/-- What the owner got and what waits for it. -/
def texts (course : Course) : List String :=
  course.returned ++ course.connection.inbound.items

/-- Taking moves a text from the queue to the owner, and ends nothing. -/
theorem texts_step_recv (course : Course) :
    (course.step .recv).texts = course.texts ∧
      (course.step .recv).connection.reading = course.connection.reading := by
  rcases course.connection.recv_cases with ⟨content, rest, hItems, hRecv⟩ | ⟨-, -, hRecv⟩ |
    ⟨-, -, error, hRecv, -⟩ <;>
    simp [texts, step, Connection.step, Move.returned?, *]

/-! ## Along a run -/

/-- What a connection keeps to itself, beside the log of its course. -/
structure Sound (capacity : Nat) (course : Course) : Prop where
  capacity_eq : course.connection.inbound.capacity = capacity
  unclosed : course.connection.inbound.closed = false
  /-- Until the first error, the connection keeps the first failure of either side. -/
  kept : course.errors = [] → course.connection.failure = course.faults.head?
  told : course.connection.reading = false → course.connection.cancelled = true
  cause : course.connection.Ending → course.faults ≠ [] ∨ course.stopped = true
  drained : course.errors ≠ [] →
    course.connection.reading = false ∧ course.connection.inbound.items = []

theorem Sound.step_recv {capacity : Nat} {course : Course} (hSound : course.Sound capacity) :
    (course.step .recv).Sound capacity := by
  rcases course.connection.recv_cases with ⟨content, rest, hItems, hRecv⟩ | ⟨-, -, hRecv⟩ |
    ⟨hItems, hReading, error, hRecv, -⟩
  all_goals
    obtain ⟨hCapacity, hUnclosed, hKept, hTold, hCause, hDrained⟩ := hSound
    constructor <;> simp_all [step, Connection.step, Move.fault?, Move.error?, Ending]

theorem Sound.step {capacity : Nat} {course : Course} (hSound : course.Sound capacity)
    (move : Move) : (course.step move).Sound capacity := by
  by_cases hRecv : move = .recv
  · exact hRecv ▸ hSound.step_recv
  obtain ⟨hFailure, hEnding, hOver, hTold, hCapacity, hUnclosed, hTakes⟩ :=
    proceeds_step hSound.unclosed hRecv
  have hErrors : (course.step move).errors = course.errors := by
    simp [Course.step, Move.error?_eq_none hRecv]
  refine ⟨hCapacity.trans hSound.capacity_eq, hUnclosed.trans hSound.unclosed, fun hNone => ?_,
    hTold hSound.told, fun hEnds => ?_, fun hSome => ?_⟩
  · show (course.connection.step move).failure =
      (course.faults ++ (move.fault? course.connection).toList).head?
    rw [hFailure, hSound.kept (hErrors ▸ hNone), List.head?_append, Option.head?_toList]
  · show course.faults ++ (move.fault? course.connection).toList ≠ [] ∨
      (course.stopped || decide (move = .stop)) = true
    rcases hEnding hEnds with hBefore | hFault | rfl
    · exact (hSound.cause hBefore).imp (fun h => by simp [h]) fun h => by simp [h]
    · exact .inl (by simp [Option.isSome_iff_ne_none.mp hFault])
    · exact .inr (by simp)
  · obtain ⟨hReading, hItems⟩ := hSound.drained (hErrors ▸ hSome)
    refine ⟨hOver hReading, ?_⟩
    cases hTakes with
    | nothing _ hSame => exact hSame.trans hItems
    | queued hGoing => exact absurd hGoing (by simp [hReading])
    | refused hGoing => exact absurd hGoing (by simp [hReading])

theorem sound_run (config : ConnectionConfig) (now : Duration) (moves : List Move) :
    (run config now moves).Sound (max config.inboundCapacity 1) := by
  induction moves using List.reverseRecOn with
  | nil =>
    refine ⟨rfl, rfl, fun _ => rfl, nofun, ?_, fun h => absurd rfl h⟩
    rintro (⟨⟨⟩⟩ | ⟨_, ⟨⟩⟩)
  | append_singleton moves move ih =>
    rw [run_snoc]
    exact ih.step move

/-- Up to where the owner got the texts that the socket brought, or finds them in the queue. -/
inductive Delivered (config : ConnectionConfig) (now : Duration) (moves : List Move) : Prop
  /-- All of them, while the reading side goes on. -/
  | going (hReading : (run config now moves).connection.reading = true)
      (hTexts : (run config now moves).texts = offered moves)
  /-- All of them up to the move that ended the reading side. -/
  | finished {before after : List Move} {last : Move} (hMoves : moves = before ++ last :: after)
      (hReading : (run config now before).connection.reading = true)
      (hOver : (run config now (before ++ [last])).connection.reading = false)
      (hTexts : (run config now moves).texts = offered (before ++ [last]))
  /-- All of them up to the one that did not fit and so ended the reading side. -/
  | overflow {before after : List Move} {last : Move} (hMoves : moves = before ++ last :: after)
      (hReading : (run config now before).connection.reading = true)
      (hOver : (run config now (before ++ [last])).connection.reading = false)
      (hFault : last.fault? (run config now before).connection =
        some (.inboundOverflow (max config.inboundCapacity 1)))
      (hTexts : (run config now moves).texts = offered before)

/-- A side that ended has ended for good. -/
theorem over_step (course : Course) {capacity : Nat} (hSound : course.Sound capacity) (move : Move)
    (hOver : course.connection.reading = false) :
    (course.step move).connection.reading = false ∧ (course.step move).texts = course.texts := by
  by_cases hRecv : move = .recv
  · obtain ⟨hTexts, hReading⟩ := course.texts_step_recv
    exact hRecv ▸ ⟨hReading.trans hOver, hTexts⟩
  · have hProceeds := proceeds_step hSound.unclosed hRecv
    refine ⟨hProceeds.stays hOver, ?_⟩
    have hItems :
        (course.step move).connection.inbound.items = course.connection.inbound.items := by
      cases hProceeds.takes with
      | nothing _ hItems => exact hItems
      | queued hReading => exact absurd hReading (by simp [hOver])
      | refused hReading => exact absurd hReading (by simp [hOver])
    rw [texts, texts, hItems, step, Move.returned?_eq_none hRecv, Option.toList_none,
      List.append_nil]

theorem over_steps {config : ConnectionConfig} {now : Duration} {moves : List Move}
    (hOver : (run config now moves).connection.reading = false) (after : List Move) :
    (run config now (moves ++ after)).connection.reading = false ∧
      (run config now (moves ++ after)).texts = (run config now moves).texts := by
  induction after using List.reverseRecOn with
  | nil => simpa using hOver
  | append_singleton after move ih =>
    obtain ⟨hReading, hTexts⟩ := over_step _ (sound_run config now (moves ++ after)) move ih.1
    rw [← List.append_assoc, run_snoc]
    exact ⟨hReading, hTexts.trans ih.2⟩

theorem over_of_over {config : ConnectionConfig} {now : Duration} {moves before after : List Move}
    {last : Move} (hMoves : moves = before ++ last :: after)
    (hOver : (run config now (before ++ [last])).connection.reading = false) :
    (run config now moves).connection.reading = false := by
  have hLater := (over_steps hOver after).1
  rwa [List.append_assoc, List.singleton_append, ← hMoves] at hLater

/-- A move while the reading side goes on. -/
theorem delivered_of_going {config : ConnectionConfig} {now : Duration} {moves : List Move}
    (move : Move) (hReading : (run config now moves).connection.reading = true)
    (hTexts : (run config now moves).texts = offered moves) :
    Delivered config now (moves ++ [move]) := by
  have hSound := sound_run config now moves
  have hNext := run_snoc config now moves move
  by_cases hRecv : move = .recv
  · obtain ⟨hSame, hStill⟩ := (run config now moves).texts_step_recv
    refine .going (by rw [hNext, hRecv, hStill, hReading]) ?_
    rw [hNext, hRecv, hSame, hTexts]
    simp [offered, Move.content?]
  have hTake := (proceeds_step hSound.unclosed hRecv).takes
  have hAdded : (run config now (moves ++ [move])).texts = (run config now moves).returned ++
      ((run config now moves).connection.step move).inbound.items := by
    rw [hNext, texts, step, Move.returned?_eq_none hRecv, Option.toList_none, List.append_nil]
  have hOffered :
      offered (moves ++ [move]) = (run config now moves).texts ++ move.content?.toList := by
    rw [hTexts, offered, List.filterMap_append]
    cases hContent : move.content? <;> simp [hContent, offered]
  cases hTake with
  | nothing hNone hItems =>
    have hAll : (run config now (moves ++ [move])).texts = offered (moves ++ [move]) := by
      rw [hAdded, hItems, hOffered, hNone hReading, Option.toList_none, List.append_nil]
      rfl
    cases hStill : (run config now (moves ++ [move])).connection.reading with
    | true => exact .going hStill hAll
    | false => exact .finished rfl hReading hStill hAll
  | queued _ hContent _ hItems hStill _ =>
    refine .going (by rw [hNext]; exact hStill) ?_
    rw [hAdded, hItems, hOffered, hContent, Option.toList_some, ← List.append_assoc]
    rfl
  | refused _ hContent _ hItems hOver hFault =>
    refine .overflow rfl hReading (by rw [hNext]; exact hOver) (hSound.capacity_eq ▸ hFault) ?_
    rw [hAdded, hItems, ← hTexts]
    rfl

theorem delivered_run (config : ConnectionConfig) (now : Duration) (moves : List Move) :
    Delivered config now moves := by
  induction moves using List.reverseRecOn with
  | nil => exact .going rfl rfl
  | append_singleton moves move ih =>
    -- the texts stay as they are once the reading side is over
    cases ih with
    | going hReading hTexts => exact delivered_of_going move hReading hTexts
    | finished hMoves hReading hOver hTexts =>
      refine .finished (by rw [hMoves, List.append_assoc, List.cons_append]) hReading hOver ?_
      rw [(over_steps (over_of_over hMoves hOver) [move]).2, hTexts]
    | overflow hMoves hReading hOver hFault hTexts =>
      refine .overflow (by rw [hMoves, List.append_assoc, List.cons_append]) hReading hOver hFault
        ?_
      rw [(over_steps (over_of_over hMoves hOver) [move]).2, hTexts]

/-! ## What the owner can rely on -/

/-- What the owner of a connection can rely on after some moves. -/
structure Faithful (config : ConnectionConfig) (now : Duration) (moves : List Move) : Prop where
  delivered : Delivered config now moves
  /-- What the owner got are the first of the texts that the socket brought. -/
  initial : (run config now moves).returned <+: offered moves
  /-- A text that finds the queue full is not skipped: it ends both sides. -/
  overflow : ∀ frame : Frame, frame.content?.isSome →
    (run config now moves).connection.reading = true →
    max config.inboundCapacity 1 ≤ (run config now moves).connection.inbound.items.length →
      let next := run config now (moves ++ [.socket (.frame frame)])
      next.connection.reading = false ∧ next.connection.cancelled = true ∧
        next.texts = (run config now moves).texts ∧
        next.faults = (run config now moves).faults ++
          [.inboundOverflow (max config.inboundCapacity 1)]
  /-- Once the reading side is over, all that is queued can be received, and then an error. -/
  drains : (run config now moves).connection.reading = false →
    let drained := run config now
      (moves ++ List.replicate (run config now moves).connection.inbound.items.length .recv)
    drained.returned = (run config now moves).texts ∧
      drained.errors = (run config now moves).errors ∧
      (Move.recv.error? drained.connection).isSome
  /-- There is no error before the last text. -/
  last : (run config now moves).errors ≠ [] →
    (run config now moves).connection.reading = false ∧
      (run config now moves).connection.inbound.items = []
  /-- The first error is the first failure of either side, or says that the connection was
  stopped. -/
  first : (run config now moves).errors = [] →
    ∀ error, Move.recv.error? (run config now moves).connection = some error →
      (run config now moves).faults.head? = some error ∨
        (run config now moves).faults = [] ∧ (run config now moves).stopped = true ∧
          error = .cancelled

/-- Whoever receives as often as texts are queued gets all of them. -/
theorem steps_recv (course : Course) {items : List String}
    (hItems : course.connection.inbound.items = items) :
    let drained := course.steps (List.replicate items.length .recv)
    drained.returned = course.texts ∧ drained.errors = course.errors ∧
      drained.connection.inbound.items = [] ∧
      drained.connection.reading = course.connection.reading := by
  induction items generalizing course with
  | nil => exact ⟨by simp [steps, texts, hItems], rfl, hItems, rfl⟩
  | cons content rest ih =>
    obtain ⟨hTexts, hReading⟩ := course.texts_step_recv
    have hRecv : course.connection.recv =
        (.text content, { course.connection with
          inbound := { course.connection.inbound with items := rest } }) := by
      simp [recv, Queue.take, hItems]
    have hErrors : (course.step .recv).errors = course.errors := by
      simp [step, Move.error?, hRecv]
    obtain ⟨hReturned, hSame, hEmpty, hStill⟩ := ih (course.step .recv)
      (by simp [step, Connection.step, hRecv])
    exact ⟨hReturned.trans hTexts, hSame.trans hErrors, hEmpty, hStill.trans hReading⟩

theorem texts_initial {config : ConnectionConfig} {now : Duration} {moves : List Move}
    (hDelivered : Delivered config now moves) :
    (run config now moves).texts <+: offered moves := by
  have hOffered (first second : List Move) :
      offered (first ++ second) = offered first ++ offered second := List.filterMap_append
  cases hDelivered with
  | going _ hTexts => exact hTexts ▸ List.prefix_refl _
  | @finished before after last hMoves _ _ hTexts =>
    rw [hTexts, hMoves, List.append_cons before last after, hOffered _ after]
    exact List.prefix_append _ _
  | @overflow before after last hMoves _ _ _ hTexts =>
    rw [hTexts, hMoves, hOffered]
    exact List.prefix_append _ _

theorem overflow_step {capacity : Nat} {course : Course} (hSound : course.Sound capacity)
    {frame : Frame} (hContent : frame.content?.isSome)
    (hReading : course.connection.reading = true)
    (hFull : capacity ≤ course.connection.inbound.items.length) :
    let next := course.step (.socket (.frame frame))
    next.connection.reading = false ∧ next.connection.cancelled = true ∧
      next.texts = course.texts ∧ next.faults = course.faults ++ [.inboundOverflow capacity] := by
  have hProceeds : (Move.socket (.frame frame)).Proceeds course.connection
      (course.connection.step (.socket (.frame frame))) := proceeds_step hSound.unclosed nofun
  obtain ⟨content, hSome⟩ := Option.isSome_iff_exists.mp hContent
  have hContent? : (Move.socket (.frame frame)).content? = some content := hSome
  cases hProceeds.takes with
  | nothing hNone => exact absurd (hNone hReading) (by simp [hContent?])
  | queued _ _ hRoom => exact absurd hRoom (by simpa [hSound.capacity_eq] using hFull)
  | refused _ _ _ hItems hOver hFault =>
    refine ⟨hOver, hProceeds.told hSound.told hOver, ?_, ?_⟩
    · show _ ++ _ = _ ++ _
      rw [step, hItems, Move.returned?_eq_none (by simp), Option.toList_none, List.append_nil]
    · rw [step, hFault, hSound.capacity_eq]
      rfl

theorem first_error {capacity : Nat} {course : Course} (hSound : course.Sound capacity)
    (hNone : course.errors = []) {error : TransportError}
    (hError : Move.recv.error? course.connection = some error) :
    course.faults.head? = some error ∨
      course.faults = [] ∧ course.stopped = true ∧ error = .cancelled := by
  have hKept := hSound.kept hNone
  rcases course.connection.recv_cases with ⟨_, _, -, hRecv⟩ | ⟨-, -, hRecv⟩ |
    ⟨-, hOver, found, hRecv, hFound⟩
  · simp [Move.error?, hRecv] at hError
  · simp [Move.error?, hRecv] at hError
  · obtain rfl : found = error := by simpa [Move.error?, hRecv] using hError
    rcases hFound with hFailure | ⟨hFailure, rfl⟩
    · exact .inl (hKept.symm.trans hFailure)
    · have hFaults : course.faults = [] := List.head?_eq_none_iff.mp (hKept.symm.trans hFailure)
      have hCancelled := hSound.told hOver
      refine .inr ⟨hFaults, ?_, if_pos hCancelled⟩
      exact (hSound.cause (.inl hCancelled)).resolve_left (absurd hFaults)

theorem drained_step {config : ConnectionConfig} {now : Duration} {moves : List Move}
    (hOver : (run config now moves).connection.reading = false) :
    let drained := run config now
      (moves ++ List.replicate (run config now moves).connection.inbound.items.length .recv)
    drained.returned = (run config now moves).texts ∧
      drained.errors = (run config now moves).errors ∧
      (Move.recv.error? drained.connection).isSome := by
  have hSteps (course : Course) (after : List Move) (hCourse : course = run config now moves) :
      run config now (moves ++ after) = course.steps after := hCourse ▸ List.foldl_append
  intro drained
  have hDrained : drained = _ := hSteps _ _ rfl
  obtain ⟨hReturned, hErrors, hEmpty, hReading⟩ := steps_recv (run config now moves) rfl
  rw [← hDrained] at hReturned hErrors hEmpty hReading
  refine ⟨hReturned, hErrors, ?_⟩
  rcases drained.connection.recv_cases with ⟨_, _, hItems, -⟩ | ⟨-, hGoing, -⟩ |
    ⟨-, -, error, hRecv, -⟩
  · rw [hEmpty] at hItems
    cases hItems
  · rw [hReading, hOver] at hGoing
    cases hGoing
  · simp [Move.error?, hRecv]

/-- **No text is lost on a connection.** Whatever its queue holds, and in whatever order the socket,
the two sides, the owner and the clock take their steps: the owner gets the texts that the socket
brought in their order, without gaps and repetitions, up to the move that ended the reading side. A
text that does not fit ends the connection. Every text comes before the first error, and that is the
first failure of either side, or `cancelled` after a stop. -/
theorem texts_delivered_in_order (config : ConnectionConfig) (now : Duration)
    (moves : List Move) : Faithful config now moves where
  delivered := delivered_run config now moves
  initial := (List.prefix_append _ _).trans (texts_initial (delivered_run config now moves))
  overflow _ hContent hReading hFull := by
    dsimp only
    rw [run_snoc]
    exact overflow_step (sound_run config now moves) hContent hReading hFull
  drains := drained_step
  last := (sound_run config now moves).drained
  first hNone _ hError := first_error (sound_run config now moves) hNone hError

end Course

end Connection

end MarketGateway
