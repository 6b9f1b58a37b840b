import Mathlib.Data.List.Chain
import Mathlib.Data.List.Induction
import Mathlib.Data.List.Nodup
import MarketGateway.Client.Session

/-!
# What a client asks of its registry

A frame makes at most one call of the registry. Which one it is, and what the client holds when the
call is granted, does not depend on the registry: `handle_eq` reads both off a registry that only
notes calls.

A `Guest` is a client between its calls. It hears a frame or hangs up, and its calls are answered
one after another, granted or refused. Whatever the answers are, the calls for one room that are
granted join and leave it in turn, and the guest holds exactly the rooms that it joined last
(`Guest.sound_run`).
-/

namespace MarketGateway

/-- A call of a registry. -/
inductive RoomCall
  | join (key : RoomKey)
  | leave (key : RoomKey)
  deriving Repr, DecidableEq

namespace RoomCall

def key : RoomCall → RoomKey
  | join key | leave key => key

/-- Makes a call. -/
def apply {σ : Type} (registry : Registry σ) (client : ClientId) :
    RoomCall → σ → Option JoinError × σ
  | join key, rooms => registry.join key client rooms
  | leave key, rooms => (none, registry.leave key client rooms)

end RoomCall

/-- The registry that grants everything and notes the calls. -/
def Registry.notes : Registry (List RoomCall) where
  join key _ calls := (none, calls ++ [.join key])
  leave key _ calls := calls ++ [.leave key]

/-! ## Rooms that are held -/

namespace HeldRooms

variable {held : HeldRooms} {key other : RoomKey}

@[simp] theorem contains_add (held : HeldRooms) (key other : RoomKey) :
    (held.add key).2.contains other = true ↔ held.contains other = true ∨ other = key := by
  unfold add
  split
  · next hHeld =>
    refine ⟨.inl, ?_⟩
    rintro (hOther | rfl)
    · exact hOther
    · exact hHeld
  · simp [contains]

@[simp] theorem contains_remove (held : HeldRooms) (key other : RoomKey) :
    (held.remove key).2.contains other = true ↔ held.contains other = true ∧ other ≠ key := by
  simp [remove, contains]

theorem nodup_add (hApart : held.keys.Nodup) (key : RoomKey) : (held.add key).2.keys.Nodup := by
  unfold add
  split
  · exact hApart
  · next hNew =>
    have hKey : key ∉ held.keys := by simpa [contains] using hNew
    exact List.nodup_append.mpr ⟨hApart, List.nodup_singleton key, fun other hOther found hFound =>
      List.mem_singleton.mp hFound ▸ ne_of_mem_of_not_mem hOther hKey⟩

theorem nodup_remove (hApart : held.keys.Nodup) (key : RoomKey) :
    (held.remove key).2.keys.Nodup :=
  List.filter_sublist.nodup hApart

theorem remove_of_not_contains (hNew : held.contains key = false) : (held.remove key).2 = held := by
  have hKey : key ∉ held.keys := by simpa [contains] using hNew
  have hKeys : held.keys.filter (· != key) = held.keys := by
    refine List.filter_eq_self.mpr ?_
    intro other hOther
    simpa using ne_of_mem_of_not_mem hOther hKey
  simp [remove, hKeys]

end HeldRooms

namespace ClientSession

variable {σ : Type}

/-- What a frame asks of the registry, and what is held when that is granted. -/
inductive Asks (held : HeldRooms) : List RoomCall → HeldRooms → Prop
  | nothing : Asks held [] held
  | join {key : RoomKey} (hNew : held.contains key = false) :
      Asks held [.join key] (held.add key).2
  | leave {key : RoomKey} (hHeld : held.contains key = true) :
      Asks held [.leave key] (held.remove key).2

/-- What a frame comes to does not depend on the registry. -/
theorem handle_cases (levels : Option Nat) (client : ClientId) (frame : String)
    (held : HeldRooms) :
    (∃ notice, ∀ {σ : Type} (registry : Registry σ) (rooms : σ),
      handle registry levels client frame held rooms = (notice, held, rooms)) ∨
    (∃ key, ∀ {σ : Type} (registry : Registry σ) (rooms : σ),
      handle registry levels client frame held rooms =
        subscribe registry client key held rooms) ∨
    ∃ key, ∀ {σ : Type} (registry : Registry σ) (rooms : σ),
      handle registry levels client frame held rooms =
        unsubscribe registry client key held rooms := by
  unfold handle
  cases ClientRequest.parse frame with
  | error failure => exact .inl ⟨_, fun _ _ => rfl⟩
  | ok request =>
    dsimp only
    by_cases hPing : request.action = .ping
    · exact .inl ⟨_, fun _ _ => if_pos hPing⟩
    · simp only [if_neg hPing]
      cases request.roomKey levels with
      | error failure => exact .inl ⟨_, fun _ _ => rfl⟩
      | ok key =>
        cases hAction : request.action with
        | subscribe => exact .inr (.inl ⟨key, fun _ _ => rfl⟩)
        | unsubscribe => exact .inr (.inr ⟨key, fun _ _ => rfl⟩)
        | ping => exact absurd hAction hPing

/-- A frame that makes no call is answered without the registry. Otherwise the one call that it
makes decides: if it is granted, the answer is the same for every registry, and if it is refused,
the client holds what it held. -/
theorem handle_eq (registry : Registry σ) (levels : Option Nat) (client : ClientId) (frame : String)
    (held : HeldRooms) (rooms : σ) :
    let noted := handle .notes levels client frame held []
    Asks held noted.2.2 noted.2.1 ∧
      handle registry levels client frame held rooms =
        match noted.2.2 with
        | [] => (noted.1, noted.2.1, rooms)
        | call :: _ =>
          match call.apply registry client rooms with
          | (none, rooms) => (noted.1, noted.2.1, rooms)
          | (some failure, rooms) => (.error failure.message, held, rooms) := by
  rcases handle_cases levels client frame held with ⟨notice, hNotice⟩ | ⟨key, hKey⟩ | ⟨key, hKey⟩
  · simp only [hNotice, and_true]
    exact .nothing
  · simp only [hKey, subscribe]
    cases hHeld : held.contains key with
    | true => exact ⟨.nothing, rfl⟩
    | false =>
      refine ⟨.join hHeld, ?_⟩
      simp only [Registry.notes, RoomCall.apply, List.nil_append, Bool.false_eq_true, if_false]
      split <;> simp_all
  · simp only [hKey, unsubscribe]
    cases hHeld : held.contains key with
    | true =>
      have hFlag : (held.remove key).1 = true := hHeld
      simp only [hFlag, if_true]
      exact ⟨.leave hHeld, rfl⟩
    | false =>
      have hFlag : (held.remove key).1 = false := hHeld
      simp only [hFlag, HeldRooms.remove_of_not_contains hHeld]
      exact ⟨.nothing, rfl⟩

theorem leaveAll_notes (client : ClientId) (held : HeldRooms) :
    leaveAll .notes client held [] = held.keys.map .leave := by
  have hNoted (keys : List RoomKey) (calls : List RoomCall) :
      keys.foldl (fun calls key => Registry.notes.leave key client calls) calls =
        calls ++ keys.map .leave := by
    induction keys generalizing calls with
    | nil => simp
    | cons key rest ih =>
      rw [List.foldl_cons, ih]
      exact List.append_assoc calls [.leave key] _
  exact hNoted held.keys []

/-- A client that leaves makes these calls of every registry. -/
theorem leaveAll_eq (registry : Registry σ) (client : ClientId) (held : HeldRooms) (rooms : σ) :
    leaveAll registry client held rooms =
      (leaveAll .notes client held []).foldl
        (fun rooms call => (call.apply registry client rooms).2) rooms := by
  rw [leaveAll_notes, List.foldl_map]
  rfl

end ClientSession

/-! ## Guests -/

/-- A client between its calls. -/
structure Guest where
  levels : Option Nat
  /-- Rooms that it holds while no call is under way. -/
  held : HeldRooms := {}
  /-- Calls that are still to be answered; the first is under way. -/
  pending : List RoomCall := []
  /-- Rooms that it holds when they are granted. -/
  wanted : HeldRooms := {}
  /-- Whether it hung up. -/
  left : Bool := false
  /-- Calls that were granted, oldest first. -/
  calls : List RoomCall := []

namespace Guest

/-- What happens to a guest. -/
inductive Event
  | frame (text : String)
  /-- The call under way is granted, or refused if it is one to join. -/
  | answer (refusal : Option JoinError)
  | hangUp

/-- Without a call under way, the guest holds what it wanted. -/
def settle (guest : Guest) : Guest :=
  { guest with held := if guest.pending = [] then guest.wanted else guest.held }

/-- Whether the guest hears what its client sends. -/
def listens (guest : Guest) : Bool := !guest.left && guest.pending.isEmpty

def step (client : ClientId) (guest : Guest) : Event → Guest
  | .frame text =>
    if guest.listens then
      let (_, wanted, calls) := ClientSession.handle .notes guest.levels client text guest.held []
      { guest with pending := calls, wanted := wanted }.settle
    else guest
  | .hangUp =>
    if guest.listens then
      { guest with
        left := true
        pending := ClientSession.leaveAll .notes client guest.held []
        wanted := {} }.settle
    else guest
  | .answer refusal =>
    match guest.pending, refusal with
    | .join _ :: rest, some _ => { guest with pending := rest }
    | call :: rest, _ =>
      { guest with pending := rest, calls := guest.calls ++ [call] }.settle
    | [], _ => guest

def run (levels : Option Nat) (client : ClientId) (events : List Event) : Guest :=
  events.foldl (step client) { levels := levels }

/-- Whether the guest goes by being in a room. -/
def keeps (guest : Guest) (key : RoomKey) : Bool :=
  if guest.left then guest.pending.contains (.leave key) else guest.held.contains key

/-- The calls for a room join it, leave it, join it, and so on. -/
def Alternates (calls : List RoomCall) (key : RoomKey) : Prop :=
  (calls.filter (·.key = key)).IsChain (· ≠ ·) ∧
    (calls.filter (·.key = key)).head? ≠ some (.leave key)

/-- The last of the calls for a room joins it. -/
def JoinedLast (calls : List RoomCall) (key : RoomKey) : Prop :=
  (calls.filter (·.key = key)).getLast? = some (.join key)

theorem joinedLast_snoc (calls : List RoomCall) (call : RoomCall) (key : RoomKey) :
    JoinedLast (calls ++ [call]) key ↔
      if call.key = key then call = .join key else JoinedLast calls key := by
  unfold JoinedLast
  rw [List.filter_append]
  split <;> next hKey => simp [hKey]

theorem alternates_snoc {calls : List RoomCall} {call : RoomCall} {key : RoomKey}
    (hAlternates : Alternates calls key)
    (hTurn : call.key = key → (call = .join key ↔ ¬ JoinedLast calls key)) :
    Alternates (calls ++ [call]) key := by
  obtain ⟨hChain, hHead⟩ := hAlternates
  unfold JoinedLast at hTurn
  unfold Alternates
  rw [List.filter_append]
  generalize calls.filter (·.key = key) = before at hChain hHead hTurn
  by_cases hKey : call.key = key
  · have hOne : [call].filter (·.key = key) = [call] := by simp [hKey]
    specialize hTurn hKey
    rw [hOne]
    cases before with
    | nil =>
      refine ⟨.singleton call, ?_⟩
      rintro ⟨⟩
      exact absurd (hTurn.mpr (by simp)) (by simp)
    | cons first rest =>
      refine ⟨List.isChain_append.mpr ⟨hChain, .singleton call, ?_⟩, hHead⟩
      rintro last hLast next ⟨⟩ rfl
      rw [Option.mem_def] at hLast
      cases last with
      | join other =>
        obtain rfl : other = key := hKey
        exact hTurn.mp rfl hLast
      | leave other =>
        have hNot : (first :: rest).getLast? ≠ some (.join key) := by simp [hLast]
        exact absurd (hTurn.mpr hNot) (by simp)
  · simpa [hKey] using ⟨hChain, hHead⟩

/-- What a guest is about. -/
inductive Stage (guest : Guest) : Prop
  | listening (hLeft : guest.left = false) (hPending : guest.pending = [])
  | joining {key : RoomKey} (hLeft : guest.left = false) (hPending : guest.pending = [.join key])
      (hNew : guest.held.contains key = false) (hWanted : guest.wanted = (guest.held.add key).2)
  | leaving {key : RoomKey} (hLeft : guest.left = false) (hPending : guest.pending = [.leave key])
      (hHeld : guest.held.contains key = true)
      (hWanted : guest.wanted = (guest.held.remove key).2)
  | gone {keys : List RoomKey} (hLeft : guest.left = true)
      (hPending : guest.pending = keys.map .leave) (hApart : keys.Nodup)
      (hWanted : guest.wanted = {})

/-- What holds of a guest whatever it is answered. -/
structure Sound (guest : Guest) : Prop where
  apart : guest.held.keys.Nodup
  stage : guest.Stage
  joined : ∀ key, JoinedLast guest.calls key ↔ guest.keeps key = true
  alternates : ∀ key, Alternates guest.calls key

variable {guest : Guest} {client : ClientId}

theorem keeps_of_here (hLeft : guest.left = false) (key : RoomKey) :
    guest.keeps key = guest.held.contains key :=
  if_neg (by simp [hLeft])

theorem keeps_of_left (hLeft : guest.left = true) (key : RoomKey) :
    guest.keeps key = guest.pending.contains (.leave key) :=
  if_pos hLeft

/-- A call that is granted is one that the guest had to make. -/
theorem Sound.grant {call : RoomCall} {rest : List RoomCall} (hSound : guest.Sound)
    (hPending : guest.pending = call :: rest) :
    ∀ key, call.key = key → (call = .join key ↔ ¬ JoinedLast guest.calls key) := by
  rintro key rfl
  rw [hSound.joined]
  cases hSound.stage with
  | listening _ hNone => simp [hNone] at hPending
  | joining hLeft hOne hNew =>
    obtain ⟨rfl, -⟩ := List.cons.inj (hOne.symm.trans hPending)
    simp [keeps, RoomCall.key, hLeft, hNew]
  | leaving hLeft hOne hHeld =>
    obtain ⟨rfl, -⟩ := List.cons.inj (hOne.symm.trans hPending)
    simp [keeps, RoomCall.key, hLeft, hHeld]
  | @gone keys hLeft hAll =>
    cases keys with
    | nil => simp [hAll] at hPending
    | cons key rest =>
      obtain ⟨rfl, -⟩ := List.cons.inj (hAll.symm.trans hPending)
      simp [keeps, RoomCall.key, hLeft, hAll]

/-- A call of a guest that is still here: from then on it holds the rooms that it wanted. -/
theorem Sound.answer_here {call : RoomCall} (hSound : guest.Sound) (hLeft : guest.left = false)
    (hPending : guest.pending = [call]) (hApart : guest.wanted.keys.Nodup)
    (hWanted : ∀ key, guest.wanted.contains key = true ↔
      if call.key = key then call = .join key else guest.held.contains key = true) :
    Sound { guest with pending := [], calls := guest.calls ++ [call] }.settle := by
  refine ⟨hApart, .listening hLeft rfl, fun key => ?_, fun key =>
    alternates_snoc (hSound.alternates key) (hSound.grant hPending key)⟩
  have hJoined := keeps_of_here hLeft key ▸ hSound.joined key
  show JoinedLast (guest.calls ++ [call]) key ↔
    (if guest.left then _ else guest.wanted.contains key) = true
  rw [hLeft, if_neg Bool.false_ne_true, joinedLast_snoc, hWanted, hJoined]

/-- What a guest goes by after a call is what the calls say. -/
theorem Sound.answer {call : RoomCall} {rest : List RoomCall} (hSound : guest.Sound)
    (hPending : guest.pending = call :: rest) :
    Sound { guest with pending := rest, calls := guest.calls ++ [call] }.settle := by
  cases hSound.stage with
  | listening _ hNone => simp [hNone] at hPending
  | @joining key hLeft hOne hNew hWanted =>
    obtain ⟨rfl, rfl⟩ := List.cons.inj (hOne.symm.trans hPending)
    refine hSound.answer_here hLeft hOne (hWanted ▸ HeldRooms.nodup_add hSound.apart key)
      fun other => ?_
    rw [hWanted, HeldRooms.contains_add]
    by_cases hSame : key = other
    · simp [RoomCall.key, hSame]
    · simp [RoomCall.key, hSame, Ne.symm hSame]
  | @leaving key hLeft hOne hHeld hWanted =>
    obtain ⟨rfl, rfl⟩ := List.cons.inj (hOne.symm.trans hPending)
    refine hSound.answer_here hLeft hOne (hWanted ▸ HeldRooms.nodup_remove hSound.apart key)
      fun other => ?_
    rw [hWanted, HeldRooms.contains_remove]
    by_cases hSame : key = other
    · simp [RoomCall.key, hSame]
    · simp [RoomCall.key, hSame, Ne.symm hSame]
  | @gone keys hLeft hAll hApart hWanted =>
    cases keys with
    | nil => simp [hAll] at hPending
    | cons key others =>
      obtain ⟨rfl, rfl⟩ := List.cons.inj (hAll.symm.trans hPending)
      obtain ⟨hHead, hRest⟩ := List.nodup_cons.mp hApart
      refine ⟨?_, .gone hLeft rfl hRest hWanted, fun other => ?_, fun other =>
        alternates_snoc (hSound.alternates other) (hSound.grant hPending other)⟩
      · simp only [settle, hWanted]
        split
        · exact List.nodup_nil
        · exact hSound.apart
      · have hOther := keeps_of_left hLeft other ▸ hSound.joined other
        show JoinedLast (guest.calls ++ [.leave key]) other ↔
          (if guest.left then (others.map RoomCall.leave).contains (.leave other) else _) = true
        rw [hLeft, if_pos rfl, joinedLast_snoc, hOther, hAll]
        by_cases hSame : key = other
        · simpa [RoomCall.key, hSame] using hSame ▸ hHead
        · simp [RoomCall.key, hSame, Ne.symm hSame]

theorem Sound.frame (hSound : guest.Sound) (hListens : guest.listens = true)
    (client : ClientId) (text : String) : (guest.step client (.frame text)).Sound := by
  have ⟨hLeft, hPending⟩ : guest.left = false ∧ guest.pending = [] := by
    simpa [listens] using hListens
  have hAsks := (ClientSession.handle_eq .notes guest.levels client text guest.held []).1
  rw [Guest.step, if_pos hListens]
  dsimp only at hAsks ⊢
  generalize ClientSession.handle .notes guest.levels client text guest.held [] = noted at hAsks
  obtain ⟨notice, wanted, calls⟩ := noted
  have hJoined (key : RoomKey) :
      JoinedLast guest.calls key ↔
        (if guest.left then calls.contains (.leave key) else guest.held.contains key) = true := by
    rw [hLeft]
    exact keeps_of_here hLeft key ▸ hSound.joined key
  cases hAsks with
  | nothing => exact ⟨hSound.apart, .listening hLeft rfl, hJoined, hSound.alternates⟩
  | join hNew => exact ⟨hSound.apart, .joining hLeft rfl hNew rfl, hJoined, hSound.alternates⟩
  | leave hHeld => exact ⟨hSound.apart, .leaving hLeft rfl hHeld rfl, hJoined, hSound.alternates⟩

theorem Sound.hangUp (hSound : guest.Sound) (hListens : guest.listens = true)
    (client : ClientId) : (guest.step client .hangUp).Sound := by
  have ⟨hLeft, hPending⟩ : guest.left = false ∧ guest.pending = [] := by
    simpa [listens] using hListens
  rw [Guest.step, if_pos hListens, ClientSession.leaveAll_notes]
  refine ⟨?_, .gone rfl rfl hSound.apart rfl, fun key => ?_, hSound.alternates⟩
  · simp only [settle]
    split
    · exact List.nodup_nil
    · exact hSound.apart
  · have hJoined := hSound.joined key
    rw [keeps_of_here hLeft] at hJoined
    rw [keeps_of_left rfl]
    simpa [settle, HeldRooms.contains] using hJoined

theorem Sound.refused {key : RoomKey} {rest : List RoomCall} (hSound : guest.Sound)
    (hPending : guest.pending = .join key :: rest) :
    Sound { guest with pending := rest } := by
  cases hSound.stage with
  | listening _ hNone => simp [hNone] at hPending
  | joining hLeft hOne =>
    obtain ⟨-, rfl⟩ := List.cons.inj (hOne.symm.trans hPending)
    refine ⟨hSound.apart, .listening hLeft rfl, fun other => ?_, hSound.alternates⟩
    rw [hSound.joined]
    simp [keeps, hLeft]
  | leaving _ hOne => cases hOne.symm.trans hPending
  | @gone keys _ hAll =>
    cases keys with
    | nil => simp [hAll] at hPending
    | cons => cases hAll.symm.trans hPending

theorem Sound.step (hSound : guest.Sound) (event : Event) : (guest.step client event).Sound := by
  cases event with
  | frame text =>
    by_cases hListens : guest.listens = true
    · exact hSound.frame hListens client text
    · rwa [Guest.step, if_neg hListens]
  | hangUp =>
    by_cases hListens : guest.listens = true
    · exact hSound.hangUp hListens client
    · rwa [Guest.step, if_neg hListens]
  | answer refusal =>
    unfold Guest.step
    dsimp only
    split
    · next hPending => exact hSound.refused hPending
    · next hPending _ => exact hSound.answer hPending
    · exact hSound

theorem sound_run (levels : Option Nat) (client : ClientId) (events : List Event) :
    (run levels client events).Sound := by
  induction events using List.reverseRecOn with
  | nil =>
    exact ⟨List.nodup_nil, .listening rfl rfl,
      fun key => by simp [JoinedLast, run, keeps, HeldRooms.contains],
      fun key => ⟨.nil, by simp [run]⟩⟩
  | append_singleton events event ih =>
    rw [run, List.foldl_append]
    exact ih.step event

end Guest

end MarketGateway
