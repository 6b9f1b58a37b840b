import Mathlib.Data.Finset.Card
import Mathlib.Data.Finset.Dedup
import Mathlib.Data.List.Induction
import MarketGateway.Feed.State

/-!
# Sessions that share a state

A session tells the state of its feed that it starts, once at most that it is connected, that it
ends, and perhaps that it waits before another attempt, which is another session: its part of the
calls begins `life`. The sessions of a feed do so in any order among each other, as `Interleaved`
says, and messages may come at any time.

The state counts the sessions that have told last that they are connected. While there is one, what
the others tell is not noted, so the noted state is out of date then. It need not be brought up to
date when the last of them ends, because the end itself is noted: `apply_noted` says that a
transition after which no session is connected sets the noted state, and this is the invariant that
makes `Faithful` hold after every interleaving.
-/

namespace MarketGateway

namespace FeedState

/-! ## What sessions tell -/

/-- What a session tells the state of its feed. -/
inductive Transition
  | connecting
  | connected
  | ended (wasConnected : Bool) (error : Option String)
  | reconnecting (attempt : Nat)
  deriving DecidableEq

namespace Transition

def apply (state : FeedState) : Transition → FeedState
  | connecting => state.connecting
  | connected => state.connected
  | ended wasConnected error => state.ended wasConnected error
  | reconnecting attempt => state.reconnecting attempt

/-- The state that a transition sets. A connection sets none: it is counted. -/
def value? : Transition → Option FeedStatus
  | connecting => some .connecting
  | connected => none
  | ended _ _ => some .disconnected
  | reconnecting _ => some .reconnecting

/-- The session was connected until this transition. -/
def returns : Transition → Bool
  | ended wasConnected _ => wasConnected
  | connecting | connected | reconnecting _ => false

/-- All that a session tells. -/
def life (connects : Bool) (error : Option String) (attempt : Option Nat) : List Transition :=
  [connecting] ++ (if connects then [connected] else []) ++ [ended connects error] ++
    attempt.toList.map reconnecting

/-- A session has told so much of its life. -/
def Begins (told : List Transition) : Prop :=
  ∃ connects error attempt, told <+: life connects error attempt

theorem Begins.of_append {told more : List Transition} (hBegins : Begins (told ++ more)) :
    Begins told := by
  obtain ⟨connects, error, attempt, hPrefix⟩ := hBegins
  exact ⟨connects, error, attempt, (List.prefix_append told more).trans hPrefix⟩

/-- A session that is connected tells next that it ends and was connected, and it tells this at no
other time. -/
theorem Begins.connected_iff {told : List Transition} {transition : Transition}
    (hBegins : Begins (told ++ [transition])) :
    told.getLast? = some connected ↔ transition.returns = true := by
  obtain ⟨connects, error, attempt, hPrefix⟩ := hBegins
  -- a life has four transitions at most, so what was told has three at most
  cases connects <;> cases attempt <;>
    rcases told with _ | ⟨first, _ | ⟨second, _ | ⟨third, _ | ⟨fourth, rest⟩⟩⟩⟩ <;>
    simp_all [life, returns, List.cons_prefix_cons]

end Transition

/-- A call on the state of a feed. -/
inductive Call
  | session (id : Nat) (transition : Transition)
  | message
  deriving DecidableEq

namespace Call

def apply (state : FeedState) : Call → FeedState
  | session _ transition => transition.apply state
  | message => state.message

def id? : Call → Option Nat
  | session id _ => some id
  | message => none

def value? : Call → Option FeedStatus
  | session _ transition => transition.value?
  | message => none

/-- What the given session tells by the call. -/
def told? (id : Nat) : Call → Option Transition
  | session other transition => if other = id then some transition else none
  | message => none

end Call

/-- The state of a feed after some calls. -/
def after (kind : FeedKind) (calls : List Call) : FeedState :=
  calls.foldl Call.apply { kind := kind }

/-- What a session has told. -/
def told (id : Nat) (calls : List Call) : List Transition := calls.filterMap (Call.told? id)

/-- Any number of sessions has made the calls, each as far as it got in its life. -/
def Interleaved (calls : List Call) : Prop := ∀ id, Transition.Begins (told id calls)

/-- The sessions that are connected. -/
def connectedIds (calls : List Call) : Finset Nat :=
  (calls.filterMap Call.id?).toFinset.filter fun id =>
    (told id calls).getLast? = some .connected

/-- The state that was set last. -/
def latest (calls : List Call) : FeedStatus :=
  (calls.filterMap Call.value?).getLast?.getD .disconnected

/-- The state of a feed shows what the sessions have told. -/
structure Faithful (kind : FeedKind) (calls : List Call) : Prop where
  sessions : (after kind calls).sessions = (connectedIds calls).card
  connected : (after kind calls).status = .connected ↔ 0 < (connectedIds calls).card
  /-- A session that ends has been counted if it says that it was connected. -/
  returned (id : Nat) (error : Option String)
      (hNext : Interleaved (calls ++ [.session id (.ended true error)])) :
    (after kind (calls ++ [.session id (.ended true error)])).sessions + 1 =
      (after kind calls).sessions
  /-- What a session tells while another is connected does not show. -/
  hidden (id : Nat) (transition : Transition)
      (hNext : Interleaved (calls ++ [.session id transition]))
      (hOther : ∃ other ∈ connectedIds calls, other ≠ id) :
    (after kind (calls ++ [.session id transition])).status = (after kind calls).status
  latest (hNone : (connectedIds calls).card = 0) : (after kind calls).status = latest calls

variable {state : FeedState} {kind : FeedKind} {calls : List Call} {id : Nat}
  {transition : Transition}

/-! ## One more call -/

@[simp] theorem after_append (call : Call) :
    after kind (calls ++ [call]) = call.apply (after kind calls) := by
  simp [after]

@[simp] theorem told_append_self :
    told id (calls ++ [.session id transition]) = told id calls ++ [transition] := by
  simp [told, Call.told?]

theorem told_append_of_ne {other : Nat} (hNe : id ≠ other) :
    told other (calls ++ [.session id transition]) = told other calls := by
  simp [told, Call.told?, hNe]

@[simp] theorem told_append_message : told id (calls ++ [.message]) = told id calls := by
  simp [told, Call.told?]

theorem latest_append (call : Call) :
    latest (calls ++ [call]) = call.value?.getD (latest calls) := by
  unfold latest
  cases hValue : call.value? <;> simp [hValue]

theorem Interleaved.of_append {more : List Call} (hCalls : Interleaved (calls ++ more)) :
    Interleaved calls := by
  intro id
  have hBegins := hCalls id
  rw [told, List.filterMap_append] at hBegins
  exact hBegins.of_append

theorem latest_ne_connected (calls : List Call) : latest calls ≠ .connected := by
  induction calls using List.reverseRecOn with
  | nil => decide
  | append_singleton calls call ih =>
    rw [latest_append]
    cases call with
    | message => exact ih
    | session id transition =>
      cases transition with
      | connected => exact ih
      | connecting | ended | reconnecting => simp [Call.value?, Transition.value?]

/-! ## The sessions that are connected -/

theorem mem_connectedIds :
    id ∈ connectedIds calls ↔ (told id calls).getLast? = some .connected := by
  rw [connectedIds, Finset.mem_filter, List.mem_toFinset, and_iff_right_iff_imp]
  intro hLast
  obtain ⟨call, hCall, hTold⟩ := List.mem_filterMap.mp (List.mem_of_getLast? hLast)
  refine List.mem_filterMap.mpr ⟨call, hCall, ?_⟩
  cases call with
  | message => cases hTold
  | session other transition =>
    have hSame : other = id := (Option.ite_none_right_eq_some.mp hTold).1
    rw [← hSame]
    rfl

theorem connectedIds_append_message : connectedIds (calls ++ [.message]) = connectedIds calls := by
  ext id
  simp [mem_connectedIds]

theorem connectedIds_append_connected :
    connectedIds (calls ++ [.session id .connected]) = insert id (connectedIds calls) := by
  ext other
  by_cases hNe : id = other
  · subst hNe
    simp [mem_connectedIds]
  · simp [mem_connectedIds, told_append_of_ne hNe, Ne.symm hNe]

theorem connectedIds_append_of_ne (hOther : transition ≠ .connected) :
    connectedIds (calls ++ [.session id transition]) = (connectedIds calls).erase id := by
  ext other
  by_cases hNe : id = other
  · subst hNe
    simp [mem_connectedIds, hOther]
  · simp [mem_connectedIds, told_append_of_ne hNe, Ne.symm hNe]

theorem Interleaved.mem_connectedIds_iff
    (hCalls : Interleaved (calls ++ [.session id transition])) :
    id ∈ connectedIds calls ↔ transition.returns = true := by
  have hBegins := hCalls id
  rw [told_append_self] at hBegins
  rw [mem_connectedIds, hBegins.connected_iff]

/-! ## The count and the noted state -/

/-- A transition after which no session is connected sets the noted state. -/
theorem apply_noted (hNone : (transition.apply state).sessions = 0) :
    (transition.apply state).noted = transition.value?.getD state.noted := by
  cases transition with
  | connected => cases hNone
  | connecting | ended | reconnecting =>
    exact noted_note ((sessions_note _ _).symm.trans hNone) _

theorem apply_sessions_of_ne (hOther : transition ≠ .connected) :
    (transition.apply state).sessions =
      if transition.returns then state.sessions - 1 else state.sessions := by
  cases transition with
  | connected => cases hOther rfl
  | connecting | ended | reconnecting => exact sessions_note _ _

/-- The count goes with the sessions that are connected. -/
theorem after_sessions (hCalls : Interleaved calls) :
    (after kind calls).sessions = (connectedIds calls).card := by
  induction calls using List.reverseRecOn with
  | nil => rfl
  | append_singleton calls call ih =>
    have hCount := ih hCalls.of_append
    rw [after_append]
    cases call with
    | message => rwa [connectedIds_append_message]
    | session id transition =>
      have hMem := hCalls.mem_connectedIds_iff
      by_cases hConnected : transition = .connected
      · subst hConnected
        have hNew : id ∉ connectedIds calls := by simp [hMem, Transition.returns]
        rw [connectedIds_append_connected, Finset.card_insert_of_notMem hNew, ← hCount]
        rfl
      · rw [Call.apply, apply_sessions_of_ne hConnected, hCount,
          connectedIds_append_of_ne hConnected, Finset.card_erase_eq_ite]
        exact if_congr hMem.symm rfl rfl

/-- While no session is connected, the noted state is the one that was set last. -/
theorem after_noted (hNone : (after kind calls).sessions = 0) :
    (after kind calls).noted = latest calls := by
  induction calls using List.reverseRecOn with
  | nil => rfl
  | append_singleton calls call ih =>
    rw [after_append] at hNone ⊢
    rw [latest_append]
    cases call with
    | message => exact ih hNone
    | session id transition =>
      refine (apply_noted hNone).trans ?_
      cases transition with
      | connected => cases hNone
      | connecting | ended | reconnecting => rfl

theorem after_status_connected_iff :
    (after kind calls).status = .connected ↔ 0 < (after kind calls).sessions := by
  by_cases hSome : 0 < (after kind calls).sessions
  · exact iff_of_true (if_pos hSome) hSome
  · have hNone : (after kind calls).sessions = 0 := by omega
    rw [status_of_sessions_eq_zero hNone, after_noted hNone]
    exact iff_of_false (latest_ne_connected calls) hSome

/-- **The state that sessions share shows how many of them are connected, and what was told last
while none is.** -/
theorem faithful_of_interleaved (kind : FeedKind) (calls : List Call)
    (hCalls : Interleaved calls) : Faithful kind calls where
  sessions := after_sessions hCalls
  connected := by rw [after_status_connected_iff, after_sessions hCalls]
  returned id error hNext := by
    have hMem : id ∈ connectedIds calls := hNext.mem_connectedIds_iff.mpr rfl
    rw [after_sessions hNext, after_sessions hCalls, connectedIds_append_of_ne (by simp)]
    exact Finset.card_erase_add_one hMem
  hidden id transition hNext hOther := by
    obtain ⟨other, hOther, hNe⟩ := hOther
    have hStays : other ∈ connectedIds (calls ++ [.session id transition]) := by
      rwa [mem_connectedIds, told_append_of_ne hNe.symm, ← mem_connectedIds]
    have hShown {calls : List Call} (hCalls : Interleaved calls)
        (hConnected : other ∈ connectedIds calls) : (after kind calls).status = .connected := by
      rw [after_status_connected_iff, after_sessions hCalls]
      exact Finset.card_pos.mpr ⟨other, hConnected⟩
    rw [hShown hNext hStays, hShown hCalls hOther]
  latest hNone := by
    have hIdle : (after kind calls).sessions = 0 := (after_sessions hCalls).trans hNone
    rw [status_of_sessions_eq_zero hIdle, after_noted hIdle]

/-! ## Two sessions -/

/-- The second session fails and waits while the first one is connected, which then ends. -/
def overlap : List Call :=
  [.session 0 .connecting, .session 0 .connected, .session 1 .connecting, .message,
    .session 1 (.ended false (some "refused")), .session 1 (.reconnecting 2),
    .session 0 (.ended true none)]

theorem faithful_of_overlap :
    Interleaved overlap ∧ (after .depth overlap).sessions = 0 ∧
      (after .depth overlap).status = .disconnected := by
  have hCalls : Interleaved overlap := by
    rintro (_ | _ | id)
    · exact ⟨true, none, none, by decide⟩
    · exact ⟨false, some "refused", some 2, by decide⟩
    · exact ⟨false, none, none, List.nil_prefix⟩
  have hFaithful := faithful_of_interleaved .depth overlap hCalls
  have hNone : (connectedIds overlap).card = 0 := by decide
  exact ⟨hCalls, hFaithful.sessions.trans hNone, (hFaithful.latest hNone).trans (by decide)⟩

end FeedState

end MarketGateway
