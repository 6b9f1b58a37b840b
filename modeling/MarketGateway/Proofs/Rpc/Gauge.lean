import MarketGateway.Metrics
import MarketGateway.Proofs.Rpc.Background
import MarketGateway.Proofs.Rpc.Sending

/-!
# The gauge of pending requests

All sessions of a trading client set one gauge, each to the number of the requests that wait on it.
What the gauge shows is the last number that was set (`Metric.pendingGauge_eq`), and what a step
has to do with it is seen from the `Standing` of the connection that it works on: how many requests
wait, whether the session is over and whether the reader runs. `Standing.Step` lists what can happen
to one connection, with the numbers that are set, and `Client.Works` says that nothing happens to
the others. Each step of a client has a lemma that names its connection.
-/

namespace MarketGateway

namespace Metric

/-! ## What the gauge shows -/

/-- The numbers of pending requests that were set, oldest first. -/
def pendingCounts (events : List Metric) : List Nat :=
  events.filterMap fun
    | .rpcPending count => some count
    | _ => none

/-- The gauge of pending requests; one that was never set counts as 0. -/
def pendingGauge (events : List Metric) : Int :=
  ((totals events).lookup "gateway_rpc_pending").getD 0

theorem pendingCounts_append (events more : List Metric) :
    pendingCounts (events ++ more) = pendingCounts events ++ pendingCounts more :=
  List.filterMap_append

theorem lookup_record (table : List (String × Int)) (change : String × Change) (name : String) :
    (record table change).lookup name =
      if name = change.1 then some (change.2.apply ((table.lookup name).getD 0))
      else table.lookup name := by
  induction table with
  | nil =>
    by_cases hName : name = change.1
    · simp [record, hName]
    · simp [record, hName]
  | cons entry rest ih =>
    obtain ⟨key, n⟩ := entry
    by_cases hKey : key = change.1
    · by_cases hName : name = change.1
      · simp [record, hKey, hName]
      · have hOther : (name == change.1) = false := beq_eq_false_iff_ne.mpr hName
        simp [record, hKey, hName, List.lookup_cons, hOther]
    · by_cases hName : name = key
      · simp [record, hKey, hName]
      · have hOther : (name == key) = false := beq_eq_false_iff_ne.mpr hName
        simp [record, hKey, List.lookup_cons, hOther, ih]

/-- A series is told apart from another one by its name when that does not begin the other. -/
theorem series_ne {name other : String} (hName : ¬ name.toList <+: other.toList)
    (labels : List (String × String)) : series name labels ≠ other := by
  rintro rfl
  refine hName ?_
  unfold series
  split
  · exact List.prefix_rfl
  · simp only [String.toList_append, List.append_assoc]
    exact List.prefix_append _ _

/-- Only the number of pending requests touches its gauge. -/
theorem changes_cases (event : Metric) :
    (∃ count, event = .rpcPending count ∧ event.changes = [("gateway_rpc_pending", .set count)]) ∨
      pendingCounts [event] = [] ∧ ∀ change ∈ event.changes, change.1 ≠ "gateway_rpc_pending" := by
  cases event with
  | rpcPending count => exact .inl ⟨count, rfl, by simp [changes, series]⟩
  | feedMessage | reconnect | resync | rooms | clientConnected | clientDisconnected | framesSent
  | framesDropped | rpcRequest | tradeFallback | priceLookup =>
    refine .inr ⟨rfl, ?_⟩
    simp only [changes, List.mem_cons, List.not_mem_nil, or_false, forall_eq, forall_eq_or_imp]
    first
    | exact series_ne (by decide) _
    | exact ⟨series_ne (by decide) _, series_ne (by decide) _⟩

theorem lookup_foldl_record {changes : List (String × Change)} {name : String}
    (hOthers : ∀ change ∈ changes, change.1 ≠ name) (table : List (String × Int)) :
    (changes.foldl record table).lookup name = table.lookup name := by
  induction changes generalizing table with
  | nil => rfl
  | cons change rest ih =>
    have hFirst : name ≠ change.1 := (hOthers change (by simp)).symm
    rw [List.foldl_cons, ih fun other hOther => hOthers other (List.mem_cons_of_mem _ hOther),
      lookup_record, if_neg hFirst]

theorem lookup_totals (events : List Metric) :
    (totals events).lookup "gateway_rpc_pending" =
      (pendingCounts events).getLast?.map Int.ofNat := by
  induction events using List.reverseRecOn with
  | nil => rfl
  | append_singleton events event ih =>
    have hTotals : totals (events ++ [event]) = event.changes.foldl record (totals events) := by
      simp [totals]
    rw [hTotals, pendingCounts_append]
    rcases changes_cases event with ⟨count, rfl, hChanges⟩ | ⟨hCounts, hOthers⟩
    · rw [hChanges, List.foldl_cons, List.foldl_nil, lookup_record, if_pos rfl]
      simp [pendingCounts, Change.apply]
    · rw [lookup_foldl_record hOthers, ih, hCounts, List.append_nil]

theorem pendingGauge_eq (events : List Metric) :
    pendingGauge events = ((pendingCounts events).getLast?.getD 0 : Nat) := by
  rw [pendingGauge, lookup_totals]
  cases (pendingCounts events).getLast? <;> rfl

end Metric

namespace Rpc

open MarketGateway.Metric (pendingCounts)

/-! ## What happens to a connection -/

/-- What the gauge has to do with a connection. -/
structure Standing where
  /-- How many requests wait. -/
  waiting : Nat
  /-- Whether its session is over. -/
  closed : Bool
  /-- Whether its reader runs. -/
  reading : Bool

def Link.standing (link : Link) : Standing :=
  ⟨link.session.pending.length, link.session.closed, link.reading⟩

namespace Standing

/-- No request waits on a session that is over, and a reader does not end before the session. -/
structure Sound (standing : Standing) : Prop where
  waiting : standing.closed = true → standing.waiting = 0
  closed : standing.reading = false → standing.closed = true

/-- What a step does to a connection, with the numbers of pending requests that it sets. -/
inductive Step (before : Standing) : List Nat → Standing → Prop
  | stays : Step before [] before
  | enters (hOpen : before.closed = false) (count : Nat) :
      Step before [count] { before with waiting := count }
  | leaves {count : Nat} (hFewer : count ≤ before.waiting) :
      Step before [count] { before with waiting := count }
  /-- The table is let go, and the number is not set yet. -/
  | shuts : Step before [] { before with waiting := 0, closed := true }
  | closes : Step before [0] { before with waiting := 0, closed := true }
  | ends : Step before [0] ⟨0, true, false⟩

variable {before after : Standing} {told : List Nat}

theorem Step.sound (hStep : before.Step told after) (hSound : before.Sound) : after.Sound := by
  cases hStep with
  | stays => exact hSound
  | enters hOpen =>
    refine ⟨fun hClosed => ?_, hSound.closed⟩
    cases hOpen.symm.trans hClosed
  | leaves hFewer =>
    exact ⟨fun hClosed => Nat.le_zero.mp (hSound.waiting hClosed ▸ hFewer), hSound.closed⟩
  | shuts | closes | ends => exact ⟨fun _ => rfl, fun _ => rfl⟩

theorem Step.closed (hStep : before.Step told after) (hClosed : before.closed = true) :
    after.closed = true := by
  cases hStep with
  | stays | enters | leaves => exact hClosed
  | shuts | closes | ends => rfl

/-- The last number that is set is the one that is true afterwards. -/
theorem Step.tells (hStep : before.Step told after) :
    told = [after.waiting] ∨
      told = [] ∧ (after = before ∨ after.waiting = 0 ∧ after.closed = true ∧
        after.reading = before.reading) := by
  cases hStep with
  | stays => exact .inr ⟨rfl, .inl rfl⟩
  | shuts => exact .inr ⟨rfl, .inr ⟨rfl, rfl, rfl⟩⟩
  | enters | leaves | closes | ends => exact .inl rfl

end Standing

/-! ### The steps of a session -/

section

variable (link : Link) (id : String)

theorem length_without_le (pending : List (String × Ticket)) (id : String) :
    (Session.without pending id).length ≤ pending.length :=
  List.length_filter_le _ _

theorem step_register :
    link.standing.Step (pendingCounts (link.session.register id).2.2)
      { link with session := (link.session.register id).2.1 }.standing := by
  cases hClosed : link.session.closed with
  | true =>
    rw [Session.register_of_closed hClosed]
    exact .stays
  | false =>
    rw [Session.register_of_open hClosed]
    exact .enters hClosed _

theorem step_abandon :
    link.standing.Step (pendingCounts (link.session.abandon id).2)
      { link with session := (link.session.abandon id).1 }.standing := by
  unfold Session.abandon
  dsimp only
  split
  · exact .leaves (length_without_le link.session.pending id)
  · exact .stays

theorem step_dispatch (text : String) :
    link.standing.Step (pendingCounts (link.session.dispatch text).2)
      { link with session := (link.session.dispatch text).1 }.standing := by
  unfold Session.dispatch
  split
  · exact .stays
  · split
    · exact .stays
    · next answered _ => exact .leaves (length_without_le link.session.pending answered)

end

namespace Client

/-! ## What a step of the client works on -/

def standing (client : Client) (id : LinkId) : Option Standing :=
  client.links[id]?.map Link.standing

/-- The numbers of pending requests that were set. -/
def counts (client : Client) : List Nat := pendingCounts client.metrics

variable {client next : Client} {id : LinkId} {link : Link} {place : Option LinkId}
  {session : Session} {metrics : List Metric} {after : Standing}

theorem standing_of_getElem? (hLink : client.links[id]? = some link) :
    client.standing id = some link.standing := by
  rw [standing, hLink]
  rfl

theorem standing_modify {f : Link → Link} (hSame : ∀ link, (f link).standing = link.standing)
    (hLinks : next.links = client.links.modify id f) (other : LinkId) :
    next.standing other = client.standing other := by
  simp only [standing, hLinks, List.getElem?_modify]
  cases client.links[other]? with
  | none => rfl
  | some link =>
    simp only [Option.map_eq_map, Option.map_some]
    split
    · exact congrArg some (hSame link)
    · rfl

/-- Something happens to one connection, if there is one in this place, and nothing to others. -/
inductive Works (place : Option LinkId) (client next : Client) : Prop
  | nothing (hStandings : ∀ id, next.standing id = client.standing id)
      (hCounts : next.counts = client.counts)
  | link {id : LinkId} {before after : Standing} {told : List Nat} (hPlace : place = some id)
      (hBefore : client.standing id = some before) (hStep : before.Step told after)
      (hStandings : ∀ other, next.standing other =
        if id = other then some after else client.standing other)
      (hCounts : next.counts = client.counts ++ told)

/-- Everything but the links and the metrics may be anything. -/
theorem works_of_same (hLinks : next.links = client.links)
    (hMetrics : next.metrics = client.metrics) : Works place client next := by
  refine .nothing (fun id => ?_) ?_
  · rw [standing, standing, hLinks]
  · rw [counts, counts, hMetrics]

theorem Works.congr {last : Client} (hWorks : Works place client next)
    (hStandings : ∀ id, last.standing id = next.standing id) (hCounts : last.counts = next.counts) :
    Works place client last := by
  cases hWorks with
  | nothing hSame hTold =>
    exact .nothing (fun id => (hStandings id).trans (hSame id)) (hCounts.trans hTold)
  | link hPlace hBefore hStep hAfter hTold =>
    exact .link hPlace hBefore hStep (fun other => (hStandings other).trans (hAfter other))
      (hCounts.trans hTold)

theorem Works.of_start {first : Client} (hWorks : Works place client next)
    (hLinks : first.links = client.links) (hMetrics : first.metrics = client.metrics) :
    Works place first next := by
  have hStanding (id : LinkId) : first.standing id = client.standing id := by
    rw [standing, standing, hLinks]
  have hCount : first.counts = client.counts := by rw [counts, counts, hMetrics]
  cases hWorks with
  | nothing hSame hTold =>
    exact .nothing (fun id => (hSame id).trans (hStanding id).symm) (hTold.trans hCount.symm)
  | link hPlace hBefore hStep hAfter hTold =>
    refine .link hPlace ((hStanding _).trans hBefore) hStep (fun other => ?_) (hCount ▸ hTold)
    rw [hAfter, hStanding]

/-- Other metrics may be recorded. -/
theorem Works.record (hWorks : Works place client next) (hOthers : pendingCounts metrics = []) :
    Works place client (next.record metrics) := by
  refine hWorks.congr (fun _ => rfl) ?_
  show pendingCounts (next.metrics ++ metrics) = _
  rw [Metric.pendingCounts_append, hOthers, List.append_nil]
  rfl

theorem works_modify {f : Link → Link} {told : List Nat} (hLink : client.links[id]? = some link)
    (hStep : link.standing.Step told (f link).standing)
    (hLinks : next.links = client.links.modify id f)
    (hCounts : next.counts = client.counts ++ told) : Works (some id) client next := by
  refine .link rfl (standing_of_getElem? hLink) hStep (fun other => ?_) hCounts
  simp only [standing, hLinks, List.getElem?_modify]
  by_cases hSame : id = other
  · subst hSame
    simp [hLink]
  · simp [hSame]

theorem works_setSession (hLink : client.links[id]? = some link)
    (hStep : link.standing.Step (pendingCounts metrics) { link with session := session }.standing) :
    Works (some id) client (client.setSession id session metrics) :=
  works_modify (f := fun link => { link with session := session }) hLink hStep rfl
    (Metric.pendingCounts_append _ _)

/-! ### Sends -/

theorem works_advance (sending : Sending) (request : Request) :
    Works sending.stage.link? sending.client (sending.advance request).client := by
  have hSame {client : Client} {place : Option LinkId} : Works place client client :=
    works_of_same rfl rfl
  obtain ⟨client, stage, placed⟩ := sending
  unfold Sending.advance
  cases stage with
  | called =>
    dsimp only
    split
    · exact hSame.record rfl
    · split
      · exact hSame.record rfl
      · exact hSame
  | chosen id =>
    dsimp only
    split
    · exact hSame
    · next link hLink =>
      have hStep := step_register link request.requestId
      split
      · exact hSame.record rfl
      · next hRegister =>
        rw [hRegister] at hStep
        exact works_setSession hLink hStep
  | entered id ticket =>
    dsimp only
    split
    · exact hSame
    · split
      · next outbound _ =>
        refine .nothing ?_ rfl
        exact standing_modify (f := fun link => { link with outbound := outbound })
          (fun _ => rfl) rfl
      · exact hSame
  | waiting id ticket due =>
    dsimp only
    split
    · exact hSame
    · next link hLink =>
      have hTakes : Works (some id) client
          (client.setSession id (link.session.take ticket).2 []) := works_setSession hLink .stays
      split
      · exact hTakes
      · exact hTakes
      · split
        · exact hTakes
        · exact hSame
  | leaving id reply =>
    dsimp only
    split
    · exact hSame
    · next link hLink =>
      exact (works_setSession hLink (step_abandon link request.requestId)).record rfl
  | returned => exact hSame

/-! ### Closing -/

/-- The first half of closing a session: the table fails its requests and refuses more. -/
def shut (client : Client) (id : LinkId) : Client :=
  match client.links[id]? with
  | none => client
  | some link => client.setSession id link.session.close.2.1 []

/-- A close does the rest, and all of it when the first half was not done. -/
theorem closeSession_shut (client : Client) (id : LinkId) :
    (client.shut id).closeSession id = client.closeSession id := by
  cases hLink : client.links[id]? with
  | none => simp only [shut, closeSession, hLink]
  | some link =>
    have hAgain : (client.setSession id link.session.close.2.1 []).links[id]? =
        some { link with session := link.session.close.2.1 } := getElem?_setSession hLink
    have hClosed : link.session.close.2.1.close.2.1 = link.session.close.2.1 := by
      simp [Session.close]
    simp only [shut, closeSession, hLink, hAgain, setSession_setSession, hClosed]
    rfl

theorem works_shut (client : Client) (id : LinkId) : Works (some id) client (client.shut id) := by
  unfold shut
  split
  · exact works_of_same rfl rfl
  · next hLink => exact works_setSession hLink .shuts

theorem works_closeSession (client : Client) (id : LinkId) :
    Works (some id) client (client.closeSession id) := by
  unfold closeSession
  split
  · exact works_of_same rfl rfl
  · next hLink => exact works_setSession hLink .closes

theorem closed_closeSession (hAfter : (client.closeSession id).standing id = some after) :
    after.closed = true := by
  unfold closeSession at hAfter
  split at hAfter
  · next hNone => simp [standing, hNone] at hAfter
  · next link hLink =>
    have hAgain : (client.setSession id link.session.close.2.1 link.session.close.2.2).links[id]? =
        some { link with session := link.session.close.2.1 } := getElem?_setSession hLink
    cases (standing_of_getElem? hAgain).symm.trans hAfter
    rfl

theorem works_retire (client : Client) (previous : Option LinkId) :
    Works previous client (client.retire previous) := by
  cases previous with
  | none => exact works_of_same rfl rfl
  | some old => exact (works_closeSession client old).congr (fun _ => rfl) rfl

/-- The reader ends after it closed the session. -/
theorem works_onLost (client : Client) (id : LinkId) (error : TransportError) :
    Works (some id) client (client.onLost id error) := by
  unfold onLost
  split
  · exact works_of_same rfl rfl
  · next link hLink =>
    split
    · have hCloses : client.closeSession id =
          client.setSession id link.session.close.2.1 [.rpcPending 0] := by
        simp only [closeSession, hLink]
        rfl
      rw [hCloses]
      refine works_modify hLink .ends (List.modify_modify_eq _ _ _ _) ?_
      exact Metric.pendingCounts_append _ [.rpcPending 0]
    · exact works_of_same rfl rfl

theorem works_onFrame (client : Client) (id : LinkId) (text : String) :
    Works (some id) client (client.onFrame id text) := by
  unfold onFrame
  split
  · exact works_of_same rfl rfl
  · next link hLink =>
    split
    · exact (works_setSession hLink (step_dispatch link text)).congr (fun _ => rfl) rfl
    · exact works_of_same rfl rfl

theorem works_shutDown (client : Client) : Works client.current client client.shutDown := by
  unfold shutDown
  dsimp only
  split
  · next id hCurrent =>
    rw [hCurrent]
    have hCloses := works_closeSession { client with cancelled := true, current := none } id
    exact hCloses.of_start rfl rfl
  · exact works_of_same rfl rfl

end Client

end Rpc

end MarketGateway
