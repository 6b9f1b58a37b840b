import MarketGateway.Depth.Feed
import MarketGateway.Rest.Client
import MarketGateway.Proofs.Book.Truncated
import Mathlib.Data.List.Induction

/-!
# What depth feeds publish

A depth feed moves its synchronizer and publishes the top of the replica. `Feed.Took` says which
moves a step made and which views it published; `step_spec` gives it for every step, with the input
that each move came from.

When the exchange is true to a history (`Input.Genuine`), every view that is published shows the
best levels of each side that are not hidden from the replica, at its cursor
(`published_best_of_known`). These are the true best ones exactly if no hidden level is among them,
and that is so while the snapshot was deep enough for what has been taken out since.
`view_lacks_hidden_bid` is a run with a view that is not true.
-/

namespace MarketGateway.Depth

open Book

/-! ## Sessions -/

/-- The event of a symbol that comes with a frame. -/
def eventOf? (symbol frame : String) : Option DiffEvent :=
  match Market.decode frame with
  | .ok (.depth update) =>
    if Text.equalIgnoringCase update.symbol symbol then some update.event else none
  | _ => none

namespace Session

variable {session : Session} {view : View}

/-- What a session published is its view. -/
def Publishes (result : Session × Effects) : Prop :=
  ∀ view ∈ result.2.published, result.1.view? = some view

theorem view?_spec (hView : session.view? = some view) :
    ∃ book, session.sync.state = .synced ∧ session.sync.book = some book ∧
      ∃ time, view = View.ofReplica book session.levels time := by
  unfold view? at hView
  split at hView
  · next book hState hBook => exact ⟨book, hState, hBook, _, (Option.some.inj hView).symm⟩
  · cases hView

theorem onEvent_spec (session : Session) (event : DiffEvent) :
    (session.onEvent event).2.1 = { session with sync := (session.sync.ingest event).2 } ∧
      Publishes (session.onEvent event).2 := by
  unfold onEvent
  split
  · next progress sync hIngest =>
    refine ⟨by rw [hIngest], ?_⟩
    intro view hView
    dsimp only at hView
    split at hView
    · simpa using hView
    · cases hView
  · next error sync hIngest =>
    refine ⟨by rw [hIngest], ?_⟩
    intro view hView
    cases hView

theorem onFrame_eq (session : Session) (frame : String) :
    (session.onFrame frame).2.1 = (session.onMessage (Market.decode frame)).2.1 ∧
      (session.onFrame frame).2.2.published =
        (session.onMessage (Market.decode frame)).2.2.published := by
  unfold onFrame
  generalize session.onMessage (Market.decode frame) = result
  obtain ⟨outcome, next, effects⟩ := result
  exact ⟨rfl, rfl⟩

/-- A frame is taken as an event of the symbol, or it changes nothing. -/
theorem onFrame_spec (session : Session) (frame : String) :
    Publishes (session.onFrame frame).2 ∧
      ((session.onFrame frame).2.1 = session ∨
        ∃ event, eventOf? session.symbol frame = some event ∧
          (session.onFrame frame).2.1 =
            { session with sync := (session.sync.ingest event).2 }) := by
  have hQuiet : Publishes (session, {}) := by
    intro view hView
    cases hView
  obtain ⟨hSession, hPublished⟩ := session.onFrame_eq frame
  rw [Publishes, hSession, hPublished]
  unfold onMessage
  split
  · next update hDecode =>
    split
    · next hSymbol =>
      obtain ⟨hNext, hPublishes⟩ := session.onEvent_spec update.event
      refine ⟨hPublishes, .inr ⟨update.event, ?_, hNext⟩⟩
      rw [eventOf?, hDecode]
      exact if_pos hSymbol
    · exact ⟨hQuiet, .inl rfl⟩
  · exact ⟨hQuiet, .inl rfl⟩
  · exact ⟨hQuiet, .inl rfl⟩

theorem onSnapshot_spec (session : Session) (snapshot : Snapshot) :
    (session.onSnapshot snapshot).2.1 =
        { session with sync := (session.sync.onSnapshot snapshot).2 } ∧
      Publishes (session.onSnapshot snapshot).2 := by
  unfold onSnapshot
  split
  · next state sync hSnapshot =>
    refine ⟨by rw [hSnapshot], ?_⟩
    intro view hView
    simpa using hView
  · next error sync hSnapshot =>
    refine ⟨by rw [hSnapshot], ?_⟩
    intro view hView
    cases hView

end Session

/-! ## Steps -/

/-- The input is the origin of a move of the synchronizer for a symbol. Any input may be the first
after the bridge timeout. -/
def Input.Brings (input : Input) (symbol : String) : Synchronizer.Move → Prop
  | .bridgeTimeout => True
  | .snapshot taken => input = .snapshot (.ok taken)
  | .ingest event => ∃ text, input = .feed (.frame text) ∧ eventOf? symbol text = some event
  | .begin | .reset => False

namespace Feed

/-- A step made these moves and published these views. -/
structure Took (feed next : Feed) (moves : List Synchronizer.Move) (news : List View) : Prop where
  sync : next.session.sync = feed.session.sync.run moves
  symbol : next.session.symbol = feed.session.symbol
  levels : next.session.levels = feed.session.levels
  published : next.published = feed.published ++ news

variable {feed next last : Feed} {moves more : List Synchronizer.Move} {news later : List View}

theorem Took.trans (hFirst : Took feed next moves news) (hSecond : Took next last more later) :
    Took feed last (moves ++ more) (news ++ later) where
  sync := by
    rw [hSecond.sync, hFirst.sync]
    exact (List.foldl_append (l := moves)).symm
  symbol := hSecond.symbol.trans hFirst.symbol
  levels := hSecond.levels.trans hFirst.levels
  published := by rw [hSecond.published, hFirst.published, List.append_assoc]

theorem took_nothing (hSession : next.session = feed.session)
    (hPublished : next.published = feed.published) : Took feed next [] [] :=
  ⟨hSession ▸ rfl, hSession ▸ rfl, hSession ▸ rfl, by rw [hPublished, List.append_nil]⟩

@[simp] theorem session_proceed (feed : Feed) (attempts : Nat) :
    (feed.proceed attempts).session = feed.session := by
  unfold proceed
  split
  · rfl
  · split <;> rfl

@[simp] theorem published_proceed (feed : Feed) (attempts : Nat) :
    (feed.proceed attempts).published = feed.published := by
  unfold proceed
  split
  · rfl
  · split <;> rfl

theorem checkBridge_spec (feed : Feed) :
    ∃ moves, Took feed feed.checkBridge moves [] ∧ ∀ move ∈ moves, move = .bridgeTimeout := by
  unfold checkBridge
  split
  · split
    · refine ⟨[.bridgeTimeout], ⟨?_, ?_, ?_, ?_⟩, by simp⟩
      · rw [session_proceed]
        rfl
      · rw [session_proceed]
        rfl
      · rw [session_proceed]
        rfl
      · rw [published_proceed]
        rfl
    · exact ⟨[], took_nothing rfl rfl, by simp⟩
  · exact ⟨[], took_nothing rfl rfl, by simp⟩

theorem onFrame_session (feed : Feed) (text : String) :
    (feed.onFrame text).session = (feed.session.onFrame text).2.1 ∧
      (feed.onFrame text).published =
        feed.published ++ (feed.session.onFrame text).2.2.published := by
  unfold onFrame
  generalize feed.session.onFrame text = result
  obtain ⟨outcome, session, effects⟩ := result
  dsimp only
  split
  · exact ⟨rfl, rfl⟩
  · split
    · exact ⟨rfl, rfl⟩
    · rw [session_proceed, published_proceed]
      exact ⟨rfl, rfl⟩
  · exact ⟨rfl, rfl⟩

theorem onSnapshot_session (feed : Feed) (attempt : Nat) (snapshot : Snapshot) :
    (feed.onSnapshot attempt snapshot).session = (feed.session.onSnapshot snapshot).2.1 ∧
      (feed.onSnapshot attempt snapshot).published =
        feed.published ++ (feed.session.onSnapshot snapshot).2.2.published := by
  unfold onSnapshot
  generalize feed.session.onSnapshot snapshot = result
  obtain ⟨outcome, session, effects⟩ := result
  dsimp only
  split
  · split
    · rw [session_proceed, published_proceed]
      exact ⟨rfl, rfl⟩
    · exact ⟨rfl, rfl⟩
  · exact ⟨rfl, rfl⟩
  · rw [session_proceed, published_proceed]
    exact ⟨rfl, rfl⟩

/-- What a step of a feed did with an input. -/
def Took.Explained (feed next : Feed) (input : Input) : Prop :=
  ∃ moves news, Took feed next moves news ∧ (∀ view ∈ news, next.session.view? = some view) ∧
    ∀ move ∈ moves, input.Brings feed.session.symbol move

theorem explained_of_nothing (input : Input) (hSession : next.session = feed.session)
    (hPublished : next.published = feed.published) : Took.Explained feed next input :=
  ⟨[], [], took_nothing hSession hPublished, by simp, by simp⟩

theorem explained_onSnapshot (feed : Feed) (attempt : Nat) (snapshot : Snapshot) :
    Took.Explained feed (feed.onSnapshot attempt snapshot) (.snapshot (.ok snapshot)) := by
  obtain ⟨hSession, hPublished⟩ := feed.onSnapshot_session attempt snapshot
  obtain ⟨hNext, hViews⟩ := feed.session.onSnapshot_spec snapshot
  refine ⟨[.snapshot snapshot], _, ⟨?_, ?_, ?_, hPublished⟩, ?_, ?_⟩
  · rw [hSession, hNext]
    rfl
  · rw [hSession, hNext]
  · rw [hSession, hNext]
  · rw [hSession]
    exact hViews
  · intro move hMove
    rw [List.mem_singleton.mp hMove]
    exact rfl

theorem explained_onFrame (feed : Feed) (text : String) :
    Took.Explained feed (feed.onFrame text) (.feed (.frame text)) := by
  obtain ⟨hSession, hPublished⟩ := feed.onFrame_session text
  obtain ⟨hViews, hSame | ⟨event, hEvent, hNext⟩⟩ := feed.session.onFrame_spec text
  · refine ⟨[], _, ⟨?_, ?_, ?_, hPublished⟩, ?_, by simp⟩
    · rw [hSession, hSame]
      rfl
    · rw [hSession, hSame]
    · rw [hSession, hSame]
    · rw [hSession]
      exact hViews
  · refine ⟨[.ingest event], _, ⟨?_, ?_, ?_, hPublished⟩, ?_, ?_⟩
    · rw [hSession, hNext]
      rfl
    · rw [hSession, hNext]
    · rw [hSession, hNext]
    · rw [hSession]
      exact hViews
    · intro move hMove
      rw [List.mem_singleton.mp hMove]
      exact ⟨text, rfl, hEvent⟩

/-- A bridge timeout that is over may come first. -/
theorem explained_after_checkBridge {input : Input} {feed : Feed}
    (hNext : Took.Explained feed.checkBridge next input) : Took.Explained feed next input := by
  obtain ⟨before, hBefore, hTimeouts⟩ := feed.checkBridge_spec
  obtain ⟨moves, news, hTook, hViews, hMoves⟩ := hNext
  refine ⟨before ++ moves, news, hBefore.trans hTook, hViews, ?_⟩
  intro move hMove
  rcases List.mem_append.mp hMove with hMove | hMove
  · rw [hTimeouts move hMove]
    trivial
  · exact hBefore.symbol ▸ hMoves move hMove

theorem step_spec (feed : Feed) (input : Input) : Took.Explained feed (feed.step input) input := by
  unfold step
  split
  · next now =>
    obtain ⟨moves, hTook, hTimeouts⟩ := ({ feed with now := max feed.now now } : Feed).checkBridge_spec
    refine ⟨moves, [], ⟨hTook.sync, hTook.symbol, hTook.levels, hTook.published⟩, by simp, ?_⟩
    intro move hMove
    rw [hTimeouts move hMove]
    trivial
  · split
    · exact explained_onSnapshot feed _ _
    · exact explained_of_nothing _ rfl rfl
    · exact explained_of_nothing _ rfl rfl
  · split <;> exact explained_of_nothing _ rfl rfl
  · refine explained_after_checkBridge ?_
    dsimp only
    split <;> exact explained_of_nothing _ rfl rfl
  · refine explained_after_checkBridge ?_
    dsimp only
    split
    · exact explained_of_nothing _ rfl rfl
    · exact explained_onFrame _ _

/-! ## Runs -/

/-- The feed after a list of inputs. -/
def run (config : DepthConfig) (key : RoomKey) (connect : Except TransportError Unit)
    (inputs : List Input) : Feed :=
  inputs.foldl step (start config key connect)

end Feed

/-- What the exchange sends with the input is true to the history: an event of the symbol, or a
snapshot of the best levels. -/
def Input.Genuine (h : History) (symbol : String) (limit : Nat) : Input → Prop
  | .feed (.frame text) => ∀ event, eventOf? symbol text = some event → h.Emits event
  | .snapshot (.ok taken) => h.ShowsBest limit taken
  | _ => True

/-- The snapshot came with one of the inputs. -/
def Fetched (inputs : List Input) (taken : Snapshot) : Prop :=
  .snapshot (.ok taken) ∈ inputs

/-- The event of the symbol came with one of the inputs. -/
def Arrived (symbol : String) (inputs : List Input) (event : DiffEvent) : Prop :=
  ∃ text, .feed (.frame text) ∈ inputs ∧ eventOf? symbol text = some event

namespace Feed

variable {h : History} {limit : Nat} {symbol : String} {input : Input} {feed : Feed}
  {key : RoomKey} {all inputs : List Input}

theorem emits_of_arrived (hGenuine : ∀ input ∈ all, input.Genuine h symbol limit)
    (event : DiffEvent) (hArrived : Arrived symbol all event) : h.Emits event := by
  obtain ⟨text, hMem, hEvent⟩ := hArrived
  exact hGenuine _ hMem event hEvent

theorem allowed_of_brings {move : Synchronizer.Move} (hMem : input ∈ all)
    (hBrings : input.Brings symbol move) :
    move.Allowed (Arrived symbol all) (h.Grown (Fetched all) (Arrived symbol all)) := by
  cases move with
  | begin => exact hBrings.elim
  | reset => exact hBrings.elim
  | bridgeTimeout => trivial
  | snapshot taken =>
    obtain rfl : input = .snapshot (.ok taken) := hBrings
    exact fun name => ⟨taken, [], hMem, nofun, .taken name⟩
  | ingest event =>
    obtain ⟨text, rfl, hEvent⟩ := hBrings
    exact ⟨text, hMem, hEvent⟩

/-- A feed for a room whose replica comes from a snapshot and events that all these inputs
brought. -/
structure Faithful (h : History) (key : RoomKey) (all : List Input) (feed : Feed) : Prop where
  sync : feed.session.sync.Carries (Arrived key.symbol all)
    (h.Grown (Fetched all) (Arrived key.symbol all))
  symbol : feed.session.symbol = key.symbol
  levels : feed.session.levels = key.levels.getD defaultBookLevels

theorem session_start (config : DepthConfig) (key : RoomKey)
    (connect : Except TransportError Unit) :
    (start config key connect).session =
      .start key.symbol (key.levels.getD defaultBookLevels) config.bufferCapacity := by
  cases connect with
  | error error => rfl
  | ok opened => exact session_proceed _ 0

theorem faithful_start (config : DepthConfig) (key : RoomKey)
    (connect : Except TransportError Unit) : (start config key connect).Faithful h key all := by
  refine ⟨?_, ?_, ?_⟩
  · rw [session_start]
    exact Synchronizer.carries_begin _
  · rw [session_start]
    rfl
  · rw [session_start]
    rfl

theorem Faithful.step (hFeed : feed.Faithful h key all) (hMem : input ∈ all)
    (hGenuine : ∀ input ∈ all, input.Genuine h key.symbol limit) :
    (feed.step input).Faithful h key all := by
  obtain ⟨moves, news, hTook, -, hMoves⟩ := feed.step_spec input
  refine ⟨?_, hTook.symbol.trans hFeed.symbol, hTook.levels.trans hFeed.levels⟩
  rw [hTook.sync]
  refine Synchronizer.carries_run (History.extends_grown (emits_of_arrived hGenuine)) hFeed.sync ?_
  intro move hMove
  exact allowed_of_brings hMem (hFeed.symbol ▸ hMoves move hMove)

theorem faithful_run (config : DepthConfig) (connect : Except TransportError Unit)
    (hInputs : inputs ⊆ all) (hGenuine : ∀ input ∈ all, input.Genuine h key.symbol limit) :
    (run config key connect inputs).Faithful h key all := by
  induction inputs using List.reverseRecOn with
  | nil => exact faithful_start config key connect
  | append_singleton inputs input ih =>
    obtain ⟨hBefore, hNow⟩ := List.append_subset.mp hInputs
    rw [run, List.foldl_append]
    exact (ih hBefore).step (hNow (List.mem_singleton.mpr rfl)) hGenuine

end Feed

/-! ## Views -/

/-- The levels of one side of a view. -/
def sideOf (view : View) : Side → List Level
  | .bid => view.bids
  | .ask => view.asks

/-- What a view of the best `n` levels shows of the true book after the cursor of a replica. -/
structure ShowsKnown (h : History) (n limit : Nat) (snapshot : Snapshot) (events : List DiffEvent)
    (cursor : Nat) (view : View) : Prop where
  /-- The best of the levels that are not hidden, and nothing else. -/
  known : ∀ side, h.Quotes side cursor (sideOf view side)
    ((h.knownRanking limit snapshot events side cursor).take n)
  /-- These are the true best levels exactly if no hidden one is among those. -/
  true_iff : ∀ side,
    h.Quotes side cursor (sideOf view side) ((h.ranking side cursor).take n) ↔
      ∀ p ∈ (h.ranking side cursor).take n, ¬ h.Hidden limit snapshot events side p
  /-- They are while at most `limit - n` levels of the snapshot have been taken out. -/
  true_of_few_removed : ∀ side,
    (((h.ranking side snapshot.lastUpdateId.toNat).take limit).filter
      fun p => h.quantity side cursor p = 0).length + n ≤ limit →
      h.Quotes side cursor (sideOf view side) ((h.ranking side cursor).take n)

theorem showsKnown_ofReplica {h : History} {limit : Nat} {snapshot : Snapshot}
    {events : List DiffEvent} {book : Replica} (hShows : h.ShowsBest limit snapshot)
    (hGrows : h.Grows snapshot events book) (n : Nat) (time : Int64) :
    ShowsKnown h n limit snapshot events book.lastUpdateId.toNat (View.ofReplica book n time) := by
  have hSide (side : Side) : sideOf (View.ofReplica book n time) side = book.best n side := by
    cases side <;> rfl
  refine ⟨?_, ?_, ?_⟩
  · intro side
    rw [hSide]
    exact hGrows.quotes_best hShows n side
  · intro side
    rw [hSide]
    exact hGrows.quotes_true_best_iff hShows n side
  · intro side hFew
    rw [hSide]
    exact (hGrows.quotes_true_best_iff hShows n side).mpr (History.not_hidden_of_few_removed hFew)

/-- **Every view shows the best levels that are known.** The exchange answers with the best levels
of a true book and sends a true stream, which may be cut, doubled or out of order. Each view that a
step publishes is the top of the replica, which comes from one of the snapshots that were fetched
and the events that were heard and applied to it, and shows the best levels at its cursor but for
those that are hidden. -/
theorem published_best_of_known (h : History) (config : DepthConfig) (key : RoomKey)
    (connect : Except TransportError Unit) (inputs : List Input) (input : Input)
    (hGenuine : ∀ i ∈ inputs ++ [input],
      i.Genuine h key.symbol (Rest.snapshotLimit (key.levels.getD defaultBookLevels))) :
    ∃ news, (Feed.run config key connect (inputs ++ [input])).published =
        (Feed.run config key connect inputs).published ++ news ∧
      ∀ view ∈ news, ∃ book snapshot events,
        (Feed.run config key connect (inputs ++ [input])).session.sync.book = some book ∧
        Fetched (inputs ++ [input]) snapshot ∧
        (∀ event ∈ events, Arrived key.symbol (inputs ++ [input]) event) ∧
        h.ShowsBest (Rest.snapshotLimit (key.levels.getD defaultBookLevels)) snapshot ∧
        h.Grows snapshot events book ∧
        ShowsKnown h (key.levels.getD defaultBookLevels)
          (Rest.snapshotLimit (key.levels.getD defaultBookLevels)) snapshot events
          book.lastUpdateId.toNat view := by
  have hStep : Feed.run config key connect (inputs ++ [input]) =
      (Feed.run config key connect inputs).step input := by
    simp only [Feed.run, List.foldl_append, List.foldl_cons, List.foldl_nil]
  obtain ⟨moves, news, hTook, hViews, -⟩ := (Feed.run config key connect inputs).step_spec input
  have hFeed := Feed.faithful_run config connect (List.Subset.refl _) hGenuine
  rw [hStep] at hFeed ⊢
  refine ⟨news, hTook.published, ?_⟩
  intro view hView
  obtain ⟨book, -, hBook, time, rfl⟩ := Session.view?_spec (hViews view hView)
  obtain ⟨snapshot, events, hFetched, hArrived, hGrows⟩ := hFeed.sync.replica book hBook
  have hShows := hGenuine _ hFetched
  rw [hFeed.levels]
  exact ⟨book, snapshot, events, hBook, hFetched, hArrived, hShows, hGrows,
    showsKnown_ofReplica hShows hGrows _ time⟩

/-! ## A level that stays hidden -/

/-- Six bids, of which the best one is taken out. -/
def sixBids : History :=
  .ofList [Change.whole? .bid 100 1, Change.whole? .bid 101 1, Change.whole? .bid 102 1,
    Change.whole? .bid 103 1, Change.whole? .bid 104 1, Change.whole? .bid 105 1,
    Change.whole? .bid 105 0]

/-- The best five of them. -/
def fiveBids : Snapshot :=
  ⟨6, [⟨"105", "1"⟩, ⟨"104", "1"⟩, ⟨"103", "1"⟩, ⟨"102", "1"⟩, ⟨"101", "1"⟩], []⟩

/-- The frame in which the best bid goes. -/
def removal : String :=
  "\x7b\"e\":\"depthUpdate\",\"E\":10,\"s\":\"BTCUSDT\",\"U\":7,\"u\":7,\"pu\":6," ++
    "\"b\":[[\"105\",\"0\"]],\"a\":[]\x7d"

def fiveLevels : RoomKey := ⟨"BTCUSDT", some 5⟩

def depthConfig : DepthConfig := ⟨100, .ofSecs 5, 3, 100⟩

theorem fiveBids_best : sixBids.ShowsBest 5 fiveBids := by
  have hBid (price : List Char) {p : Nat} {q : ℚ} (hq : q = 1)
      (hPrice : price ≠ [] ∧ Text.digitsValue? 0 price = some p ∧ p < Decimal.mantissaLimit) :
      Level.Quotes ⟨String.ofList price, "1"⟩ p q :=
    Level.quotes_whole price ['1'] p 1 hPrice (by decide) (by simpa using hq)
  rintro (_ | _)
  · have hBest : (sixBids.ranking .bid 6).take 5 = [105, 104, 103, 102, 101] := by
      have hRanking : sixBids.ranking .bid 6 = [105, 104, 103, 102, 101, 100] :=
        History.ranking_eq (by decide +kernel) (by decide +kernel)
      rw [hRanking]
      rfl
    show Ladder.Lists _ (· ∈ (sixBids.ranking .bid 6).take 5) _
    rw [hBest]
    exact Ladder.lists_of_quotes
      (.cons (hBid ['1', '0', '5'] (by decide +kernel) (by decide))
        (.cons (hBid ['1', '0', '4'] (by decide +kernel) (by decide))
          (.cons (hBid ['1', '0', '3'] (by decide +kernel) (by decide))
            (.cons (hBid ['1', '0', '2'] (by decide +kernel) (by decide))
              (.cons (hBid ['1', '0', '1'] (by decide +kernel) (by decide)) .nil)))))
  · have hBest : sixBids.ranking .ask 6 = [] :=
      History.ranking_eq (by decide +kernel) (by decide +kernel)
    show Ladder.Lists _ (· ∈ (sixBids.ranking .ask 6).take 5) _
    rw [hBest]
    exact Ladder.lists_of_quotes .nil

theorem removal_genuine : ∀ input ∈ [.snapshot (.ok fiveBids)] ++ [.feed (.frame removal)],
    Input.Genuine sixBids "BTCUSDT" 5 input := by
  have hEvent : eventOf? "BTCUSDT" removal = some ⟨7, 7, 6, 10, [⟨"105", "0"⟩], []⟩ := by
    decide +kernel
  simp only [List.cons_append, List.nil_append, List.forall_mem_cons, List.not_mem_nil,
    IsEmpty.forall_iff, implies_true, and_true]
  refine ⟨fiveBids_best, ?_⟩
  intro event hOf
  obtain rfl := Option.some.inj (hOf.symm.trans hEvent)
  refine ⟨by decide, by decide, ?_⟩
  rintro (_ | _)
  · have hGone : Level.Quotes ⟨"105", "0"⟩ 105 (sixBids.quantity .bid 7 105) :=
      Level.quotes_whole ['1', '0', '5'] ['0'] 105 0 (by decide) (by decide) (by decide +kernel)
    exact History.lists_changed [105] (by decide +kernel) (.cons hGone .nil)
  · exact History.lists_changed [] (by decide +kernel) .nil

/-- The bid at 100 was left out of the snapshot, and no frame mentions it: after the best bid has
gone, the view has four bids although the book has five. -/
theorem view_lacks_hidden_bid :
    (∀ input ∈ [.snapshot (.ok fiveBids)] ++ [.feed (.frame removal)],
      Input.Genuine sixBids "BTCUSDT" (Rest.snapshotLimit 5) input) ∧
    (sixBids.ranking .bid 7).take 5 = [104, 103, 102, 101, 100] ∧
    ∃ view ∈ (Feed.run depthConfig fiveLevels (.ok ())
        ([.snapshot (.ok fiveBids)] ++ [.feed (.frame removal)])).published,
      view.bids.map (·.price) = ["104", "103", "102", "101"] ∧
      ¬ sixBids.Quotes .bid 7 view.bids ((sixBids.ranking .bid 7).take 5) := by
  have hRanking : sixBids.ranking .bid 7 = [104, 103, 102, 101, 100] :=
    History.ranking_eq (by decide +kernel) (by decide +kernel)
  have hPublished : (Feed.run depthConfig fiveLevels (.ok ())
      ([.snapshot (.ok fiveBids)] ++ [.feed (.frame removal)])).published =
        [⟨"BTCUSDT", 10, [⟨"104", "1"⟩, ⟨"103", "1"⟩, ⟨"102", "1"⟩, ⟨"101", "1"⟩], []⟩] := by
    decide +kernel
  refine ⟨removal_genuine, by rw [hRanking]; rfl, _, hPublished ▸ List.mem_singleton.mpr rfl, rfl, ?_⟩
  intro hQuotes
  have hLength := hQuotes.length_eq
  rw [hRanking] at hLength
  simp at hLength

theorem published_best_of_known_after_removal :
    (∀ input ∈ [.snapshot (.ok fiveBids)] ++ [.feed (.frame removal)],
      Input.Genuine sixBids "BTCUSDT" (Rest.snapshotLimit 5) input) ∧
    ∃ news, (Feed.run depthConfig fiveLevels (.ok ())
          ([.snapshot (.ok fiveBids)] ++ [.feed (.frame removal)])).published =
        (Feed.run depthConfig fiveLevels (.ok ()) [.snapshot (.ok fiveBids)]).published ++ news ∧
      ∀ view ∈ news, ∃ book snapshot events,
        (Feed.run depthConfig fiveLevels (.ok ())
          ([.snapshot (.ok fiveBids)] ++ [.feed (.frame removal)])).session.sync.book = some book ∧
        Fetched ([.snapshot (.ok fiveBids)] ++ [.feed (.frame removal)]) snapshot ∧
        (∀ event ∈ events, Arrived "BTCUSDT"
          ([.snapshot (.ok fiveBids)] ++ [.feed (.frame removal)]) event) ∧
        sixBids.ShowsBest (Rest.snapshotLimit 5) snapshot ∧
        sixBids.Grows snapshot events book ∧
        ShowsKnown sixBids 5 (Rest.snapshotLimit 5) snapshot events book.lastUpdateId.toNat view :=
  ⟨removal_genuine, published_best_of_known sixBids depthConfig fiveLevels (.ok ())
    [.snapshot (.ok fiveBids)] (.feed (.frame removal)) removal_genuine⟩

end MarketGateway.Depth
