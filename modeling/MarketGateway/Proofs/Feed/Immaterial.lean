import MarketGateway.Depth.Session
import MarketGateway.Market.PriceFeed

/-!
# Frames that make no difference

A frame is immaterial to a feed for a symbol if it cannot be read, or holds an acknowledgement, an
event that no feed takes, an event for the other feed or one of another symbol (`Immaterial`). A run
over some inputs and one without some that are immaterial (`Thins`) go the same way, except for the
number of messages that are counted (`immaterial_frames_invisible`).

A state is seen through a function that leaves out the count. The step commutes with it, and an
immaterial frame leaves what is seen as it is, so the two runs are seen alike by induction on what
was left out (`view_foldl_of_thins`).
-/

namespace MarketGateway

/-! ## Runs without some inputs -/

/-- The second list is the first one without some inputs that are idle. -/
inductive Thins {α : Type} (Idle : α → Prop) : List α → List α → Prop
  | nil : Thins Idle [] []
  | keep (input : α) {inputs kept : List α} (rest : Thins Idle inputs kept) :
      Thins Idle (input :: inputs) (input :: kept)
  | drop {input : α} (hIdle : Idle input) {inputs kept : List α} (rest : Thins Idle inputs kept) :
      Thins Idle (input :: inputs) kept

/-- All inputs that are idle may be left out at once. -/
theorem thins_filter {α : Type} {Idle : α → Prop} [DecidablePred Idle] (inputs : List α) :
    Thins Idle inputs (inputs.filter fun input => ¬ Idle input) := by
  induction inputs with
  | nil => exact .nil
  | cons input rest ih =>
    by_cases hIdle : Idle input
    · rw [List.filter_cons_of_neg (by simpa using hIdle)]
      exact .drop hIdle ih
    · rw [List.filter_cons_of_pos (by simpa using hIdle)]
      exact .keep input ih

section Runs

variable {σ α : Type} {step : σ → α → σ} {view : σ → σ} {Idle : α → Prop}

/-- By induction on what was left out. An idle input leaves the view as it is, and any other one
does to both states what it does to their view. -/
theorem view_foldl_of_thins (Own : σ → Prop)
    (hOwn : ∀ state input, Own state → Own (step state input))
    (hView : ∀ state input, view (step (view state) input) = view (step state input))
    (hIdle : ∀ state input, Own state → Idle input → view (step state input) = view state)
    {inputs kept : List α} (hThins : Thins Idle inputs kept) {state other : σ} (hState : Own state)
    (hSame : view state = view other) :
    view (inputs.foldl step state) = view (kept.foldl step other) := by
  induction hThins generalizing state other with
  | nil => exact hSame
  | keep input rest ih =>
    refine ih (hOwn state input hState) ?_
    calc view (step state input) = view (step (view state) input) := (hView state input).symm
      _ = view (step (view other) input) := by rw [hSame]
      _ = view (step other input) := hView other input
  | drop hInput rest ih =>
    exact ih (hOwn state _ hState) ((hIdle state _ hState hInput).trans hSame)

end Runs

/-! ## Immaterial frames -/

namespace Market

/-- What is read from a frame does not concern a feed of the kind for the symbol. -/
def Immaterial (kind : FeedKind) (symbol : String) : Except DecodeError Message → Prop
  | .error _ => True
  | .ok (.ack _) => True
  | .ok (.other _) => True
  | .ok (.depth update) =>
    kind ≠ .depth ∨ Text.equalIgnoringCase update.symbol symbol = false
  | .ok (.markPrice update) =>
    kind ≠ .markPrice ∨ Text.equalIgnoringCase update.symbol symbol = false
  | .ok (.error _) => False

instance (kind : FeedKind) (symbol : String) (answer : Except DecodeError Message) :
    Decidable (Immaterial kind symbol answer) :=
  match answer with
  | .error _ => inferInstanceAs (Decidable True)
  | .ok (.ack _) => inferInstanceAs (Decidable True)
  | .ok (.other _) => inferInstanceAs (Decidable True)
  | .ok (.depth _) => inferInstanceAs (Decidable (_ ∨ _))
  | .ok (.markPrice _) => inferInstanceAs (Decidable (_ ∨ _))
  | .ok (.error _) => inferInstanceAs (Decidable False)

end Market

open Market (Immaterial)

/-! ## Depth sessions -/

namespace Depth

open Book

/-- A depth session that takes frames, with what it published and counted and how it ended. -/
structure Hearing where
  session : Session
  published : List View := []
  metrics : List Metric := []
  failure : Option FeedError := none

namespace Hearing

variable {hearing : Hearing}

/-- Takes a frame, unless the session has ended. -/
def step (hearing : Hearing) (frame : String) : Hearing :=
  match hearing.failure with
  | some _ => hearing
  | none =>
    let (outcome, session, effects) := hearing.session.onFrame frame
    { session := session
      published := hearing.published ++ effects.published
      metrics := hearing.metrics ++ effects.metrics
      failure := match outcome with
        | .ok () => none
        | .error error => some error }

/-- Everything but the number of messages. -/
def unmetered (hearing : Hearing) : Hearing :=
  { hearing with metrics := hearing.metrics.filter (· ≠ .feedMessage .depth) }

theorem symbol_step (hearing : Hearing) (frame : String) :
    (hearing.step frame).session.symbol = hearing.session.symbol := by
  unfold step
  split
  · rfl
  · unfold Session.onFrame Session.onMessage
    dsimp only
    split
    · split
      · unfold Session.onEvent
        split <;> rfl
      · rfl
    · rfl
    · rfl

theorem unmetered_step_unmetered (hearing : Hearing) (frame : String) :
    (hearing.unmetered.step frame).unmetered = (hearing.step frame).unmetered := by
  unfold step
  cases hFailure : hearing.failure with
  | some error => simp [unmetered, hFailure]
  | none => simp [unmetered, hFailure]

theorem onMessage_of_immaterial (session : Session)
    {answer : Except Market.DecodeError Market.Message}
    (hImmaterial : Immaterial .depth session.symbol answer) :
    session.onMessage answer = (.ok (), session, {}) := by
  unfold Immaterial at hImmaterial
  split at hImmaterial
  · rfl
  · rfl
  · rfl
  · next update =>
    have hOther : Text.equalIgnoringCase update.symbol session.symbol = false := by
      simpa using hImmaterial
    simp [Session.onMessage, hOther]
  · rfl
  · exact hImmaterial.elim

theorem unmetered_step_of_immaterial {symbol frame : String}
    (hOwn : hearing.session.symbol = symbol)
    (hImmaterial : Immaterial .depth symbol (Market.decode frame)) :
    (hearing.step frame).unmetered = hearing.unmetered := by
  subst hOwn
  unfold step
  split
  · rfl
  · next hOpen =>
    simp only [Session.onFrame]
    generalize Market.decode frame = answer at hImmaterial ⊢
    simp [onMessage_of_immaterial _ hImmaterial, unmetered, hOpen]

end Hearing

end Depth

/-! ## Mark price feeds -/

namespace Market.PriceFeed

variable {feed : PriceFeed}

/-- Everything but the number of messages. -/
def unmetered (feed : PriceFeed) : PriceFeed :=
  { feed with metrics := feed.metrics.filter (· ≠ .feedMessage .markPrice) }

/-- The input is a frame that does not concern a feed for the symbol. -/
def Idle (symbol : String) : FeedInput → Prop
  | .frame text => Immaterial .markPrice symbol (decode text)
  | .lost _ => False
  | .cancelled => False

instance (symbol : String) (input : FeedInput) : Decidable (Idle symbol input) :=
  match input with
  | .frame text => inferInstanceAs (Decidable (Immaterial .markPrice symbol (decode text)))
  | .lost _ => inferInstanceAs (Decidable False)
  | .cancelled => inferInstanceAs (Decidable False)

theorem onMessage_of_immaterial {answer : Except DecodeError Message}
    (hImmaterial : Immaterial .markPrice feed.symbol answer) : feed.onMessage answer = feed := by
  unfold Immaterial at hImmaterial
  split at hImmaterial
  · rfl
  · rfl
  · rfl
  · rfl
  · next update =>
    have hOther : Text.equalIgnoringCase update.symbol feed.symbol = false := by
      simpa using hImmaterial
    simp [onMessage, hOther]
  · exact hImmaterial.elim

theorem symbol_onMessage (feed : PriceFeed) (answer : Except DecodeError Message) :
    (feed.onMessage answer).symbol = feed.symbol := by
  unfold onMessage
  split
  · split <;> rfl
  · rfl
  · rfl

theorem symbol_step (feed : PriceFeed) (input : FeedInput) :
    (feed.step input).symbol = feed.symbol := by
  unfold step
  split
  · rfl
  · split
    · rw [symbol_onMessage]
    · rfl
    · rfl

/-- What is counted does not matter to what a message does. -/
theorem onMessage_with_metrics (feed : PriceFeed) (metrics : List Metric)
    (answer : Except DecodeError Message) :
    { feed with metrics := metrics }.onMessage answer =
      { feed.onMessage answer with metrics := metrics } := by
  unfold onMessage
  split
  · split <;> rfl
  · rfl
  · rfl

theorem unmetered_step_unmetered (feed : PriceFeed) (input : FeedInput) :
    (feed.unmetered.step input).unmetered = (feed.step input).unmetered := by
  by_cases hOver : feed.outcome.isSome = true
  · simp [step, unmetered, hOver]
  · cases input with
    | frame text => simp [step, unmetered, hOver, onMessage_with_metrics]
    | lost error => simp [step, unmetered, hOver]
    | cancelled => simp [step, unmetered, hOver]

theorem unmetered_step_of_idle {symbol : String} {input : FeedInput}
    (hOwn : feed.symbol = symbol) (hIdle : Idle symbol input) :
    (feed.step input).unmetered = feed.unmetered := by
  subst hOwn
  unfold step
  split
  · rfl
  · cases input with
    | frame text =>
      simp only [Idle] at hIdle
      dsimp only
      generalize decode text = answer at hIdle ⊢
      simp [onMessage_with_metrics, onMessage_of_immaterial hIdle, unmetered]
    | lost error => exact hIdle.elim
    | cancelled => exact hIdle.elim

end Market.PriceFeed

/-! ## Invisibility -/

/-- **Immaterial frames are invisible.** Whatever state a depth session is in, and whatever a mark
price feed was told, leaving out frames that cannot be read, hold an acknowledgement or an event of
no interest, or concern the other feed or another symbol, makes no difference to what is published,
to the state that it ends in and to the failure that ends it, nor to what is counted but the
messages themselves. -/
theorem immaterial_frames_invisible :
    (∀ (hearing : Depth.Hearing) (frames kept : List String),
      Thins (fun frame => Immaterial .depth hearing.session.symbol (Market.decode frame))
          frames kept →
        (frames.foldl Depth.Hearing.step hearing).unmetered =
          (kept.foldl Depth.Hearing.step hearing).unmetered) ∧
    ∀ (feed : Market.PriceFeed) (inputs kept : List FeedInput),
      Thins (Market.PriceFeed.Idle feed.symbol) inputs kept →
        (inputs.foldl Market.PriceFeed.step feed).unmetered =
          (kept.foldl Market.PriceFeed.step feed).unmetered := by
  constructor
  · intro hearing frames kept hThins
    refine view_foldl_of_thins (fun state => state.session.symbol = hearing.session.symbol) ?_
      Depth.Hearing.unmetered_step_unmetered ?_ hThins rfl rfl
    · intro state frame hOwn
      rw [Depth.Hearing.symbol_step, hOwn]
    · intro state frame hOwn
      exact Depth.Hearing.unmetered_step_of_immaterial hOwn
  · intro feed inputs kept hThins
    refine view_foldl_of_thins (fun state => state.symbol = feed.symbol) ?_
      Market.PriceFeed.unmetered_step_unmetered ?_ hThins rfl rfl
    · intro state input hOwn
      rw [Market.PriceFeed.symbol_step, hOwn]
    · intro state input hOwn
      exact Market.PriceFeed.unmetered_step_of_idle hOwn

/-- An event of a symbol. -/
def eventFrame (symbol : String) : String :=
  "\x7b\"e\":\"depthUpdate\",\"E\":10,\"s\":\"" ++ symbol ++
    "\",\"U\":7,\"u\":7,\"pu\":6,\"b\":[],\"a\":[]\x7d"

/-- The price of a symbol. -/
def priceFrame (symbol : String) : String :=
  "\x7b\"e\":\"markPriceUpdate\",\"E\":10,\"s\":\"" ++ symbol ++ "\",\"p\":\"1\"\x7d"

/-- Frames that concern no feed, and one for each feed and each of two symbols. -/
def strayFrames : List String :=
  ["no frame", "\x7b\"result\":null,\"id\":1\x7d", "\x7b\"e\":\"aggTrade\"\x7d",
    priceFrame "ETHUSDT", priceFrame "btcusdt", eventFrame "ETHUSDT", eventFrame "btcusdt"]

/-- A session with room for one event. -/
def narrowHearing : Depth.Hearing := ⟨.start "BTCUSDT" 5 1, [], [], none⟩

/-- A feed that waits for prices. -/
def openPriceFeed : Market.PriceFeed := ⟨"BTCUSDT", true, none, [], none, []⟩

/-- Two of the frames that come to the session are its own, of which the second one is one too
many. Of those that come to the price feed, it takes one. -/
theorem immaterial_frames_invisible_of_strayFrames :
    ((strayFrames ++ strayFrames).foldl Depth.Hearing.step narrowHearing).unmetered =
      ([eventFrame "btcusdt", eventFrame "btcusdt"].foldl Depth.Hearing.step
        narrowHearing).unmetered ∧
    ([eventFrame "btcusdt", eventFrame "btcusdt"].foldl Depth.Hearing.step narrowHearing).failure =
      some (.desync (.bufferOverflow 1)) ∧
    ((strayFrames.map FeedInput.frame).foldl Market.PriceFeed.step openPriceFeed).unmetered =
      ([.frame (priceFrame "btcusdt")].foldl Market.PriceFeed.step openPriceFeed).unmetered := by
  have hHeard : Thins (fun frame => Immaterial .depth "BTCUSDT" (Market.decode frame))
      (strayFrames ++ strayFrames) [eventFrame "btcusdt", eventFrame "btcusdt"] := by
    have hKept : (strayFrames ++ strayFrames).filter
        (fun frame => ¬ Immaterial .depth "BTCUSDT" (Market.decode frame)) =
          [eventFrame "btcusdt", eventFrame "btcusdt"] := by
      decide +kernel
    exact hKept ▸ thins_filter _
  have hTaken : Thins (Market.PriceFeed.Idle "BTCUSDT") (strayFrames.map .frame)
      [.frame (priceFrame "btcusdt")] := by
    have hKept : (strayFrames.map FeedInput.frame).filter
        (fun input => ¬ Market.PriceFeed.Idle "BTCUSDT" input) =
          [.frame (priceFrame "btcusdt")] := by
      decide +kernel
    exact hKept ▸ thins_filter _
  exact ⟨immaterial_frames_invisible.1 narrowHearing _ _ hHeard, by decide +kernel,
    immaterial_frames_invisible.2 openPriceFeed _ _ hTaken⟩

end MarketGateway
