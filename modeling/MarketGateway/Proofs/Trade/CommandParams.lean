import MarketGateway.Proofs.Trade.FinalTexts
import MarketGateway.Proofs.Wire.Commands
import MarketGateway.Trade.Request

/-!
# Commands told apart by their parameters

The parameters of a command are settings with a name of its own for each field
(`TradeCommand.settings`). A value is rendered as a value of the same type exactly if it is the same
(`ParamValue.render_text_eq_iff` and its companions), so the texts under the names determine the
fields (`same_of_texts`). What has to be ruled out is a part that may be left out, or a reference to
an order, that is there but counts as absent (`TradeCommand.Explicit`).
-/

namespace MarketGateway.Trade

/-! ## Texts and values -/

namespace ParamValue

theorem render_text_eq_iff {s t : String} : (text s).render = (text t).render ↔ s = t := by
  simp only [render]
  grind

theorem natural_injective : Function.Injective Text.natural := by
  intro m n hText
  have hDigits : Nat.toDigits 10 m = Nat.toDigits 10 n := String.ofList_injective hText
  rw [← Nat.ofDigitChars_toDigits (n := m) (b := 10) (by decide) (by decide), hDigits,
    Nat.ofDigitChars_toDigits (by decide) (by decide)]

theorem render_uint_eq_iff {m n : UInt64} : (uint m).render = (uint n).render ↔ m = n := by
  have hText : Text.natural m.toNat = Text.natural n.toNat ↔ m = n :=
    natural_injective.eq_iff.trans UInt64.toNat_inj
  simp only [render]
  grind

theorem render_flag_eq_iff {a b : Bool} : (flag a).render = (flag b).render ↔ a = b := by
  cases a <;> cases b <;> simp [render]

theorem render_optional_text_eq {s t : Option String} (hs : s ≠ some "") (ht : t ≠ some "")
    (hText : (optional text s).render = (optional text t).render) : s = t := by
  cases s <;> cases t <;> simp only [optional, render_text_eq_iff] at hText <;> simp_all

theorem render_optional_decimal_eq {a b : Option Decimal} (ha : ∀ d ∈ a, d.isZero = false)
    (hb : ∀ d ∈ b, d.isZero = false)
    (hText : (optional decimal a).render = (optional decimal b).render) :
    Decimal.SameOptional a b := by
  cases a with
  | none =>
    cases b with
    | none => exact .none
    | some d => simp [optional, render, hb d rfl] at hText
  | some c =>
    cases b with
    | none => simp [optional, render, ha c rfl] at hText
    | some d => exact .some (render_decimal_eq_iff.mp hText)

/-- A decimal that is missing is rendered as a zero is. -/
theorem render_getD_zero (o : Option Decimal) :
    (optional decimal o).render = (decimal (o.getD Decimal.zero)).render := by
  cases o <;> rfl

end ParamValue

end MarketGateway.Trade

namespace MarketGateway.TradeCommand

open Trade Params

/-! ## Settings -/

/-- The setting that names an order. -/
def orderSetting : OrderRef → String × ParamValue
  | .orderId id => ("orderId", .uint id)
  | .clientOrderId id => ("origClientOrderId", .text id)

@[simp]
theorem orderSetting_apart {key : String} (order : OrderRef) (hNumber : key ≠ "orderId")
    (hText : key ≠ "origClientOrderId") : ((orderSetting order).1 == key) = false := by
  cases order <;> simp [orderSetting, hNumber.symm, hText.symm]

/-- What is set for a command, a name for each field. -/
def settings : TradeCommand → List (String × ParamValue)
  | placeOrder order => [("symbol", .text order.symbol), ("side", .text order.side.name),
    ("type", .text order.orderType.name), ("quantity", .decimal order.quantity),
    ("price", .optional .decimal order.price), ("stopPrice", .optional .decimal order.stopPrice),
    ("timeInForce", .optional .text (order.timeInForce.map TimeInForce.name)),
    ("reduceOnly", .flag order.reduceOnly), ("positionSide", .optional .text order.positionSide),
    ("newClientOrderId", .optional .text order.clientOrderId)]
  | modifyOrder change => [("symbol", .text change.symbol), orderSetting change.order,
    ("side", .text change.side.name), ("quantity", .decimal change.quantity),
    ("price", .decimal change.price)]
  | cancelOrder symbol order => [("symbol", .text symbol), orderSetting order]
  | orderStatus symbol order => [("symbol", .text symbol), orderSetting order]
  | placeAlgoOrder order => [("symbol", .text order.symbol), ("side", .text order.side.name),
    ("quantity", .decimal order.quantity), ("duration", .uint order.durationSecs),
    ("limitPrice", .decimal (order.limitPrice.getD Decimal.zero)),
    ("reduceOnly", .flag order.reduceOnly), ("positionSide", .optional .text order.positionSide),
    ("clientAlgoId", .optional .text order.clientAlgoId)]
  | cancelAlgoOrder algoId => [("algoId", .uint algoId)]
  | queryPosition symbol => [("symbol", .optional .text symbol)]
  | setLeverage symbol leverage =>
    [("symbol", .text symbol), ("leverage", .uint leverage.toUInt64)]

theorem params_eq (command : TradeCommand) : command.params = ofSettings command.settings := by
  cases command with
  | modifyOrder change =>
    obtain ⟨symbol, order, side, quantity, price⟩ := change
    cases order <;> rfl
  | cancelOrder symbol order => cases order <;> rfl
  | orderStatus symbol order => cases order <;> rfl
  | _ => rfl

/-- The parameters of signing are no fields of a command. -/
theorem name_of_mem_settings (command : TradeCommand) :
    ∀ setting ∈ command.settings, setting.1 ∉ ["apiKey", "timestamp", "signature"] := by
  have hOrder (order : OrderRef) :
      (orderSetting order).1 ∉ ["apiKey", "timestamp", "signature"] := by
    cases order <;> simp [orderSetting]
  cases command <;> simp only [settings, List.forall_mem_cons, hOrder] <;> simp

end MarketGateway.TradeCommand

namespace MarketGateway.Trade

open Params TradeCommand

/-! ## Parts that count as absent -/

/-- The order is named by a number or a text that is sent. -/
def OrderRef.Explicit : OrderRef → Prop
  | orderId id => id ≠ 0
  | clientOrderId id => id ≠ ""

/-- What may be left out is left out or sent. -/
structure OrderRequest.Explicit (o : OrderRequest) : Prop where
  price : ∀ d ∈ o.price, d.isZero = false
  stopPrice : ∀ d ∈ o.stopPrice, d.isZero = false
  positionSide : o.positionSide ≠ some ""
  clientOrderId : o.clientOrderId ≠ some ""

/-- What may be left out is left out or sent. -/
structure AlgoRequest.Explicit (o : AlgoRequest) : Prop where
  limitPrice : ∀ d ∈ o.limitPrice, d.isZero = false
  positionSide : o.positionSide ≠ some ""
  clientAlgoId : o.clientAlgoId ≠ some ""

/-! ## Fields read off the texts -/

/-- Settings that leave the same texts, but for the signature. -/
def SameTexts (first second : List (String × ParamValue)) : Prop :=
  ∀ key, key ≠ signatureName → finalText? first key = finalText? second key

/-- The last values under a name are rendered alike. -/
theorem SameTexts.render {first second : List (String × ParamValue)} {v w : ParamValue}
    (hTexts : SameTexts first second) (key : String) (hKey : key ≠ signatureName)
    (hFirst : finalValue? first key = some v) (hSecond : finalValue? second key = some w) :
    v.render = w.render := by
  have hText := hTexts key hKey
  rw [finalText?, finalText?, hFirst, hSecond] at hText
  exact hText

theorem OrderSide.name_injective : Function.Injective name := by
  intro s t
  cases s <;> cases t <;> decide

theorem OrderType.name_injective : Function.Injective name := by
  intro s t
  cases s <;> cases t <;> decide

theorem TimeInForce.name_injective : Function.Injective name := by
  intro s t
  cases s <;> cases t <;> decide

theorem TimeInForce.optional_name_ne_empty (o : Option TimeInForce) : o.map name ≠ some "" := by
  cases o with
  | none => simp
  | some t => cases t <;> simp [name]

theorem OrderRequest.same_of_texts {a b : OrderRequest} (ha : a.Explicit) (hb : b.Explicit)
    (hTexts : SameTexts (settings (.placeOrder a)) (settings (.placeOrder b))) : a.Same b := by
  have hSymbol : a.symbol = b.symbol :=
    ParamValue.render_text_eq_iff.mp (hTexts.render "symbol" (by decide) rfl rfl)
  have hSide : a.side.name = b.side.name :=
    ParamValue.render_text_eq_iff.mp (hTexts.render "side" (by decide) rfl rfl)
  have hType : a.orderType.name = b.orderType.name :=
    ParamValue.render_text_eq_iff.mp (hTexts.render "type" (by decide) rfl rfl)
  have hTime := ParamValue.render_optional_text_eq (TimeInForce.optional_name_ne_empty a.timeInForce)
    (TimeInForce.optional_name_ne_empty b.timeInForce)
    (hTexts.render "timeInForce" (by decide) rfl rfl)
  have hReduce : a.reduceOnly = b.reduceOnly :=
    ParamValue.render_flag_eq_iff.mp (hTexts.render "reduceOnly" (by decide) rfl rfl)
  have hPosition := ParamValue.render_optional_text_eq ha.positionSide hb.positionSide
    (hTexts.render "positionSide" (by decide) rfl rfl)
  have hId := ParamValue.render_optional_text_eq ha.clientOrderId hb.clientOrderId
    (hTexts.render "newClientOrderId" (by decide) rfl rfl)
  refine ⟨?_, ?_, ?_, ?_⟩
  · exact ParamValue.render_decimal_eq_iff.mp (hTexts.render "quantity" (by decide) rfl rfl)
  · exact ParamValue.render_optional_decimal_eq ha.price hb.price
      (hTexts.render "price" (by decide) rfl rfl)
  · exact ParamValue.render_optional_decimal_eq ha.stopPrice hb.stopPrice
      (hTexts.render "stopPrice" (by decide) rfl rfl)
  · cases b
    simp only [OrderRequest.mk.injEq, true_and]
    exact ⟨hSymbol, OrderSide.name_injective hSide, OrderType.name_injective hType,
      Option.map_injective TimeInForce.name_injective hTime, hReduce, hPosition, hId⟩

/-- A number is told from a text by its name. -/
theorem OrderRef.eq_of_texts {a b : OrderRef} (ha : a.Explicit) (hb : b.Explicit)
    (hNumber : finalText? [orderSetting a] "orderId" = finalText? [orderSetting b] "orderId")
    (hText : finalText? [orderSetting a] "origClientOrderId" =
      finalText? [orderSetting b] "origClientOrderId") : a = b := by
  cases a with
  | orderId m =>
    cases b with
    | orderId n =>
      simpa [finalText?, finalValue?, orderSetting, ParamValue.render_uint_eq_iff] using hNumber
    | clientOrderId t => simp_all [finalText?, finalValue?, orderSetting, ParamValue.render, Explicit]
  | clientOrderId s =>
    cases b with
    | orderId n => simp_all [finalText?, finalValue?, orderSetting, ParamValue.render, Explicit]
    | clientOrderId t =>
      simpa [finalText?, finalValue?, orderSetting, ParamValue.render_text_eq_iff] using hText

theorem ModifyRequest.same_of_texts {a b : ModifyRequest} (ha : a.order.Explicit)
    (hb : b.order.Explicit)
    (hTexts : SameTexts (settings (.modifyOrder a)) (settings (.modifyOrder b))) : a.Same b := by
  have hSymbol : a.symbol = b.symbol := by
    simpa [finalText?, finalValue?, settings, ParamValue.render_text_eq_iff] using
      hTexts "symbol" (by decide)
  have hSide : a.side.name = b.side.name := by
    simpa [finalText?, finalValue?, settings, ParamValue.render_text_eq_iff] using
      hTexts "side" (by decide)
  have hOrder := OrderRef.eq_of_texts ha hb
    (by simpa [finalText?, finalValue?, settings] using hTexts "orderId" (by decide))
    (by simpa [finalText?, finalValue?, settings] using hTexts "origClientOrderId" (by decide))
  refine ⟨?_, ?_, ?_⟩
  · simpa [finalText?, finalValue?, settings, ParamValue.render_decimal_eq_iff] using
      hTexts "quantity" (by decide)
  · simpa [finalText?, finalValue?, settings, ParamValue.render_decimal_eq_iff] using
      hTexts "price" (by decide)
  · cases b
    simp only [ModifyRequest.mk.injEq, true_and]
    exact ⟨hSymbol, hOrder, OrderSide.name_injective hSide, trivial⟩

theorem AlgoRequest.same_of_texts {a b : AlgoRequest} (ha : a.Explicit) (hb : b.Explicit)
    (hTexts : SameTexts (settings (.placeAlgoOrder a)) (settings (.placeAlgoOrder b))) :
    a.Same b := by
  have hSymbol : a.symbol = b.symbol :=
    ParamValue.render_text_eq_iff.mp (hTexts.render "symbol" (by decide) rfl rfl)
  have hSide : a.side.name = b.side.name :=
    ParamValue.render_text_eq_iff.mp (hTexts.render "side" (by decide) rfl rfl)
  have hDuration : a.durationSecs = b.durationSecs :=
    ParamValue.render_uint_eq_iff.mp (hTexts.render "duration" (by decide) rfl rfl)
  have hReduce : a.reduceOnly = b.reduceOnly :=
    ParamValue.render_flag_eq_iff.mp (hTexts.render "reduceOnly" (by decide) rfl rfl)
  have hPosition := ParamValue.render_optional_text_eq ha.positionSide hb.positionSide
    (hTexts.render "positionSide" (by decide) rfl rfl)
  have hId := ParamValue.render_optional_text_eq ha.clientAlgoId hb.clientAlgoId
    (hTexts.render "clientAlgoId" (by decide) rfl rfl)
  refine ⟨?_, ?_, ?_⟩
  · exact ParamValue.render_decimal_eq_iff.mp (hTexts.render "quantity" (by decide) rfl rfl)
  · refine ParamValue.render_optional_decimal_eq ha.limitPrice hb.limitPrice ?_
    rw [ParamValue.render_getD_zero, ParamValue.render_getD_zero]
    exact hTexts.render "limitPrice" (by decide) rfl rfl
  · cases b
    simp only [AlgoRequest.mk.injEq, true_and]
    exact ⟨hSymbol, OrderSide.name_injective hSide, hDuration, hReduce, hPosition, hId⟩

end MarketGateway.Trade

namespace MarketGateway.TradeCommand

open Trade Params

/-- No part of a command is there and counts as absent where its absence means something. This holds
in particular if no number in it is zero and no text empty. -/
def Explicit : TradeCommand → Prop
  | placeOrder order => order.Explicit
  | modifyOrder change => change.order.Explicit
  | cancelOrder _ order | orderStatus _ order => order.Explicit
  | placeAlgoOrder order => order.Explicit
  | queryPosition symbol => symbol ≠ some ""
  | cancelAlgoOrder _ | setLeverage _ _ => True

/-- Commands about one order in a symbol. -/
theorem eq_of_order_texts {symbol other : String} {order another : OrderRef} (ha : order.Explicit)
    (hb : another.Explicit)
    (hTexts : SameTexts [("symbol", .text symbol), orderSetting order]
      [("symbol", .text other), orderSetting another]) : symbol = other ∧ order = another := by
  constructor
  · simpa [finalText?, finalValue?, ParamValue.render_text_eq_iff] using
      hTexts "symbol" (by decide)
  · exact OrderRef.eq_of_texts ha hb
      (by simpa [finalText?, finalValue?] using hTexts "orderId" (by decide))
      (by simpa [finalText?, finalValue?] using hTexts "origClientOrderId" (by decide))

/-- **Commands of one method that leave the same texts are the same.** -/
theorem same_of_texts {a b : TradeCommand} (ha : a.Explicit) (hb : b.Explicit)
    (hMethod : RpcMethod.ofCommand a = RpcMethod.ofCommand b)
    (hTexts : SameTexts a.settings b.settings) : a.Same b := by
  cases a <;> cases b <;> cases hMethod
  case placeOrder.placeOrder => exact OrderRequest.same_of_texts ha hb hTexts
  case modifyOrder.modifyOrder => exact ModifyRequest.same_of_texts ha hb hTexts
  case placeAlgoOrder.placeAlgoOrder => exact AlgoRequest.same_of_texts ha hb hTexts
  case cancelOrder.cancelOrder =>
    obtain ⟨rfl, rfl⟩ := eq_of_order_texts ha hb hTexts
    rfl
  case orderStatus.orderStatus =>
    obtain ⟨rfl, rfl⟩ := eq_of_order_texts ha hb hTexts
    rfl
  case cancelAlgoOrder.cancelAlgoOrder m n =>
    have hId : m = n :=
      ParamValue.render_uint_eq_iff.mp (hTexts.render "algoId" (by decide) rfl rfl)
    exact congrArg cancelAlgoOrder hId
  case queryPosition.queryPosition s t =>
    have hSymbol := ParamValue.render_optional_text_eq ha hb
      (hTexts.render "symbol" (by decide) rfl rfl)
    exact congrArg queryPosition hSymbol
  case setLeverage.setLeverage s m t n =>
    have hSymbol : s = t :=
      ParamValue.render_text_eq_iff.mp (hTexts.render "symbol" (by decide) rfl rfl)
    have hLeverage : m.toUInt64 = n.toUInt64 :=
      ParamValue.render_uint_eq_iff.mp (hTexts.render "leverage" (by decide) rfl rfl)
    exact congrArg₂ setLeverage hSymbol (UInt32.toUInt64_inj.mp hLeverage)

/-- A route belongs to one method. -/
theorem method_eq_of_route {a b : TradeCommand} (hRoute : Route.ofCommand a = Route.ofCommand b) :
    RpcMethod.ofCommand a = RpcMethod.ofCommand b := by
  cases a <;> cases b <;> simp_all [Route.ofCommand, RpcMethod.ofCommand]

/-- Parameters with the same signed pairs were set to the same texts. -/
theorem sameTexts_of_signable {a b : TradeCommand}
    (hPairs : a.params.signable = b.params.signable) : SameTexts a.settings b.settings := by
  intro key hKey
  rw [params_eq, params_eq] at hPairs
  have hText (text : String) :
      finalText? a.settings key = some text ↔ finalText? b.settings key = some text := by
    have hPair : (key, text) ∈ (ofSettings a.settings).signable ↔
        (key, text) ∈ (ofSettings b.settings).signable := by rw [hPairs]
    rw [mem_signable, mem_signable] at hPair
    simpa [hKey] using hPair
  exact Option.ext hText

end MarketGateway.TradeCommand
