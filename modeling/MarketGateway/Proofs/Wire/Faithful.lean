import MarketGateway.Proofs.Wire.Commands
import MarketGateway.Proofs.Wire.Frames

/-!
# The wire is faithful

Every message that the gateway or the exchange writes is read back as the message that was written
(`messages_read_back`): frames of the market data stream by `Market.decode`, under their own kind,
and requests, payloads and commands as they stream. Texts may hold any characters, numbers fill
their words, and optional members may be there or not. Decimals keep their value, which is what
comparing messages looks at.
-/

namespace MarketGateway.Wire

open Json Market

/-- Each kind of message is read back from its text. -/
structure ReadBack : Prop where
  depthUpdate : ∀ m : DepthUpdate, m.eventType = "depthUpdate" →
    decode (DepthUpdate.form.toJson m).render = .ok (.depth m)
  markPriceUpdate : ∀ m : MarkPriceUpdate, m.eventType = "markPriceUpdate" →
    (∀ d ∈ m.decimals, d.Fits) →
    ∃ n, decode (MarkPriceUpdate.form.toJson m).render = .ok (.markPrice n) ∧ n.Same m
  streamError : ∀ e : StreamError, decode (StreamError.form.toJson e).render = .ok (.error e)
  acknowledgement : ∀ a : Acknowledgement, a.result = none →
    decode (Acknowledgement.form.toJson a).render = .ok (.ack a)
  clientRequest : ∀ r : ClientRequest,
    ClientRequest.parse (ClientRequest.form.toJson r).render = .ok r
  markPrice : ∀ m : MarkPrice, m.price.Fits →
    ∃ n, readAll MarkPrice.form.read (MarkPrice.form.toJson m).render = .ok n ∧ n.Same m
  bookView : ∀ v : Book.View,
    readAll Book.View.form.read (Book.View.form.toJson v).render = .ok v
  command : ∀ c : TradeCommand, (∀ d ∈ c.decimals, d.Fits) →
    ∃ d, readAll TradeCommand.form.read (TradeCommand.form.toJson c).render = .ok d ∧ d.Same c

/-- **Every message is read back as the message that was written.** -/
theorem messages_read_back : ReadBack where
  depthUpdate _ hType := DepthUpdate.decode_render hType
  markPriceUpdate m hType hFits :=
    ⟨m.reread, MarkPriceUpdate.decode_render hType hFits, m.same_reread⟩
  streamError e := e.decode_render
  acknowledgement := by
    rintro ⟨_, id⟩ rfl
    exact Acknowledgement.decode_render id
  clientRequest r := r.parse_render
  markPrice m hFits := ⟨m.reread, MarkPrice.read_render hFits, m.same_reread⟩
  bookView v := v.read_render
  command c hFits := ⟨c.reread, TradeCommand.read_render hFits, c.same_reread⟩

/-- An order with the largest mantissa, a zero with a sign and a text that needs escapes. -/
def extremeOrder : TradeCommand :=
  .placeOrder {
    symbol := "\"BTC\\USDT\n"
    side := .sell
    orderType := .stop
    quantity := ⟨true, Nat.pow 2 96 - 1, 28⟩
    price := some ⟨true, 0, 28⟩
    stopPrice := none
    timeInForce := some .gtx
    reduceOnly := true
    positionSide := some ""
    clientOrderId := none }

theorem extremeOrder_read_back :
    (∀ d ∈ extremeOrder.decimals, d.Fits) ∧
      ∃ d, readAll TradeCommand.form.read (TradeCommand.form.toJson extremeOrder).render = .ok d ∧
        d.Same extremeOrder :=
  have hFits : ∀ d ∈ extremeOrder.decimals, d.Fits := by decide
  ⟨hFits, messages_read_back.command extremeOrder hFits⟩

end MarketGateway.Wire
