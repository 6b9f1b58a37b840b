import MarketGateway.Proofs.Json.RoundTrip
import MarketGateway.Trade.Command

/-!
# Trade commands

A command is written as an object that names its kind, and is read back as it streams:
`TradeCommand.read_render`. All of it comes back as it was, but for the sign of a zero among its
decimals, so the command is the same (`TradeCommand.Same`).
-/

namespace MarketGateway.Trade

open Json

variable {depth : Nat}

/-! ## Names -/

@[simp]
theorem OrderSide.ofJson_toJson (s : OrderSide) : form.ofJson (form.toJson s) = some s := by
  cases s <;> rfl

@[simp]
theorem OrderSide.writable_toJson (s : OrderSide) : Writable depth (form.toJson s) := .string _

@[simp]
theorem OrderSide.streams_form : form.Streams := Variant.streams_names _ _

@[simp]
theorem OrderType.ofJson_toJson (t : OrderType) : form.ofJson (form.toJson t) = some t := by
  cases t <;> rfl

@[simp]
theorem OrderType.writable_toJson (t : OrderType) : Writable depth (form.toJson t) := .string _

@[simp]
theorem OrderType.streams_form : form.Streams := Variant.streams_names _ _

@[simp]
theorem TimeInForce.ofJson_toJson (t : TimeInForce) : form.ofJson (form.toJson t) = some t := by
  cases t <;> rfl

@[simp]
theorem TimeInForce.writable_toJson (t : TimeInForce) : Writable depth (form.toJson t) := .string _

@[simp]
theorem TimeInForce.streams_form : form.Streams := Variant.streams_names _ _

/-! ## References and optional members -/

@[simp]
theorem OrderRef.ofJson_toJson (r : OrderRef) : form.ofJson r.toJson = some r := by
  cases r with
  | orderId id => exact Form.ofJson_variants rfl (Form.ofJson_holding (Form.ofJson_uint64 id) _ _) _
  | clientOrderId id =>
    exact Form.ofJson_variants rfl (Form.ofJson_holding (Form.ofJson_text id) _ _) _

@[simp]
theorem OrderRef.writable_toJson (r : OrderRef) : Writable (depth + 1) r.toJson := by
  cases r <;> exact .object (by simp)

@[simp]
theorem OrderRef.streams_form : form.Streams := Variant.streams_form (by simp) _

@[simp]
theorem ofJson_optionalText (o : Option String) :
    optionalText.ofJson (optionalText.toJson o) = some o :=
  Form.ofJson_optional_self (Form.converted_ne_null _ _) Form.ofJson_text o

@[simp]
theorem writable_optionalText (o : Option String) : Writable depth (optionalText.toJson o) :=
  Form.writable_optional (fun s => .string s) o

@[simp]
theorem streams_optionalText : optionalText.Streams := Form.streams_optional Form.streams_text

@[simp]
theorem ofJson_optionalDecimal {o : Option Decimal} (h : ∀ d ∈ o, d.Fits) :
    optionalDecimal.ofJson (optionalDecimal.toJson o) = some (o.map Decimal.reread) :=
  Form.ofJson_optional (fun _ => Json.noConfusion) fun d hd => Form.ofJson_decimal (h d hd)

@[simp]
theorem writable_optionalDecimal (o : Option Decimal) : Writable depth (optionalDecimal.toJson o) :=
  Form.writable_optional Form.writable_decimal o

@[simp]
theorem streams_optionalDecimal : optionalDecimal.Streams :=
  Form.streams_optional Form.streams_decimal

/-! ## Orders -/

namespace OrderRequest

/-- The same order, with decimals of the same values. -/
structure Same (a b : OrderRequest) : Prop where
  quantity : a.quantity.sameValue b.quantity = true
  price : Decimal.SameOptional a.price b.price
  stopPrice : Decimal.SameOptional a.stopPrice b.stopPrice
  rest : { a with quantity := b.quantity, price := b.price, stopPrice := b.stopPrice } = b

/-- The decimals of an order. -/
def decimals (o : OrderRequest) : List Decimal :=
  o.quantity :: (o.price.toList ++ o.stopPrice.toList)

/-- The order as it is read back. -/
def reread (o : OrderRequest) : OrderRequest :=
  { o with
    quantity := o.quantity.reread
    price := o.price.map Decimal.reread
    stopPrice := o.stopPrice.map Decimal.reread }

theorem same_reread (o : OrderRequest) : o.reread.Same o where
  quantity := o.quantity.sameValue_reread
  price := Decimal.sameOptional_reread o.price
  stopPrice := Decimal.sameOptional_reread o.stopPrice
  rest := rfl

@[simp]
theorem ofJson_timeForm (o : Option TimeInForce) : timeForm.ofJson (timeForm.toJson o) = some o :=
  Form.ofJson_optional_self (fun _ => Json.noConfusion) TimeInForce.ofJson_toJson o

@[simp]
theorem writable_timeForm (o : Option TimeInForce) : Writable depth (timeForm.toJson o) :=
  Form.writable_optional TimeInForce.writable_toJson o

@[simp]
theorem streams_form : form.Streams := Record.streams_form (by simp [record, timeForm])

@[simp]
theorem writable_toJson (o : OrderRequest) : Writable (depth + 1) (form.toJson o) :=
  .object (by simp [record])

@[simp]
theorem ofJson_toJson {o : OrderRequest} (hFits : ∀ d ∈ o.decimals, d.Fits) :
    form.ofJson (form.toJson o) = some o.reread := by
  simp only [decimals, List.forall_mem_cons, List.forall_mem_append, Option.mem_toList] at hFits
  obtain ⟨hQuantity, hPrice, hStop⟩ := hFits
  simp [form, record, Form.resolve, hQuantity, ofJson_optionalDecimal hPrice,
    ofJson_optionalDecimal hStop, reread]

end OrderRequest

namespace ModifyRequest

/-- The same change, with decimals of the same values. -/
structure Same (a b : ModifyRequest) : Prop where
  quantity : a.quantity.sameValue b.quantity = true
  price : a.price.sameValue b.price = true
  rest : { a with quantity := b.quantity, price := b.price } = b

/-- The decimals of a change. -/
def decimals (m : ModifyRequest) : List Decimal := [m.quantity, m.price]

/-- The change as it is read back. -/
def reread (m : ModifyRequest) : ModifyRequest :=
  { m with quantity := m.quantity.reread, price := m.price.reread }

theorem same_reread (m : ModifyRequest) : m.reread.Same m where
  quantity := m.quantity.sameValue_reread
  price := m.price.sameValue_reread
  rest := rfl

@[simp]
theorem streams_form : form.Streams := Record.streams_form (by simp [record])

@[simp]
theorem writable_toJson (m : ModifyRequest) : Writable (depth + 2) (form.toJson m) :=
  .object (by simp [record])

theorem ofJson_toJson {m : ModifyRequest} (hFits : ∀ d ∈ m.decimals, d.Fits) :
    form.ofJson (form.toJson m) = some m.reread := by
  simp only [decimals, List.forall_mem_cons] at hFits
  obtain ⟨hQuantity, hPrice, -⟩ := hFits
  simp [form, record, hQuantity, hPrice, reread]

end ModifyRequest

namespace AlgoRequest

/-- The same order, with decimals of the same values. -/
structure Same (a b : AlgoRequest) : Prop where
  quantity : a.quantity.sameValue b.quantity = true
  limitPrice : Decimal.SameOptional a.limitPrice b.limitPrice
  rest : { a with quantity := b.quantity, limitPrice := b.limitPrice } = b

/-- The decimals of an order. -/
def decimals (a : AlgoRequest) : List Decimal := a.quantity :: a.limitPrice.toList

/-- The order as it is read back. -/
def reread (a : AlgoRequest) : AlgoRequest :=
  { a with quantity := a.quantity.reread, limitPrice := a.limitPrice.map Decimal.reread }

theorem same_reread (a : AlgoRequest) : a.reread.Same a where
  quantity := a.quantity.sameValue_reread
  limitPrice := Decimal.sameOptional_reread a.limitPrice
  rest := rfl

@[simp]
theorem streams_form : form.Streams := Record.streams_form (by simp [record])

@[simp]
theorem writable_toJson (a : AlgoRequest) : Writable (depth + 1) (form.toJson a) :=
  .object (by simp [record])

theorem ofJson_toJson {a : AlgoRequest} (hFits : ∀ d ∈ a.decimals, d.Fits) :
    form.ofJson (form.toJson a) = some a.reread := by
  simp only [decimals, List.forall_mem_cons, Option.mem_toList] at hFits
  obtain ⟨hQuantity, hLimit⟩ := hFits
  simp [form, record, Form.resolve, hQuantity, ofJson_optionalDecimal hLimit, reread]

end AlgoRequest

end MarketGateway.Trade

namespace MarketGateway.TradeCommand

open Json Trade

variable {depth : Nat}

/-- The same command, with decimals of the same values. -/
def Same : TradeCommand → TradeCommand → Prop
  | placeOrder a, placeOrder b => a.Same b
  | modifyOrder a, modifyOrder b => a.Same b
  | placeAlgoOrder a, placeAlgoOrder b => a.Same b
  | a, b => a = b

/-- The decimals of a command. -/
def decimals : TradeCommand → List Decimal
  | placeOrder order => order.decimals
  | modifyOrder change => change.decimals
  | placeAlgoOrder order => order.decimals
  | _ => []

/-- The command as it is read back. -/
def reread : TradeCommand → TradeCommand
  | placeOrder order => placeOrder order.reread
  | modifyOrder change => modifyOrder change.reread
  | placeAlgoOrder order => placeAlgoOrder order.reread
  | command => command

theorem same_reread (c : TradeCommand) : c.reread.Same c := by
  cases c with
  | placeOrder order => exact order.same_reread
  | modifyOrder change => exact change.same_reread
  | placeAlgoOrder order => exact order.same_reread
  | _ => rfl

theorem streams_form : form.Streams := by
  refine Variant.streams_form ?_ _
  simp [variants, orderRecord, algoRecord, positionRecord, leverageRecord]

theorem writable_toJson (c : TradeCommand) : Writable (depth + 3) c.toJson := by
  cases c <;> refine .object ?_ <;> simp <;> refine .object ?_ <;> simp

theorem ofJson_toJson {c : TradeCommand} (hFits : ∀ d ∈ c.decimals, d.Fits) :
    form.ofJson c.toJson = some c.reread := by
  cases c with
  | placeOrder order =>
    exact Form.ofJson_variants rfl (Form.ofJson_holding (OrderRequest.ofJson_toJson hFits) _ _) _
  | modifyOrder change =>
    exact Form.ofJson_variants rfl (Form.ofJson_holding (ModifyRequest.ofJson_toJson hFits) _ _) _
  | cancelOrder symbol order =>
    exact Form.ofJson_variants rfl (Form.ofJson_fields (by simp [orderRecord, reread]) _) _
  | orderStatus symbol order =>
    exact Form.ofJson_variants rfl (Form.ofJson_fields (by simp [orderRecord, reread]) _) _
  | placeAlgoOrder order =>
    exact Form.ofJson_variants rfl (Form.ofJson_holding (AlgoRequest.ofJson_toJson hFits) _ _) _
  | cancelAlgoOrder algoId =>
    exact Form.ofJson_variants rfl (Form.ofJson_fields (by simp [algoRecord, reread]) _) _
  | queryPosition symbol =>
    exact Form.ofJson_variants rfl
      (Form.ofJson_fields (by simp [positionRecord, Form.resolve, reread]) _) _
  | setLeverage symbol leverage =>
    exact Form.ofJson_variants rfl (Form.ofJson_fields (by simp [leverageRecord, reread]) _) _

/-- **A command is read back**, its decimals by value. -/
theorem read_render {c : TradeCommand} (hFits : ∀ d ∈ c.decimals, d.Fits) :
    readAll form.read (form.toJson c).render = .ok c.reread :=
  Form.readAll_render streams_form c.writable_toJson (ofJson_toJson hFits)

end MarketGateway.TradeCommand
