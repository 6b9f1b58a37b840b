import MarketGateway.Book.View
import MarketGateway.Client.Request
import MarketGateway.Market.MarkPrice
import MarketGateway.Proofs.Json.RoundTrip

/-!
# Requests and payloads of clients

The request that a client sends and the payloads that it is sent, a mark price or a book view, are
read back from the text that was written: `ClientRequest.parse_render`, `MarkPrice.read_render` and
`Book.View.read_render`. The price of a mark price keeps its value (`MarkPrice.Same`).
-/

namespace MarketGateway

open Json

variable {depth : Nat}

/-! ## Levels -/

namespace Book

theorem sorted_level (l : Level) : sorted (Level.form.toJson l) = Level.form.toJson l := rfl

theorem writable_level (l : Level) : Writable (depth + 1) (Level.form.toJson l) := by
  refine .array fun v hv => ?_
  simp only [List.mem_cons, List.not_mem_nil, or_false] at hv
  rcases hv with rfl | rfl <;> exact .string _

@[simp]
theorem streams_levelsForm : levelsForm.Streams :=
  Form.streams_list (Form.streams_mapped (Form.streams_pair Form.streams_text) _ _)

@[simp]
theorem ofJson_levelsForm (levels : List Level) :
    levelsForm.ofJson (levelsForm.toJson levels) = some levels :=
  Form.ofJson_list (fun _ => rfl) levels

@[simp]
theorem writable_levelsForm (levels : List Level) :
    Writable (depth + 2) (levelsForm.toJson levels) := Form.writable_list writable_level levels

@[simp]
theorem sorted_levelsForm (levels : List Level) :
    sorted (levelsForm.toJson levels) = levelsForm.toJson levels :=
  Form.sorted_list sorted_level levels

end Book

/-! ## Mark prices -/

namespace MarkPrice

/-- The same mark price, with a price of the same value. -/
structure Same (m n : MarkPrice) : Prop where
  price : m.price.sameValue n.price = true
  rest : { m with price := n.price } = n

/-- The mark price as it is read back. -/
def reread (m : MarkPrice) : MarkPrice := { m with price := m.price.reread }

theorem same_reread (m : MarkPrice) : m.reread.Same m := ⟨m.price.sameValue_reread, rfl⟩

theorem streams_form : form.Streams := Record.streams_form (by simp [record])

theorem ofJson_toJson {m : MarkPrice} (hFits : m.price.Fits) :
    form.ofJson (form.toJson m) = some m.reread := by
  simp [form, record, hFits, reread]

theorem writable_toJson (m : MarkPrice) : Writable (depth + 1) (form.toJson m) :=
  .object (by simp [record])

/-- **A mark price is read back**, its price by value. -/
theorem read_render {m : MarkPrice} (hFits : m.price.Fits) :
    readAll form.read (form.toJson m).render = .ok m.reread :=
  Form.readAll_render streams_form m.writable_toJson (ofJson_toJson hFits)

end MarkPrice

/-! ## Book views -/

namespace Book.View

theorem streams_form : form.Streams := Record.streams_form (by simp [record])

theorem ofJson_toJson (v : View) : form.ofJson (form.toJson v) = some v := by
  simp [form, record]

theorem writable_toJson (v : View) : Writable (depth + 3) (form.toJson v) :=
  .object (by simp [record])

/-- **A book view is read back**; its tag is passed over. -/
theorem read_render (v : View) : readAll form.read (form.toJson v).render = .ok v :=
  Form.readAll_render streams_form v.writable_toJson v.ofJson_toJson

end Book.View

/-! ## Requests -/

namespace ClientAction

@[simp]
theorem ofJson_toJson (a : ClientAction) : form.ofJson (form.toJson a) = some a := by
  cases a <;> rfl

@[simp]
theorem writable_toJson (a : ClientAction) : Writable depth (form.toJson a) := .string _

end ClientAction

namespace ClientRequest

@[simp]
theorem ofJson_symbolForm (o : Option String) : symbolForm.ofJson (symbolForm.toJson o) = some o :=
  Form.ofJson_optional_self (Form.converted_ne_null _ _) Form.ofJson_text o

@[simp]
theorem writable_symbolForm (o : Option String) : Writable depth (symbolForm.toJson o) :=
  Form.writable_optional (fun s => .string s) o

theorem streams_form : form.Streams :=
  Record.streams_form (by simp [record, symbolForm, ClientAction.form])

theorem ofJson_toJson (r : ClientRequest) : form.ofJson (form.toJson r) = some r := by
  simp [form, record, Form.resolve]

theorem writable_toJson (r : ClientRequest) : Writable (depth + 1) (form.toJson r) :=
  .object (by simp [record])

/-- **A request of a client is read back.** -/
theorem parse_render (r : ClientRequest) : parse (form.toJson r).render = .ok r := by
  rw [parse, Form.readAll_render streams_form r.writable_toJson r.ofJson_toJson]

end ClientRequest

end MarketGateway
