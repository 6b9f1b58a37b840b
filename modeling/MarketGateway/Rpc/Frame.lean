import MarketGateway.Market.Message

/-!
# Frames of the trading socket

A request carries an id, a method and signed parameters. A response carries the id of the request
that it answers, or none, a status, and a result or an error.
-/

namespace MarketGateway.Rpc

open Json

/-- A request frame. -/
structure RequestFrame where
  id : String
  method : String
  params : Json

namespace RequestFrame

structure Draft where
  id : Option String := none
  method : Option String := none
  params : Option Json := none

def record : Record Draft RequestFrame where
  empty := {}
  fields := [
    .of "id" Form.text (·.id) (fun d v => { d with id := some v }),
    .of "method" Form.text (·.method) (fun d v => { d with method := some v }),
    .of "params" Form.any (·.params) (fun d v => { d with params := some v })]
  finish d := do return ⟨← d.id, ← d.method, ← d.params⟩
  members r := [("id", .string r.id), ("method", .string r.method), ("params", r.params)]

def form : Form RequestFrame := record.form

end RequestFrame

/-- A response frame. -/
structure ResponseFrame where
  id : Option String
  status : UInt16
  result : Option Json
  error : Option ExchangeError

namespace ResponseFrame

structure Draft where
  id : Option (Option String) := none
  status : Option UInt16 := none
  result : Option (Option Json) := none
  error : Option (Option ExchangeError) := none

def idForm : Form (Option String) := Form.text.optional

def statusForm : Form UInt16 := Form.uint16.orElse 0

def resultForm : Form (Option Json) := Form.any.optional

def errorForm : Form (Option ExchangeError) := ExchangeError.form.optional

def record : Record Draft ResponseFrame where
  empty := {}
  fields := [
    .of "id" idForm (·.id) (fun d v => { d with id := some v }) true,
    .of "status" statusForm (·.status) (fun d v => { d with status := some v }) true,
    .of "result" resultForm (·.result) (fun d v => { d with result := some v }) true,
    .of "error" errorForm (·.error) (fun d v => { d with error := some v }) true]
  finish d := do
    return ⟨← idForm.resolve d.id, ← statusForm.resolve d.status, ← resultForm.resolve d.result,
      ← errorForm.resolve d.error⟩
  members r := [("id", idForm.toJson r.id), ("status", statusForm.toJson r.status),
    ("result", resultForm.toJson r.result), ("error", errorForm.toJson r.error)]

def form : Form ResponseFrame := record.form

end ResponseFrame

end MarketGateway.Rpc
