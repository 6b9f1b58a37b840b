import MarketGateway.Json.Form

/-!
# Forms of structures

A structure is an object with named members in any order, or an array of their values in the order
of declaration. Members with other names are passed over. A member must not come twice in a text.
Reading fills a draft, a structure of type `σ` whose fields are optional, member by member, and
`Record.finish` turns a filled draft into the value.
-/

namespace MarketGateway.Json

/-- One member of a structure. -/
structure Field (σ : Type) where
  name : String
  /-- Whether the draft holds the member already. -/
  filled : σ → Bool
  read : Reader (σ → σ)
  ofJson : Json → Option (σ → σ)
  /-- Whether an array of values may end before this member. -/
  mayEnd : Bool

/-- The member `name` of the form `form`, stored in a draft by `set` and found in it by `get`. -/
def Field.of {σ β : Type} (name : String) (form : Form β) (get : σ → Option β)
    (set : σ → β → σ) (mayEnd : Bool := false) : Field σ where
  name := name
  filled draft := (get draft).isSome
  read depth cs := (form.read depth cs).map fun (b, rest) => ((fun draft => set draft b), rest)
  ofJson v := (form.ofJson v).map fun b => fun draft => set draft b
  mayEnd := mayEnd

/-- The value of a member of a filled draft. -/
def Form.resolve {β : Type} (form : Form β) (value : Option β) : Option β :=
  match value with
  | some b => some b
  | none => form.absent

/-- How a structure is read through drafts of type `σ`. -/
structure Record (σ α : Type) where
  empty : σ
  fields : List (Field σ)
  finish : σ → Option α
  members : α → List (String × Json)

namespace Record

variable {σ α : Type}

/-- The value of a filled draft, or a wrong shape when a member is missing. -/
def conclude (record : Record σ α) (draft : σ) (rest : List Char) :
    Except Fault (α × List Char) :=
  match record.finish draft with
  | some a => .ok (a, rest)
  | none => .error .mismatched

/-- The colon behind a key. -/
def colon (cs : List Char) : Except Fault (List Char) :=
  match skipBlank cs with
  | [] => .error .truncated
  | c :: rest => if c = ':' then .ok rest else .error .malformed

/-- Reads the value of the member `key` into the draft; a value under another name is passed
over. -/
def readMember (fields : List (Field σ)) (depth : Nat) (key : String) (draft : σ)
    (cs : List Char) : Except Fault (σ × List Char) :=
  match fields.find? (·.name == key) with
  | none => do
    let rest ← colon cs
    let rest ← skipValue rest
    return (draft, rest)
  | some field =>
    if field.filled draft then .error .mismatched
    else do
      let rest ← colon cs
      let (set, rest) ← field.read depth rest
      return (set draft, rest)

/-- Reads the members of an object up to its closing brace. -/
def readMembers (record : Record σ α) :
    Nat → Nat → Bool → σ → List Char → Except Fault (α × List Char)
  | 0, _, _, _, _ => .error .malformed
  | fuel + 1, depth, first, draft, cs =>
    match skipBlank cs with
    | [] => .error .truncated
    | c :: rest =>
      if c = '\x7d' then record.conclude draft rest
      else if first = false ∧ c ≠ ',' then .error .malformed
      else
        match (if first then c :: rest else skipBlank rest) with
        | [] => .error .truncated
        | q :: rest =>
          if q ≠ '"' then .error .malformed
          else match stringRest rest with
            | .error fault => .error fault
            | .ok (key, rest) =>
              match readMember record.fields depth key draft rest with
              | .error fault => .error fault
              | .ok (draft, rest) => readMembers record fuel depth false draft rest

/-- Reads values in the order of declaration up to the closing bracket. -/
def readValues (record : Record σ α) (depth : Nat) :
    Bool → σ → List (Field σ) → List Char → Except Fault (α × List Char)
  | _, draft, [], cs =>
    match record.conclude draft cs with
    | .error fault => .error fault
    | .ok (a, rest) => (endItems rest).map (a, ·)
  | first, draft, field :: fields, cs =>
    match nextItem first cs with
    | .error fault => .error fault
    | .ok (none, rest) =>
      if field.mayEnd then readValues record depth first draft fields rest
      else .error .mismatched
    | .ok (some rest, _) =>
      match field.read depth rest with
      | .error fault => .error fault
      | .ok (set, rest) => readValues record depth false (set draft) fields rest

/-- Reads the structure from an object or an array. -/
def read (record : Record σ α) : Reader α := fun depth cs =>
  match skipBlank cs with
  | [] => .error .truncated
  | c :: rest =>
    if c = '[' then
      if depth = 0 then .error .malformed
      else readValues record (depth - 1) true record.empty record.fields rest
    else if c = '\x7b' then
      if depth = 0 then .error .malformed
      else readMembers record (rest.length + 1) (depth - 1) true record.empty rest
    else .error (wrongKind (c :: rest))

/-- Fills a draft from the members of a parsed object. -/
def fillMembers (fields : List (Field σ)) (draft : σ) : List (String × Json) → Option σ
  | [] => some draft
  | (key, value) :: rest =>
    match fields.find? (·.name == key) with
    | none => fillMembers fields draft rest
    | some field =>
      if field.filled draft then none
      else do
        let set ← field.ofJson value
        fillMembers fields (set draft) rest

/-- Fills a draft from the items of a parsed array. -/
def fillValues (draft : σ) : List (Field σ) → List Json → Option σ
  | [], [] => some draft
  | [], _ :: _ => none
  | field :: fields, [] => if field.mayEnd then fillValues draft fields [] else none
  | field :: fields, value :: rest => do
    let set ← field.ofJson value
    fillValues (set draft) fields rest

/-- Takes the structure from the members of an object. -/
def ofMembers (record : Record σ α) (members : List (String × Json)) : Option α := do
  let draft ← fillMembers record.fields record.empty members
  record.finish draft

/-- Takes the structure from an object or an array. -/
def ofJson (record : Record σ α) : Json → Option α
  | object members => record.ofMembers members
  | array items => do
    let draft ← fillValues record.empty record.fields items
    record.finish draft
  | _ => none

/-- The form of a structure, written as an object in the order of declaration. -/
def form (record : Record σ α) : Form α where
  read := record.read
  ofJson := record.ofJson
  toJson a := object (record.members a)

end Record

end MarketGateway.Json
