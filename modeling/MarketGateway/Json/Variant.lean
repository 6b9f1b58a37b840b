import MarketGateway.Json.Record

/-!
# Forms of alternatives

An alternative without content is its name, or an object whose only member has that name and the
value `null`. An alternative with content is an object whose only member has its name and the
content as value.
-/

namespace MarketGateway.Json

/-- One alternative: how its content is read, and its value when it has none. -/
structure Variant (α : Type) where
  name : String
  bare : Option α
  read : Reader α
  ofJson : Json → Option α

namespace Variant

/-- Reads `null`. -/
def readNull {α : Type} (a : α) : Reader α := fun _ cs =>
  match skipBlank cs with
  | [] => .error .truncated
  | c :: rest =>
    if c = 'n' then (expectWord ['u', 'l', 'l'] rest).map (a, ·)
    else .error (wrongKind (c :: rest))

/-- An alternative without content. -/
def plain {α : Type} (name : String) (a : α) : Variant α where
  name := name
  bare := some a
  read := readNull a
  ofJson
    | null => some a
    | _ => none

/-- An alternative whose content has a form of its own. -/
def holding {α β : Type} (name : String) (form : Form β) (make : β → α) : Variant α where
  name := name
  bare := none
  read depth cs := (form.read depth cs).map fun (b, rest) => (make b, rest)
  ofJson v := (form.ofJson v).map make

/-- An alternative with named fields of its own. A parsed array does not stand for them. -/
def fields {α σ : Type} (name : String) (record : Record σ α) : Variant α where
  name := name
  bare := none
  read := record.read
  ofJson
    | object members => record.ofMembers members
    | _ => none

variable {α : Type}

def find? (variants : List (Variant α)) (name : String) : Option (Variant α) :=
  variants.find? (·.name == name)

/-- The closing brace behind the content. -/
def close (cs : List Char) : Except Fault (List Char) :=
  match skipBlank cs with
  | [] => .error .truncated
  | c :: rest => if c = '\x7d' then .ok rest else .error .malformed

/-- Reads one of the alternatives. -/
def readOne (variants : List (Variant α)) : Reader α := fun depth cs =>
  match skipBlank cs with
  | [] => .error .truncated
  | c :: rest =>
    if c = '\x7b' then
      if depth = 0 then .error .malformed
      else
        match readText (find? variants) (depth - 1) rest with
        | .error fault => .error fault
        | .ok (variant, rest) => do
          let rest ← Record.colon rest
          let (a, rest) ← variant.read (depth - 1) rest
          let rest ← close rest
          return (a, rest)
    else if c = '"' then readText (fun s => (find? variants s).bind (·.bare)) depth (c :: rest)
    else .error .malformed

/-- Takes one of the alternatives from a parsed value. -/
def ofJsonOne (variants : List (Variant α)) : Json → Option α
  | string s => (find? variants s).bind (·.bare)
  | object [(name, value)] => do
    let variant ← find? variants name
    variant.ofJson value
  | _ => none

/-- The form of a choice between alternatives. -/
def form (variants : List (Variant α)) (toJson : α → Json) : Form α where
  read := readOne variants
  ofJson := ofJsonOne variants
  toJson := toJson

/-- The form of a choice between names. -/
def names (all : List α) (name : α → String) : Form α :=
  form (all.map fun a => plain (name a) a) (fun a => string (name a))

end Variant

end MarketGateway.Json
