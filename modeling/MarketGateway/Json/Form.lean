import MarketGateway.Json.Parser

/-!
# Forms of values in messages

A `Form α` says how values of a type are written in JSON: how one is read from a text as it streams
(`read`), how one is taken from a value that was already parsed (`ofJson`), how one is written
(`toJson`), and what a member of an object means that is left out (`absent`). Reading from a text
stops at the first fault, so a wrong shape ahead of a grammatical fault is reported as a wrong
shape. This module holds the forms of single values, lists and pairs; `Json.Record` and
`Json.Variant` build those of structures and of alternatives.
-/

namespace MarketGateway.Json

/-- How values of a type are written. -/
structure Form (α : Type) where
  read : Reader α
  ofJson : Json → Option α
  toJson : α → Json
  absent : Option α := none

/-- The fault of a value that is not of the wanted kind: a scalar is read to its end first, so a
grammatical fault in it comes before the wrong kind. -/
def wrongKind (cs : List Char) : Fault :=
  match cs with
  | [] => .truncated
  | c :: rest =>
    let fault {α : Type} (outcome : Except Fault α) : Fault :=
      match outcome with
      | .ok _ => .mismatched
      | .error fault => fault
    if c = 'n' then fault (expectWord ['u', 'l', 'l'] rest)
    else if c = 't' then fault (expectWord ['r', 'u', 'e'] rest)
    else if c = 'f' then fault (expectWord ['a', 'l', 's', 'e'] rest)
    else if c = '-' then fault (readNumber true rest)
    else if (digit? c).isSome then fault (readNumber false (c :: rest))
    else if c = '"' then fault (stringRest rest)
    else if c = '[' ∨ c = '\x7b' then .mismatched
    else .malformed

/-- A value of a string that is taken only if `convert` accepts it. -/
def readText {α : Type} (convert : String → Option α) : Reader α := fun _ cs =>
  match skipBlank cs with
  | [] => .error .truncated
  | c :: rest =>
    if c = '"' then
      match stringRest rest with
      | .error fault => .error fault
      | .ok (s, rest) =>
        match convert s with
        | some a => .ok (a, rest)
        | none => .error .mismatched
    else .error (wrongKind (c :: rest))

namespace Form

/-- Texts, or what `convert` makes of them. -/
def converted {α : Type} (convert : String → Option α) (write : α → String) : Form α where
  read := readText convert
  ofJson v := v.text?.bind convert
  toJson a := string (write a)

def text : Form String := converted some id

/-- Whole numbers that `convert` accepts. -/
def whole {α : Type} (convert : Int → Option α) (write : α → Int) : Form α where
  read _ cs :=
    let finish (outcome : Except Fault (Number × List Char)) : Except Fault (α × List Char) :=
      match outcome with
      | .error fault => .error fault
      | .ok (.whole n, rest) =>
        match convert n with
        | some a => .ok (a, rest)
        | none => .error .mismatched
      | .ok (.real _, _) => .error .mismatched
    match skipBlank cs with
    | [] => .error .truncated
    | c :: rest =>
      if c = '-' then finish (readNumber true rest)
      else if (digit? c).isSome then finish (readNumber false (c :: rest))
      else .error (wrongKind (c :: rest))
  ofJson
    | number (.whole n) => convert n
    | _ => none
  toJson a := int (write a)

/-- Whole numbers of 64 bits with a sign. -/
def int64 : Form Int64 :=
  whole (fun n =>
      if -0x8000000000000000 ≤ n ∧ n < 0x8000000000000000 then some (Int64.ofInt n) else none)
    Int64.toInt

/-- Whole numbers of 64 bits without a sign. -/
def uint64 : Form UInt64 :=
  whole (fun n => if 0 ≤ n ∧ n < 0x10000000000000000 then some (UInt64.ofNat n.toNat) else none)
    (fun n => n.toNat)

def uint32 : Form UInt32 :=
  whole (fun n => if 0 ≤ n ∧ n < 0x100000000 then some (UInt32.ofNat n.toNat) else none)
    (fun n => n.toNat)

def uint16 : Form UInt16 :=
  whole (fun n => if 0 ≤ n ∧ n < 0x10000 then some (UInt16.ofNat n.toNat) else none)
    (fun n => n.toNat)

/-- Truth values. -/
def flag : Form Bool where
  read _ cs :=
    match skipBlank cs with
    | [] => .error .truncated
    | c :: rest =>
      if c = 't' then (expectWord ['r', 'u', 'e'] rest).map (true, ·)
      else if c = 'f' then (expectWord ['a', 'l', 's', 'e'] rest).map (false, ·)
      else .error (wrongKind (c :: rest))
  ofJson
    | bool b => some b
    | _ => none
  toJson := bool

/-- Values of any kind. -/
def any : Form Json where
  read := anyValue
  ofJson := some
  toJson := id

/-- A value or `null`; a member that is left out counts as `null`. -/
def optional {α : Type} (form : Form α) : Form (Option α) where
  read depth cs :=
    match skipBlank cs with
    | 'n' :: rest => (expectWord ['u', 'l', 'l'] rest).map (none, ·)
    | cs => (form.read depth cs).map fun (a, rest) => (some a, rest)
  ofJson
    | null => some none
    | v => (form.ofJson v).map some
  toJson a := Json.optional (a.map form.toJson)
  absent := some none

/-- The form with a value for a member that is left out. -/
def orElse {α : Type} (form : Form α) (value : α) : Form α := { form with absent := some value }

/-- The form without leave to omit the member. -/
def required {α : Type} (form : Form α) : Form α := { form with absent := none }

/-- The form of values that stand for others one to one. -/
def mapped {α β : Type} (form : Form α) (there : α → β) (back : β → α) : Form β where
  read depth cs := (form.read depth cs).map fun (a, rest) => (there a, rest)
  ofJson v := (form.ofJson v).map there
  toJson b := form.toJson (back b)
  absent := form.absent.map there

end Form

/-! ## Arrays -/

/-- Whether an array goes on: the characters of the next item, or `none` at the closing bracket,
which is left in place. -/
def nextItem (first : Bool) (cs : List Char) : Except Fault (Option (List Char) × List Char) :=
  match skipBlank cs with
  | [] => .error .truncated
  | c :: rest =>
    if c = ']' then .ok (none, c :: rest)
    else if first then .ok (some (c :: rest), c :: rest)
    else if c = ',' then
      match skipBlank rest with
      | [] => .error .truncated
      | d :: rest => if d = ']' then .error .malformed else .ok (some (d :: rest), d :: rest)
    else .error .malformed

/-- The closing bracket of an array whose items were all read. -/
def endItems (cs : List Char) : Except Fault (List Char) :=
  match skipBlank cs with
  | [] => .error .truncated
  | c :: rest => if c = ']' then .ok rest else .error .malformed

/-- Reads items up to the closing bracket; `acc` holds them last first. -/
def readListItems {α : Type} (item : Reader α) :
    Nat → Nat → Bool → List α → List Char → Except Fault (List α × List Char)
  | 0, _, _, _, _ => .error .malformed
  | fuel + 1, depth, first, acc, cs =>
    match nextItem first cs with
    | .error fault => .error fault
    | .ok (none, rest) => (endItems rest).map (acc.reverse, ·)
    | .ok (some rest, _) =>
      match item depth rest with
      | .error fault => .error fault
      | .ok (a, rest) => readListItems item fuel depth false (a :: acc) rest

/-- Opens an array and reads what is inside it. -/
def insideArray {α : Type} (inside : Reader α) : Reader α := fun depth cs =>
  match skipBlank cs with
  | [] => .error .truncated
  | c :: rest =>
    if c = '[' then
      if depth = 0 then .error .malformed else inside (depth - 1) rest
    else .error (wrongKind (c :: rest))

/-- Collects the images of a list, if there is one for every item. -/
def allSome {α β : Type} (f : α → Option β) : List α → Option (List β)
  | [] => some []
  | a :: rest => do
    let b ← f a
    let bs ← allSome f rest
    return b :: bs

namespace Form

/-- Arrays of any length. -/
def list {α : Type} (form : Form α) : Form (List α) where
  read := insideArray fun depth cs => readListItems form.read (cs.length + 1) depth true [] cs
  ofJson
    | array items => allSome form.ofJson items
    | _ => none
  toJson items := array (items.map form.toJson)

/-- Arrays of exactly two items. -/
def pair {α : Type} (form : Form α) : Form (α × α) where
  read := insideArray fun depth cs =>
    match nextItem true cs with
    | .error fault => .error fault
    | .ok (none, _) => .error .mismatched
    | .ok (some rest, _) =>
      match form.read depth rest with
      | .error fault => .error fault
      | .ok (a, rest) =>
        match nextItem false rest with
        | .error fault => .error fault
        | .ok (none, _) => .error .mismatched
        | .ok (some rest, _) =>
          match form.read depth rest with
          | .error fault => .error fault
          | .ok (b, rest) => (endItems rest).map ((a, b), ·)
  ofJson
    | array [a, b] => do return (← form.ofJson a, ← form.ofJson b)
    | _ => none
  toJson p := array [form.toJson p.1, form.toJson p.2]

end Form

end MarketGateway.Json
