import MarketGateway.Json.Reader

/-!
# Reading a JSON value

`Json.parse` reads a whole text as one value. At most `maxDepth` containers may be open at once. The
members of an object come out sorted by key, and of members with one key the last is kept.
-/

namespace MarketGateway.Json

mutual

/-- Reads a value. Every step of the recursion takes from the fuel, and every two steps read a
character, so twice the length of the text is enough. -/
def readValue : Nat → Reader Json
  | 0, _, _ => .error .malformed
  | fuel + 1, depth, cs =>
    match skipBlank cs with
    | [] => .error .truncated
    | c :: rest =>
      if c = '[' then
        if depth = 0 then .error .malformed else readItems fuel (depth - 1) true [] rest
      else if c = '\x7b' then
        if depth = 0 then .error .malformed else readMembers fuel (depth - 1) true [] rest
      else if c = '"' then (stringRest rest).map fun (s, rest) => (string s, rest)
      else if c = 'n' then (expectWord ['u', 'l', 'l'] rest).map (null, ·)
      else if c = 't' then (expectWord ['r', 'u', 'e'] rest).map (bool true, ·)
      else if c = 'f' then (expectWord ['a', 'l', 's', 'e'] rest).map (bool false, ·)
      else if c = '-' then (readNumber true rest).map fun (n, rest) => (number n, rest)
      else if (digit? c).isSome then
        (readNumber false (c :: rest)).map fun (n, rest) => (number n, rest)
      else .error .malformed

/-- Reads the items of an array up to its closing bracket; `acc` holds them last first. -/
def readItems : Nat → Nat → Bool → List Json → List Char → Except Fault (Json × List Char)
  | 0, _, _, _, _ => .error .malformed
  | fuel + 1, depth, first, acc, cs =>
    match skipBlank cs with
    | [] => .error .truncated
    | c :: rest =>
      if c = ']' then .ok (array acc.reverse, rest)
      else if first = false ∧ c ≠ ',' then .error .malformed
      else
        let rest := if first then c :: rest else skipBlank rest
        if first = false ∧ rest.head? = some ']' then .error .malformed
        else match readValue fuel depth rest with
          | .ok (v, rest) => readItems fuel depth false (v :: acc) rest
          | .error fault => .error fault

/-- Reads the members of an object up to its closing brace. -/
def readMembers : Nat → Nat → Bool → List (String × Json) → List Char →
    Except Fault (Json × List Char)
  | 0, _, _, _, _ => .error .malformed
  | fuel + 1, depth, first, acc, cs =>
    match skipBlank cs with
    | [] => .error .truncated
    | c :: rest =>
      if c = '\x7d' then .ok (object acc, rest)
      else if first = false ∧ c ≠ ',' then .error .malformed
      else
        match (if first then c :: rest else skipBlank rest) with
        | [] => .error .truncated
        | q :: rest =>
          if q ≠ '"' then .error .malformed
          else match stringRest rest with
            | .error fault => .error fault
            | .ok (key, rest) =>
              match skipBlank rest with
              | [] => .error .truncated
              | colon :: rest =>
                if colon ≠ ':' then .error .malformed
                else match readValue fuel depth rest with
                  | .ok (v, rest) => readMembers fuel depth false (insert key v acc) rest
                  | .error fault => .error fault

end

/-- Reads a value of any kind. -/
def anyValue : Reader Json := fun depth cs => readValue (2 * cs.length + 2) depth cs

/-- Reads a whole text with a reader: only blanks may follow. -/
def readAll {α : Type} (reader : Reader α) (text : String) : Except Fault α :=
  match reader maxDepth text.toList with
  | .error fault => .error fault
  | .ok (value, rest) => if (skipBlank rest).isEmpty then .ok value else .error .malformed

/-- Reads a whole text as one value. -/
def parse (text : String) : Except Fault Json := readAll anyValue text

end MarketGateway.Json
