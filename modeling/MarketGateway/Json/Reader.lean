import MarketGateway.Json

/-!
# Reading the pieces of a JSON text

A reader takes the characters that are left and gives what it read with the rest, or the first
fault that it meets (`Json.Fault`). This module holds the readers of words, strings and numbers, and
`skipValue`, which passes over a value without looking at the meaning of its strings and numbers.

Numbers without a fraction or an exponent are whole numbers as long as they fit 64 bits, except for
`-0`. Any other number is its first digits, as many as fit 64 bits unsigned, scaled by a power of
ten in double precision.
-/

namespace MarketGateway.Json

/-- What is wrong with a text: it breaks the grammar, it ends early, or it is well formed so far and
not of the wanted shape. -/
inductive Fault
  | malformed
  | truncated
  | mismatched
  deriving Repr, DecidableEq, Inhabited

/-- Reads from the characters left, with so many containers allowed to be opened still. -/
abbrev Reader (α : Type) := Nat → List Char → Except Fault (α × List Char)

/-- How many containers may be open at once. -/
def maxDepth : Nat := 127

def isBlank (c : Char) : Bool := c == ' ' || c == '\n' || c == '\t' || c == '\r'

/-- The characters left after blanks. -/
def skipBlank (cs : List Char) : List Char := cs.dropWhile isBlank

/-- The characters left after the rest of a word such as `null`. -/
def expectWord : List Char → List Char → Except Fault (List Char)
  | [], rest => .ok rest
  | _ :: _, [] => .error .truncated
  | w :: word, c :: rest => if c = w then expectWord word rest else .error .malformed

/-! ## Strings -/

/-- Value of a hexadecimal digit. -/
def hexValue? (c : Char) : Option Nat :=
  let n := c.toNat
  if 0x30 ≤ n ∧ n ≤ 0x39 then some (n - 0x30)
  else if 0x41 ≤ n ∧ n ≤ 0x46 then some (n - 0x41 + 10)
  else if 0x61 ≤ n ∧ n ≤ 0x66 then some (n - 0x61 + 10)
  else none

/-- Where the reader stands inside a string: after a plain character, after a backslash, inside the
four digits of a code unit, or between the two halves of a surrogate pair. `high` is the first half,
or zero. -/
inductive StringState
  | plain
  | escape
  | unit (high : Nat) (digits value : Nat)
  | pairEscape (high : Nat)
  | pairUnit (high : Nat)
  deriving Repr, DecidableEq

/-- The character that an escape letter stands for. -/
def escapeLetter? (c : Char) : Option Char :=
  if c = '"' ∨ c = '\\' ∨ c = '/' then some c
  else if c = 'b' then some '\x08'
  else if c = 'f' then some '\x0c'
  else if c = 'n' then some '\n'
  else if c = 'r' then some '\r'
  else if c = 't' then some '\t'
  else none

/-- Whether fewer bytes are left than `n`. -/
def bytesBelow (n : Nat) : List Char → Bool
  | [] => 0 < n
  | c :: rest => c.utf8Size < n && bytesBelow (n - c.utf8Size) rest

/-- A code unit whose digits are not all hexadecimal: the text ends early when fewer than four bytes
follow the escape. -/
def badUnit (digits : Nat) (left : List Char) : Fault :=
  if bytesBelow (4 - digits) left then .truncated else .malformed

/-- Reads a string up to its closing quote; `acc` holds the characters read, last first. -/
def readString : StringState → List Char → List Char → Except Fault (String × List Char)
  | _, _, [] => .error .truncated
  | .plain, acc, c :: rest =>
    if c = '"' then .ok (String.ofList acc.reverse, rest)
    else if c = '\\' then readString .escape acc rest
    else if c.toNat < 32 then .error .malformed
    else readString .plain (c :: acc) rest
  | .escape, acc, c :: rest =>
    if c = 'u' then readString (.unit 0 0 0) acc rest
    else match escapeLetter? c with
      | some d => readString .plain (d :: acc) rest
      | none => .error .malformed
  | .unit high digits value, acc, c :: rest =>
    match hexValue? c with
    | none => .error (badUnit digits (c :: rest))
    | some d =>
      let value := value * 16 + d
      if digits < 3 then readString (.unit high (digits + 1) value) acc rest
      else if high = 0 then
        if 0xdc00 ≤ value ∧ value ≤ 0xdfff then .error .malformed
        else if 0xd800 ≤ value ∧ value ≤ 0xdbff then readString (.pairEscape value) acc rest
        else readString .plain (Char.ofNat value :: acc) rest
      else if 0xdc00 ≤ value ∧ value ≤ 0xdfff then
        let code := 0x10000 + (high - 0xd800) * 0x400 + (value - 0xdc00)
        readString .plain (Char.ofNat code :: acc) rest
      else .error .malformed
  | .pairEscape high, acc, c :: rest =>
    if c = '\\' then readString (.pairUnit high) acc rest else .error .malformed
  | .pairUnit high, acc, c :: rest =>
    if c = 'u' then readString (.unit high 0 0) acc rest else .error .malformed

/-- Reads the rest of a string after its opening quote. -/
def stringRest (cs : List Char) : Except Fault (String × List Char) := readString .plain [] cs

/-- Passes over a string; halves of surrogate pairs may stand alone here. -/
def skipString : StringState → List Char → Except Fault (List Char)
  | _, [] => .error .truncated
  | .escape, c :: rest =>
    if c = 'u' then skipString (.unit 0 0 0) rest
    else match escapeLetter? c with
      | some _ => skipString .plain rest
      | none => .error .malformed
  | .unit high digits value, c :: rest =>
    match hexValue? c with
    | none => .error (badUnit digits (c :: rest))
    | some d =>
      if digits < 3 then skipString (.unit high (digits + 1) (value * 16 + d)) rest
      else skipString .plain rest
  | _, c :: rest =>
    if c = '"' then .ok rest
    else if c = '\\' then skipString .escape rest
    else if c.toNat < 32 then .error .malformed
    else skipString .plain rest

/-! ## Numbers -/

def digit? (c : Char) : Option Nat :=
  if '0' ≤ c ∧ c ≤ '9' then some (c.toNat - '0'.toNat) else none

/-- The characters left after a run of digits. -/
def skipDigits : List Char → List Char
  | [] => []
  | c :: rest => if (digit? c).isSome then skipDigits rest else c :: rest

def startsWithDigit : List Char → Bool
  | [] => false
  | c :: _ => (digit? c).isSome

/-- First value past the significands that fit 64 bits. -/
def significandLimit : Nat := Nat.pow 2 64

/-- Reads digits while the significand fits. The result is the significand, the number of digits
read, and the rest; the rest starts with a digit only if that digit does not fit. -/
def readDigits (significand count : Nat) : List Char → Nat × Nat × List Char
  | [] => (significand, count, [])
  | c :: rest =>
    match digit? c with
    | some d =>
      if significand * 10 + d < significandLimit then
        readDigits (significand * 10 + d) (count + 1) rest
      else (significand, count, c :: rest)
    | none => (significand, count, c :: rest)

/-- Largest power of ten by which a double is scaled in one step. -/
def maxPower : Nat := 308

def powerOfTen (n : Nat) : Binary64 := Binary64.ofNat (Nat.pow 10 n)

/-- Scales a double by a negative power of ten, at most `10 ^ -308` at a time. -/
def scaleDown : Nat → Binary64 → Nat → Binary64
  | 0, x, _ => x
  | fuel + 1, x, n =>
    if n ≤ maxPower then x.div (powerOfTen n)
    else if x = Binary64.zero then x
    else scaleDown fuel (x.div (powerOfTen maxPower)) (n - maxPower)

/-- A significand scaled by a power of ten; a result past the finite doubles is a fault. -/
def scaledReal (negative : Bool) (significand : Nat) (exponent : Int) : Except Fault Binary64 :=
  let x := Binary64.ofNat significand
  let signed := fun (y : Binary64) => if negative then y.neg else y
  if 0 ≤ exponent then
    if exponent.toNat ≤ maxPower then
      match x.mul (powerOfTen exponent.toNat) with
      | .infinite _ => .error .malformed
      | y => .ok (signed y)
    else if significand = 0 then .ok (signed x)
    else .error .malformed
  else .ok (signed (scaleDown 8 x (-exponent).toNat))

/-- First exponent that is not read any further. -/
def exponentLimit : Nat := Nat.pow 2 31

/-- Brings a sum of exponents into the range of 32 bits. -/
def clampExponent (e : Int) : Int :=
  max (-(exponentLimit : Int)) (min e ((exponentLimit : Int) - 1))

/-- Reads the digits of an exponent; `none` when they pass the limit. -/
def exponentDigits (value : Nat) : List Char → Option Nat × List Char
  | [] => (some value, [])
  | c :: rest =>
    match digit? c with
    | some d =>
      if value * 10 + d < exponentLimit then exponentDigits (value * 10 + d) rest
      else (none, skipDigits rest)
    | none => (some value, c :: rest)

/-- Reads what follows an exponent mark. -/
def exponentPart (negative : Bool) (significand : Nat) (start : Int) (cs : List Char) :
    Except Fault (Binary64 × List Char) :=
  let (down, cs) :=
    match cs with
    | '+' :: rest => (false, rest)
    | '-' :: rest => (true, rest)
    | rest => (false, rest)
  match cs with
  | [] => .error .truncated
  | c :: _ =>
    if (digit? c).isNone then .error .malformed
    else match exponentDigits 0 cs with
      | (some e, rest) =>
        let total := clampExponent (if down then start - e else start + e)
        (scaledReal negative significand total).map (·, rest)
      | (none, rest) =>
        if significand ≠ 0 ∧ down = false then .error .malformed
        else .ok (if negative then Binary64.zero.neg else Binary64.zero, rest)

def isExponentMark (c : Char) : Bool := c == 'e' || c == 'E'

/-- Goes on after the digits of a number that is not whole. -/
def realEnd (negative : Bool) (significand : Nat) (exponent : Int) (cs : List Char) :
    Except Fault (Binary64 × List Char) :=
  match cs with
  | c :: rest =>
    if isExponentMark c then exponentPart negative significand exponent rest
    else (scaledReal negative significand exponent).map (·, c :: rest)
  | [] => (scaledReal negative significand exponent).map (·, [])

/-- Reads what follows a decimal point. -/
def fractionPart (negative : Bool) (significand : Nat) (start : Int) (cs : List Char) :
    Except Fault (Binary64 × List Char) :=
  match readDigits significand 0 cs with
  | (significand, count, rest) =>
    if startsWithDigit rest then realEnd negative significand (start - count) (skipDigits rest)
    else if count = 0 then .error (if rest.isEmpty then .truncated else .malformed)
    else realEnd negative significand (start - count) rest

/-- Goes on after whole digits that do not fit: the digits left only count. -/
def longWhole (negative : Bool) (significand : Nat) (cs : List Char) :
    Except Fault (Binary64 × List Char) :=
  let rest := skipDigits cs
  let extra : Int := (cs.length : Int) - rest.length
  match rest with
  | '.' :: after => fractionPart negative significand extra after
  | _ => realEnd negative significand extra rest

/-- The number whose whole digits have this value. -/
def wholeNumber (negative : Bool) (significand : Nat) : Number :=
  if negative then
    if significand = 0 ∨ Nat.pow 2 63 < significand then .real (Binary64.ofNat significand).neg
    else .whole (-(significand : Int))
  else .whole significand

/-- Reads a number whose sign was already read. -/
def readNumber (negative : Bool) (cs : List Char) : Except Fault (Number × List Char) :=
  match cs with
  | [] => .error .truncated
  | c :: after =>
    if (digit? c).isNone then .error .malformed
    else if c = '0' ∧ startsWithDigit after then .error .malformed
    else match readDigits 0 0 cs with
      | (significand, _, rest) =>
        if startsWithDigit rest then
          (longWhole negative significand rest).map fun (x, rest) => (.real x, rest)
        else match rest with
          | '.' :: after =>
            (fractionPart negative significand 0 after).map fun (x, rest) => (.real x, rest)
          | c :: after =>
            if isExponentMark c then
              (exponentPart negative significand 0 after).map fun (x, rest) => (.real x, rest)
            else .ok (wholeNumber negative significand, rest)
          | [] => .ok (wholeNumber negative significand, [])

/-- Passes over the digits of an exponent. -/
def skipExponent (cs : List Char) : Except Fault (List Char) :=
  let cs := match cs with
    | '+' :: rest => rest
    | '-' :: rest => rest
    | rest => rest
  if startsWithDigit cs then .ok (skipDigits cs) else .error .malformed

/-- Passes over a number whose sign was already read, without working out its value. -/
def skipNumber (cs : List Char) : Except Fault (List Char) :=
  if !startsWithDigit cs then .error .malformed
  else if cs.head? = some '0' ∧ startsWithDigit cs.tail then .error .malformed
  else
    match skipDigits cs with
    | '.' :: after =>
      if !startsWithDigit after then .error .malformed
      else match skipDigits after with
        | c :: rest => if isExponentMark c then skipExponent rest else .ok (c :: rest)
        | [] => .ok []
    | c :: rest => if isExponentMark c then skipExponent rest else .ok (c :: rest)
    | [] => .ok []

/-! ## Passing over a value -/

/-- An open container. -/
inductive Frame
  | array
  | object
  deriving Repr, DecidableEq

/-- What comes next while passing over a value: a value, an item or member of the innermost
container that was just opened, or what may follow a finished value. -/
inductive SkipState
  | value
  | opened
  | after
  deriving Repr, DecidableEq

/-- Passes over the key of a member and its colon, up to the value. -/
def skipKey (cs : List Char) : Except Fault (List Char) :=
  match skipBlank cs with
  | [] => .error .truncated
  | c :: rest =>
    if c = '"' then do
      let rest ← skipString .plain rest
      match skipBlank rest with
      | [] => .error .truncated
      | c :: rest => if c = ':' then .ok rest else .error .malformed
    else .error .malformed

/-- Passes over a value inside the open containers of `stack`, innermost first. -/
def skip : Nat → SkipState → List Frame → List Char → Except Fault (List Char)
  | 0, _, _, _ => .error .malformed
  | fuel + 1, .value, stack, cs =>
    match skipBlank cs with
    | [] => .error .truncated
    | c :: rest =>
      if c = '[' then skip fuel .opened (.array :: stack) rest
      else if c = '\x7b' then skip fuel .opened (.object :: stack) rest
      else
        let finished :=
          if c = 'n' then expectWord ['u', 'l', 'l'] rest
          else if c = 't' then expectWord ['r', 'u', 'e'] rest
          else if c = 'f' then expectWord ['a', 'l', 's', 'e'] rest
          else if c = '"' then skipString .plain rest
          else if c = '-' then skipNumber rest
          else if (digit? c).isSome then skipNumber (c :: rest)
          else .error .malformed
        match finished with
        | .ok rest => skip fuel .after stack rest
        | .error fault => .error fault
  | _ + 1, .after, [], cs => .ok cs
  | _ + 1, .opened, [], cs => .ok cs
  | fuel + 1, state, frame :: stack, cs =>
    match skipBlank cs with
    | [] => .error .truncated
    | c :: rest =>
      if (frame = .array ∧ c = ']') ∨ (frame = .object ∧ c = '\x7d') then
        skip fuel .after stack rest
      else if state = .after ∧ c ≠ ',' then .error .malformed
      else
        let rest := if state = .after then rest else c :: rest
        match frame with
        | .array => skip fuel .value (.array :: stack) rest
        | .object =>
          match skipKey rest with
          | .ok rest => skip fuel .value (.object :: stack) rest
          | .error fault => .error fault

/-- The characters left after a value of any kind. -/
def skipValue (cs : List Char) : Except Fault (List Char) := skip (2 * cs.length + 2) .value [] cs

end MarketGateway.Json
