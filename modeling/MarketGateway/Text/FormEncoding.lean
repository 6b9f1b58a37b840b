import MarketGateway.Text.Utf8

/-!
# Form encoding

Pairs of texts as one line of `key=value` items joined by `&`: letters, digits and `*-._` stand for
themselves, a space is a plus sign, and every other byte of the UTF-8 form is a percent sign and
two hexadecimal digits. `decode` reads such a line back; it is lenient, so a percent sign without
two digits stands for itself and bytes that are no UTF-8 become replacement characters.
-/

namespace MarketGateway.Text.FormEncoding

/-- Whether a byte stands for itself. -/
def isPlain (b : UInt8) : Bool :=
  let n := b.toNat
  (0x30 ≤ n && n ≤ 0x39) || (0x41 ≤ n && n ≤ 0x5a) || (0x61 ≤ n && n ≤ 0x7a) ||
    n == 0x2a || n == 0x2d || n == 0x2e || n == 0x5f

/-- Upper-case hexadecimal digit of a value below sixteen. -/
def hexDigit (n : Nat) : Char :=
  if n < 10 then Char.ofNat (0x30 + n) else Char.ofNat (0x41 + (n - 10))

/-- One byte as it is written. -/
def encodeByte (b : UInt8) : List Char :=
  if isPlain b then [Char.ofNat b.toNat]
  else if b.toNat = 0x20 then ['+']
  else ['%', hexDigit (b.toNat / 16), hexDigit (b.toNat % 16)]

/-- A text as it is written on either side of an equals sign. -/
def encodeText (s : String) : List Char := (Utf8.bytes s).flatMap encodeByte

/-- One `key=value` item. -/
def encodePair (pair : String × String) : List Char :=
  encodeText pair.1 ++ '=' :: encodeText pair.2

/-- The items of a list of pairs, joined by `&`. -/
def encodePairs : List (String × String) → List Char
  | [] => []
  | [pair] => encodePair pair
  | pair :: rest => encodePair pair ++ '&' :: encodePairs rest

/-- The line of a list of pairs. -/
def encode (pairs : List (String × String)) : String := String.ofList (encodePairs pairs)

/-- Value of a hexadecimal digit of either case. -/
def hexValue? (b : UInt8) : Option Nat :=
  let n := b.toNat
  if 0x30 ≤ n ∧ n ≤ 0x39 then some (n - 0x30)
  else if 0x41 ≤ n ∧ n ≤ 0x46 then some (n - 0x41 + 10)
  else if 0x61 ≤ n ∧ n ≤ 0x66 then some (n - 0x61 + 10)
  else none

/-- The bytes that an encoded item stands for. -/
def decodeBytes : List UInt8 → List UInt8
  | [] => []
  | [b] => if b = 0x2b then [0x20] else [b]
  | [b, c] => (if b = 0x2b then 0x20 else b) :: decodeBytes [c]
  | b :: high :: low :: rest =>
    if b = 0x2b then 0x20 :: decodeBytes (high :: low :: rest)
    else if b = 0x25 then
      match hexValue? high, hexValue? low with
      | some h, some l => UInt8.ofNat (h * 16 + l) :: decodeBytes rest
      | _, _ => b :: decodeBytes (high :: low :: rest)
    else b :: decodeBytes (high :: low :: rest)

/-- The two sides of an item; an item without an equals sign has an empty value. -/
def splitPair (item : List UInt8) : List UInt8 × List UInt8 :=
  (item.takeWhile (· != 0x3d), (item.dropWhile (· != 0x3d)).drop 1)

/-- The items between ampersands, empty ones left out. -/
def items (bytes : List UInt8) : List (List UInt8) :=
  (bytes.splitOn 0x26).filter (!·.isEmpty)

/-- The pair of texts that an item stands for. -/
def decodePair (item : List UInt8) : String × String :=
  let sides := splitPair item
  (Utf8.lossy (decodeBytes sides.1), Utf8.lossy (decodeBytes sides.2))

/-- Reads a line of items back into pairs. -/
def decode (line : String) : List (String × String) :=
  (items (Utf8.bytes line)).map decodePair

end MarketGateway.Text.FormEncoding
