/-!
# UTF-8

`bytes` is the UTF-8 form of a text, `strict?` reads it back, and `lossy` reads any bytes, putting a
replacement character where they are no UTF-8.
-/

namespace MarketGateway.Text.Utf8

/-- The bytes of a text. -/
def bytes (s : String) : List UInt8 := s.toList.flatMap String.utf8EncodeChar

/-- The text whose bytes these are, if there is one. -/
def strict? (bs : List UInt8) : Option String := String.fromUTF8? (ByteArray.mk bs.toArray)

/-- After a leading byte: the number of bytes that must follow, the range of the first of them and
the bits that the leading byte holds. -/
structure Pending where
  missing : Nat
  low : Nat
  high : Nat
  value : Nat
  deriving Repr, DecidableEq

/-- What a leading byte announces. -/
def lead? (b : UInt8) : Option Pending :=
  let n := b.toNat
  if 0xc2 ≤ n ∧ n ≤ 0xdf then some ⟨1, 0x80, 0xbf, n - 0xc0⟩
  else if n = 0xe0 then some ⟨2, 0xa0, 0xbf, 0⟩
  else if n = 0xed then some ⟨2, 0x80, 0x9f, 0xd⟩
  else if 0xe1 ≤ n ∧ n ≤ 0xef then some ⟨2, 0x80, 0xbf, n - 0xe0⟩
  else if n = 0xf0 then some ⟨3, 0x90, 0xbf, 0⟩
  else if 0xf1 ≤ n ∧ n ≤ 0xf3 then some ⟨3, 0x80, 0xbf, n - 0xf0⟩
  else if n = 0xf4 then some ⟨3, 0x80, 0x8f, 4⟩
  else none

/-- Bytes as characters, with one replacement character for each longest piece that cannot begin or
go on a character. -/
def lossyChars : Option Pending → List UInt8 → List Char
  | none, [] => []
  | some _, [] => ['\ufffd']
  | none, b :: rest =>
    if b.toNat < 0x80 then Char.ofNat b.toNat :: lossyChars none rest
    else match lead? b with
      | some p => lossyChars (some p) rest
      | none => '\ufffd' :: lossyChars none rest
  | some p, b :: rest =>
    if p.low ≤ b.toNat ∧ b.toNat ≤ p.high then
      let value := p.value * 64 + (b.toNat - 0x80)
      if p.missing ≤ 1 then Char.ofNat value :: lossyChars none rest
      else lossyChars (some ⟨p.missing - 1, 0x80, 0xbf, value⟩) rest
    else if b.toNat < 0x80 then '\ufffd' :: Char.ofNat b.toNat :: lossyChars none rest
    else match lead? b with
      | some q => '\ufffd' :: lossyChars (some q) rest
      | none => '\ufffd' :: '\ufffd' :: lossyChars none rest

/-- The text that bytes stand for. -/
def lossy (bs : List UInt8) : String := String.ofList (lossyChars none bs)

end MarketGateway.Text.Utf8
