import MarketGateway.Digest.Sha256
import MarketGateway.Text.Utf8

/-!
# HMAC-SHA256

The keyed digest of RFC 2104 over SHA-256, written in lower-case hexadecimal.
-/

namespace MarketGateway.Digest

/-- A key as a block of 64 bytes: a longer one is replaced by its digest, and zeros fill up. -/
def keyBlock (key : List UInt8) : List UInt8 :=
  let key := if 64 < key.length then sha256 key else key
  key ++ List.replicate (64 - key.length) 0

/-- The keyed digest of a message. -/
def hmacSha256 (key message : List UInt8) : List UInt8 :=
  let block := keyBlock key
  sha256 (block.map (· ^^^ 0x5c) ++ sha256 (block.map (· ^^^ 0x36) ++ message))

def hexByte (b : UInt8) : List Char :=
  let digit := fun n => if n < 10 then Char.ofNat (0x30 + n) else Char.ofNat (0x61 + (n - 10))
  [digit (b.toNat / 16), digit (b.toNat % 16)]

/-- Bytes in hexadecimal. -/
def hex (bytes : List UInt8) : String := String.ofList (bytes.flatMap hexByte)

/-- The keyed digest of a text under a text, in hexadecimal. -/
def hmacText (key message : String) : String :=
  hex (hmacSha256 (Text.Utf8.bytes key) (Text.Utf8.bytes message))

end MarketGateway.Digest
