import MarketGateway.Text.Utf8

/-!
# Socket frames

The frames of a WebSocket connection, and how many bytes a frame takes up when a client sends it.
-/

namespace MarketGateway

/-- A frame as it is sent or received. -/
inductive Frame
  | text (content : String)
  | binary (bytes : List UInt8)
  | ping (data : List UInt8)
  | pong (data : List UInt8)
  | close
  deriving Repr, DecidableEq, Inhabited

namespace Frame

/-- Number of bytes that a frame carries. -/
def payloadSize : Frame → Nat
  | text content => (Text.Utf8.bytes content).length
  | binary bytes | ping bytes | pong bytes => bytes.length
  | close => 0

/-- Number of bytes of a whole frame: two bytes, the length where it needs more room, a mask of four
bytes, and what the frame carries. -/
def size (frame : Frame) : Nat :=
  let n := frame.payloadSize
  2 + (if n < 126 then 0 else if n < 65536 then 2 else 8) + 4 + n

end Frame

end MarketGateway
