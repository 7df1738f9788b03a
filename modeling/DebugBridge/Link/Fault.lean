import DebugBridge.Text.Quoted
import DebugBridge.Text.Span
import DebugBridge.Text.Utf8

/-!
# Faults of a link

What can go wrong while frames are read and written, with the wording of each case. A fault that
has a cause of its own shows it again when a chain of causes is spelled out.
-/

namespace DebugBridge

/-- The kinds of failure that a byte stream reports. -/
inductive StreamFault.Kind where
  | interrupted
  | wouldBlock
  | timedOut
  | brokenPipe
  | connectionReset
  | connectionAborted
  | unexpectedEnd
  | permissionDenied
  | writeZero
  | invalidData
  | other
  deriving Repr, DecidableEq

/-- A failure that a byte stream reports. -/
structure StreamFault where
  kind : StreamFault.Kind
  text : String
  deriving Repr, DecidableEq

namespace StreamFault

/-- Failures of a read after which the read is made again. -/
def isTransient (f : StreamFault) : Bool :=
  f.kind = .interrupted || f.kind = .wouldBlock || f.kind = .timedOut

/-- Failures that show that the peer is gone. -/
def isDisconnect (f : StreamFault) : Bool :=
  f.kind = .brokenPipe || f.kind = .connectionReset || f.kind = .connectionAborted
    || f.kind = .unexpectedEnd

end StreamFault

/-- A fault of a link. -/
inductive LinkFault where
  /-- The byte stream failed. -/
  | stream (fault : StreamFault)
  /-- The four bytes behind the length are not the tag of a frame. -/
  | badTag (found : Bytes)
  /-- The declared length does not cover the header. -/
  | badLength (declared : Nat)
  /-- The frame is larger than the limit. -/
  | tooLarge (size limit : Nat)
  /-- The payload is no text. -/
  | notText (fault : Text.Fault)
  /-- The stream ended inside a frame. -/
  | truncated (pending : Nat)
  /-- The stream ended between frames. -/
  | closed
  /-- The peers do not agree on a protocol version. -/
  | greeting (expected received : String)
  /-- Nothing came in time. -/
  | timeout (milliseconds : Nat)
  deriving Repr, DecidableEq

namespace LinkFault

/-- The four bytes that follow the length of a frame. -/
def tag : Bytes := [82, 73, 68, 69]

/-- The text of a byte list. -/
def byteList (b : Bytes) : String := "[" ++ ", ".intercalate (b.map toString) ++ "]"

/-- The wording of a fault. -/
def message : LinkFault → String
  | stream f => s!"I/O error: {f.text}"
  | badTag found => s!"bad magic tag {byteList found}, expected {byteList tag}"
  | badLength n => s!"declared frame length {n} is shorter than the 8 byte header"
  | tooLarge size limit => s!"frame size {size} exceeds maximum allowed {limit}"
  | notText _ => "frame payload is not valid UTF-8"
  | truncated n => s!"stream closed with {n} bytes of an incomplete frame buffered"
  | closed => "connection closed"
  | greeting expected received =>
    "handshake failed: expected " ++ Text.quoted expected ++ ", received " ++ Text.quoted received
  | timeout ms => s!"timed out after {Text.span ms} waiting for a frame"

/-- The wordings of a fault and of its cause, outermost first. -/
def chain (f : LinkFault) : List String :=
  match f with
  | stream s => [f.message, s.text]
  | notText t => [f.message, t.message]
  | _ => [f.message]

/-- Whether the fault shows that the peer is gone. -/
def isDisconnect : LinkFault → Bool
  | closed | truncated _ => true
  | stream f => f.isDisconnect
  | _ => false

end LinkFault
end DebugBridge
