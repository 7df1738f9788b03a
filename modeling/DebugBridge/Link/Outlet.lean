import DebugBridge.Link.Frame

/-!
# Writing frames

An outlet writes frames to a byte stream. A frame that is too large is refused before anything is
written. The stream may take a frame in pieces, and it may fail; a frame whose write fails at the
start leaves no byte on the stream.
-/

namespace DebugBridge

/-- A failure that a write gives up at. A call that is only interrupted is made again instead. -/
structure WriteFailure where
  fault : StreamFault
  lasting : fault.kind ≠ .interrupted

/-- A byte stream that is written to. -/
structure Sink where
  /-- The failure that meets an attempt to write a frame, if one does, after so many attempts and so
  many frames that went out whole. -/
  fate : Nat → Nat → Option WriteFailure
  /-- The most bytes that a write call takes behind so many bytes, if there is such a bound. -/
  piece : Nat → Option Nat
  /-- The attempts made so far. -/
  attempts : Nat
  /-- The frames that have gone out whole. -/
  flushed : Nat
  /-- The bytes that reached the stream. -/
  written : Bytes

namespace Sink

/-- The failure of a link whose other end is gone. -/
def linkDown : WriteFailure := ⟨⟨.brokenPipe, "link down"⟩, by decide⟩

/-- The failure of a channel whose other end is gone. -/
def disconnected : WriteFailure := ⟨⟨.brokenPipe, "channel disconnected"⟩, by decide⟩

/-- A stream that never fails. -/
def reliable : Sink := ⟨fun _ _ => none, fun _ => none, 0, 0, []⟩

/-- From now on the stream accepts so many frames, then fails each time. A frame counts once it has
gone out whole. Without a budget the stream does not fail. -/
def withBudget (s : Sink) (budget : Option Nat) (failure : WriteFailure) : Sink :=
  { s with
    fate := fun _ flushed => match budget with
      | none => none
      | some b => if flushed < s.flushed + b then none else some failure }

/-- One write call: how many bytes are taken. -/
def take (s : Sink) (content : Bytes) : Nat :=
  match s.piece s.written.length with
  | none => content.length
  | some n => min n content.length

/-- Makes write calls until all bytes are taken. A call that takes nothing is a failure. Every
other call takes a byte at least, so the bytes bound the number of calls. -/
def writeAll : Nat → Sink → Bytes → Except StreamFault Unit × Sink
  | 0, s, _ => (.ok (), s)
  | calls + 1, s, content =>
    if content.isEmpty then (.ok (), s)
    else
      let n := s.take content
      if n = 0 then (.error ⟨.writeZero, "failed to write whole buffer"⟩, s)
      else writeAll calls { s with written := s.written ++ content.take n } (content.drop n)

/-- Writes one frame. -/
def writeFrame (s : Sink) (frame : Bytes) : Except StreamFault Unit × Sink :=
  let next := { s with attempts := s.attempts + 1 }
  match s.fate s.attempts s.flushed with
  | some failure => (.error failure.fault, next)
  | none =>
    match writeAll (frame.length + 1) next frame with
    | (.ok (), after) => (.ok (), { after with flushed := after.flushed + 1 })
    | failed => failed

end Sink

/-- The writing side of a link. -/
structure Outlet where
  limit : Nat
  sink : Sink
  /-- The payloads whose frames went out whole, in order. -/
  sent : List String

namespace Outlet

def ofSink (sink : Sink) (limit : Nat) : Outlet := ⟨limit, sink, []⟩

/-- Whether the outlet takes a payload on, so that its frame is tried at all. -/
def admits (o : Outlet) (payload : String) : Bool :=
  match Frame.encode o.limit payload with
  | .ok _ => true
  | .error _ => false

/-- Writes the frame of a payload. -/
def send (o : Outlet) (payload : String) : Except LinkFault Unit × Outlet :=
  match Frame.encode o.limit payload with
  | .error f => (.error f, o)
  | .ok frame =>
    match o.sink.writeFrame frame with
    | (.ok (), sink) => (.ok (), { o with sink, sent := o.sent ++ [payload] })
    | (.error f, sink) => (.error (.stream f), { o with sink })

/-- From now on the stream accepts so many frames; see `Sink.withBudget`. -/
def withBudget (o : Outlet) (budget : Option Nat) (failure : WriteFailure) : Outlet :=
  { o with sink := o.sink.withBudget budget failure }

/-- From now on nobody reads what is written. -/
def unplug (o : Outlet) : Outlet := o.withBudget (some 0) Sink.disconnected

end Outlet
end DebugBridge
