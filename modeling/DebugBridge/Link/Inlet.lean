import DebugBridge.Link.Frame

/-!
# Reading frames

An inlet reads frames from a byte stream. The stream is what its read calls will give, in order,
and how it goes on after them. Bytes that were read stay in the buffer until their frame is
complete, so a wait that runs out loses nothing.
-/

namespace DebugBridge

/-- What one read call gives. -/
inductive Read where
  | bytes (content : Bytes)
  | fault (fault : StreamFault)
  deriving Repr, DecidableEq

namespace Read

/-- The bytes that a read gives. -/
def content : Read → Bytes
  | bytes content => content
  | fault _ => []

/-- The most bytes that one read call gives. -/
def room : Nat := 8192

/-- Cuts content into reads that fit the room. Content that is empty needs no read. -/
def cut : Nat → Bytes → List Read
  | 0, _ => []
  | steps + 1, content =>
    if content.isEmpty then [] else .bytes (content.take room) :: cut steps (content.drop room)

/-- The reads that give some content. -/
def ofBytes (content : Bytes) : List Read := cut (content.length + 1) content

end Read

/-- How a stream goes on when all its reads are made. -/
inductive StreamEnd where
  /-- Every further read says that the stream has ended. -/
  | closed
  /-- No further read ever gives anything. -/
  | silent
  deriving Repr, DecidableEq

/-- The reading side of a link. -/
structure Inlet where
  limit : Nat
  reads : List Read
  ending : StreamEnd
  buffer : Bytes
  deriving Repr, DecidableEq

/-- What a wait for a frame gives. -/
inductive Poll where
  | frame (payload : String)
  | closed
  | timeout
  deriving Repr, DecidableEq

/-- The payload that a wait of so many milliseconds must have given. -/
def Poll.required (milliseconds : Nat) : Poll → Except LinkFault String
  | frame payload => .ok payload
  | closed => .error .closed
  | timeout => .error (.timeout milliseconds)

namespace Inlet

/-- An inlet that has read nothing yet. -/
def ofReads (reads : List Read) (ending : StreamEnd) (limit : Nat) : Inlet :=
  ⟨limit, reads, ending, []⟩

/-- More content will come. -/
def feed (i : Inlet) (content : Bytes) : Inlet :=
  { i with reads := i.reads ++ Read.ofBytes content }

/-- The end of the stream, as a reader with these bytes in its buffer sees it. -/
def atEnd (ending : StreamEnd) (buffer : Bytes) : Except LinkFault Poll :=
  match ending with
  | .silent => .ok .timeout
  | .closed => if buffer.isEmpty then .ok .closed else .error (.truncated buffer.length)

/-- Reads until a frame is complete, the stream fails or ends, or, without patience, a read would
be needed. Failures that pass are read over. -/
def pollFrom (limit : Nat) (ending : StreamEnd) (patient : Bool) :
    List Read → Bytes → Except LinkFault Poll × List Read × Bytes
  | reads, buffer =>
    match Frame.decode limit buffer with
    | .frame payload rest => (.ok (.frame payload), reads, rest)
    | .fault f rest => (.error f, reads, rest)
    | .incomplete =>
      if !patient then (.ok .timeout, reads, buffer)
      else
        match reads with
        | [] => (atEnd ending buffer, [], buffer)
        | .bytes content :: reads => pollFrom limit ending patient reads (buffer ++ content)
        | .fault f :: reads =>
          if f.isTransient then pollFrom limit ending patient reads buffer
          else (.error (.stream f), reads, buffer)

/-- Waits for a frame. Without patience only what is buffered counts. -/
def poll (i : Inlet) (patient : Bool) : Except LinkFault Poll × Inlet :=
  let (result, reads, buffer) := pollFrom i.limit i.ending patient i.reads i.buffer
  (result, { i with reads, buffer })

/-- How many bytes are still to be taken out as frames. -/
def size (i : Inlet) : Nat :=
  (i.buffer ++ i.reads.flatMap Read.content).length

end Inlet
end DebugBridge
