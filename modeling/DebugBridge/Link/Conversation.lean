import DebugBridge.Link.Evaluation
import DebugBridge.Link.Feed
import DebugBridge.Link.Gate

/-!
# A conversation with the interpreter

The gate takes note of every message before the feed hands it on. Running the conversation takes
the frames of a stream one by one; at the end of the stream the feed is closed. An evaluation is a
subscriber like any other: messages come in on one side and are taken on the other, at whatever
pace, and it leaves as soon as it has a result.
-/

namespace DebugBridge

/-- Why a conversation stopped running. -/
inductive Exit where
  | cancelled
  | endOfStream
  | failed (fault : LinkFault)
  /-- No frame is complete, and the stream has not ended. -/
  | waiting
  deriving Repr, DecidableEq

/-- What happens on the link while an evaluation waits. -/
inductive Arrival where
  | payload (text : String)
  /-- The link ends. -/
  | hangUp
  deriving Repr, DecidableEq

/-- Both sides of a session. -/
structure Conversation where
  gate : Gate
  feed : Feed

namespace Conversation

def ofWire (wire : Wire) : Conversation := ⟨.ofWire wire, .empty⟩

/-- Takes in a payload. -/
def dispatch (c : Conversation) (payload : String) : Conversation :=
  let m := Message.ofPayload payload
  ⟨c.gate.hear m, c.feed.publish m⟩

/-- Takes in one frame after another while there are any. -/
def runFrames : Nat → Conversation → Exit × Conversation
  | 0, c => (.waiting, c)
  | frames + 1, c =>
    let (result, wire) := c.gate.wire.poll true
    let c := { c with gate := { c.gate with wire } }
    match result with
    | .ok (.frame payload) => runFrames frames (c.dispatch payload)
    | .ok .closed => (.endOfStream, c)
    | .ok .timeout => (.waiting, c)
    | .error f => (.failed f, c)

/-- Runs until the stream ends or fails, then closes the feed. A run that has been cancelled takes
in nothing. Every frame has a byte at least, so the bytes to come bound the number of frames. -/
def run (c : Conversation) (cancelled : Bool) : Exit × Conversation :=
  let (exit, c) :=
    if cancelled then (.cancelled, c) else runFrames (c.gate.wire.inlet.size + 1) c
  (exit, { c with feed := c.feed.close })

/-- Sends a command. -/
def send (c : Conversation) (command : Command) : Except Failure Sent × Conversation :=
  let (result, gate) := c.gate.send command
  (result, { c with gate })

/-- Something that happens on the link. -/
def arrive (c : Conversation) : Arrival → Conversation
  | .payload text => c.dispatch text
  | .hangUp => { c with feed := c.feed.close }

end Conversation

/-! ## Evaluations -/

/-- What happens while an evaluation waits. -/
inductive Beat where
  /-- Something happens on the link. -/
  | arrive (a : Arrival)
  /-- The evaluation takes the next message, if there is one. -/
  | take
  deriving Repr, DecidableEq

/-- An evaluation under way in a conversation. -/
structure Attendance where
  conversation : Conversation
  /-- The number of its subscription. -/
  number : Nat
  progress : Evaluation.Progress

namespace Attendance

def withFeed (w : Attendance) (feed : Feed) : Attendance :=
  { w with conversation := { w.conversation with feed } }

/-- The evaluation gives up its subscription. -/
def leave (w : Attendance) : Attendance := w.withFeed (w.conversation.feed.leave w.number)

/-- The evaluation notes how far it has come. With a result it leaves. -/
def note (w : Attendance) : Evaluation.Progress → Attendance
  | .waiting e => { w with progress := .waiting e }
  | .done result => { w.leave with progress := .done result }

/-- Takes the next message, if there is one. -/
def take (w : Attendance) : Attendance :=
  match w.progress, w.conversation.feed.next? w.number with
  | .waiting e, some (m, feed) => (w.withFeed feed).note (e.hear m)
  | .waiting _, none | .done _, _ => w

def beat (w : Attendance) : Beat → Attendance
  | .arrive a => { w with conversation := w.conversation.arrive a }
  | .take => w.take

/-- The evaluation takes what is left. Without a result by then, it has waited in vain. -/
def finish (w : Attendance) (patience : Nat) : Except Failure String × Conversation :=
  let (messages, ended, feed) := w.conversation.feed.take w.number
  ((w.progress.hearAll messages).result patience (!ended),
    { w.conversation with feed := feed.leave w.number })

end Attendance

namespace Conversation

/-- Subscribes to the feed and sends a line of code. -/
def attend (c : Conversation) (text : String) : Except Failure Sent × Attendance :=
  let (number, feed) := c.feed.subscribe Evaluation.capacity
  let (result, c) := send { c with feed } (Evaluation.command text)
  (result, ⟨c, number, .waiting .start⟩)

/-- Runs a line of code and collects its output, while things arrive on the link and the evaluation
takes messages at some pace. The wait ends at the first message that decides it; without one, the
link's end or the span of time decides. -/
def evaluateAlong (c : Conversation) (text : String) (patience : Nat) (beats : List Beat) :
    Except Failure String × Conversation :=
  match c.attend text with
  | (.error f, w) =>
    (.error (.within "sending execute" f), (beats.foldl Attendance.beat w.leave).conversation)
  | (.ok _, w) => (beats.foldl Attendance.beat w).finish patience

/-- Runs a line of code and takes every message as soon as it arrives. -/
def evaluate (c : Conversation) (text : String) (patience : Nat) (arrivals : List Arrival) :
    Except Failure String × Conversation :=
  c.evaluateAlong text patience (arrivals.flatMap fun a => [.arrive a, .take])

end Conversation
end DebugBridge
