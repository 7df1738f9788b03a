import DebugBridge.Command.Payload
import DebugBridge.Failure
import DebugBridge.Link.Wire

/-!
# The gate in front of the interpreter

While the interpreter runs code it takes few commands. The gate writes those at once, queues the
rest until a prompt is reported at which the interpreter is ready, and holds the close of a
window until the interpreter has acknowledged the window's save. A write that fails keeps the
queue in order.
-/

namespace DebugBridge

namespace Command

/-- Commands that the interpreter takes while it runs code. -/
def isUrgent (c : Command) : Bool :=
  match c with
  | .weakInterrupt | .strongInterrupt | .saveChanges _ | .closeWindow _ => true
  | _ => c.name.startsWith "Reply"

/-- Commands that run code. An error in the code before them makes them void. -/
def runsCode : Command → Bool
  | .execute _ | .continue _ | .runCurrentLine _ | .stepInto _ | .continueTrace _
  | .restartThreads => true
  | _ => false

/-- Messages with which the interpreter ends the session. -/
def endsSession : Command → Bool
  | .disconnect _ | .sysError _ | .internalError _ => true
  | _ => false

end Command

/-- What became of a command that was sent. -/
inductive Sent where
  | written
  | queued
  | held
  deriving Repr, DecidableEq

/-- The outgoing side of a session. -/
structure Gate where
  /-- The prompt last reported. The interpreter counts as ready before the first report. -/
  prompt : Option Int64
  queue : List Command
  /-- The windows whose save is not acknowledged. -/
  saves : List Int64
  /-- The windows whose close is held, one entry for each close, in the order sent. -/
  held : List Int64
  wire : Wire
  /-- The commands written so far, in order. -/
  written : List Command
  /-- The commands whose write failed so far, in order; one that is tried again may be among
  both. -/
  failed : List Command

namespace Gate

/-- A gate that nothing has passed. -/
def ofWire (wire : Wire) : Gate := ⟨none, [], [], [], wire, [], []⟩

def isBusy (g : Gate) : Bool := g.prompt.any Command.isBusyPrompt

/-- Writes a command. -/
def write (g : Gate) (c : Command) : Except Failure Unit × Gate :=
  match g.wire.send c.payload with
  | (.ok (), wire) => (.ok (), { g with wire, written := g.written ++ [c] })
  | (.error f, wire) =>
    (.error (.within s!"writing {c.name} to interpreter" (.link f)),
      { g with wire, failed := g.failed ++ [c] })

/-- Writes the commands of a list in order. At the first failure the failed command and all
behind it stay queued. -/
def replay : List Command → Gate → Except Failure Unit × Gate
  | [], g => (.ok (), { g with queue := [] })
  | c :: rest, g =>
    match g.write c with
    | (.ok (), g) => replay rest g
    | (.error f, g) =>
      (.error (.within "replaying queued commands" f), { g with queue := c :: rest })

/-- Writes the whole queue. -/
def flush (g : Gate) : Except Failure Unit × Gate := replay g.queue g

/-- Writes a command for which nothing has to be waited. -/
def writeNow (g : Gate) (c : Command) : Except Failure Sent × Gate :=
  match g.write c with
  | (.ok (), g) => (.ok .written, g)
  | (.error f, g) => (.error f, g)

/-- Sends a command that may have to wait for the prompt. Commands that a failed write left in the
queue go first; if one of them fails again, the new command is not taken. -/
def sendGated (g : Gate) (c : Command) : Except Failure Sent × Gate :=
  if g.isBusy then (.ok .queued, { g with queue := g.queue ++ [c] })
  else if g.queue.isEmpty then g.writeNow c
  else
    match flush { g with queue := g.queue ++ [c] } with
    | (.ok (), g) => (.ok .written, g)
    | (.error f, g) => (.error f, { g with queue := g.queue.dropLast })

/-- Sends a command: it is written, or queued, or held, or its write fails. -/
def send (g : Gate) (c : Command) : Except Failure Sent × Gate :=
  match c with
  | .closeWindow r =>
    if g.saves.contains r.win then (.ok .held, { g with held := g.held ++ [r.win] })
    else g.writeNow c
  | .saveChanges s =>
    match g.write c with
    | (.ok (), g) => (.ok .written, { g with saves := s.win :: g.saves.erase s.win })
    | (.error f, g) => (.error f, g)
  | _ => if c.isUrgent then g.writeNow c else g.sendGated c

/-- Writes held closes in order. One whose write fails is lost. -/
def writeCloses (g : Gate) (wins : List Int64) : Gate :=
  wins.foldl (fun g win => (g.write (.closeWindow ⟨win⟩)).2) g

/-- Takes note of a command from the interpreter. -/
def observe (g : Gate) (c : Command) : Gate :=
  match c with
  | .setPromptType p =>
    let g := { g with prompt := some p.prompt }
    if g.isBusy then g else g.flush.2
  | .replySaveChanges r =>
    let due := g.held.filter (· = r.win)
    writeCloses { g with saves := g.saves.erase r.win, held := g.held.filter (· ≠ r.win) } due
  | .hadError _ => { g with queue := g.queue.filter (!·.runsCode) }
  | .disconnect _ | .sysError _ | .internalError _ =>
    { g with queue := [], saves := [], held := [] }
  | _ => g

/-- Takes note of a message from the interpreter. -/
def hear (g : Gate) : Message → Gate
  | .command c => g.observe c
  | .raw _ => g

end Gate
end DebugBridge
