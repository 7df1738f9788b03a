import DebugBridge.Adapter.Lifecycle
import DebugBridge.Host.Request
import DebugBridge.Link.Gate

/-!
# The adapter

The adapter stands between the host and the interpreter. It has a link to the interpreter while a
session runs, and keeps a journal of all that goes out: events for the host, frames for the
interpreter, attempts to connect. Links are numbered in the order in which they were opened, and
every frame in the journal bears the number of its link.

What the surroundings will do is part of the state as a script: the links that connecting will
find, and what will happen on the link while the result of each line of code is awaited.
-/

namespace DebugBridge

/-- What can be set for a session. Times are in milliseconds. -/
structure Settings where
  version : Nat
  greetingPatience : Nat
  evaluationPatience : Nat
  maxVariables : Nat
  deriving Repr, DecidableEq

/-- What can happen at the interpreter's end of a link. -/
inductive Happening where
  /-- The interpreter sends bytes. -/
  | bytes (content : Bytes)
  /-- The interpreter sends its last bytes and closes both directions. -/
  | hangUp (last : Bytes)
  /-- The interpreter reads no more. -/
  | deafen
  deriving Repr, DecidableEq

/-- What a happening does to a wire. -/
def Wire.after (w : Wire) : Happening → Wire
  | .bytes content => { w with inlet := w.inlet.feed content }
  | .hangUp last =>
    { w with inlet := { w.inlet.feed last with ending := .closed }, outlet := w.outlet.unplug }
  | .deafen => { w with outlet := w.outlet.unplug }

/-- An established link. -/
structure Link where
  number : Nat
  gate : Gate

/-- A frame that went out whole. -/
structure Sending where
  link : Nat
  payload : String
  deriving Repr, DecidableEq

/-- All that went out, in order. -/
structure Journal where
  events : List Host.Event
  sent : List Sending
  /-- Frames in both directions, with those whose write failed. -/
  traffic : List Passage
  targets : List Host.Target
  /-- How often the fallback for interrupts was called. -/
  fallbacks : Nat
  deriving Repr

namespace Journal

def empty : Journal := ⟨[], [], [], [], 0⟩

/-- Enters what crossed a wire between two moments. -/
def crossed (j : Journal) (number : Nat) (before after : Wire) : Journal :=
  { j with
    sent := j.sent ++ (after.outlet.sent.drop before.outlet.sent.length).map (⟨number, ·⟩)
    traffic := j.traffic ++ after.traffic.drop before.traffic.length }

end Journal

/-- The adapter. -/
structure Adapter where
  settings : Settings
  lifecycle : Lifecycle
  desktop : Desktop
  /-- The link of a running session. -/
  link : Option Link
  /-- The link that ended last. A request that was being handled when it ended knows no other. -/
  retired : Option Link
  /-- How many links have been opened. -/
  opened : Nat
  /-- What is called when an interrupt cannot be sent, and the failure it ends with, if any. -/
  fallback : Option (Option String)
  journal : Journal
  /-- The links that connecting will find. -/
  offers : List Wire
  /-- How connecting to a target fails when there is no link left to find. -/
  unreachable : Host.Target → Failure
  /-- What will happen as the interpreter takes each line of code. -/
  answers : List (List Happening)
  /-- What will happen while each line of code is awaited that has to wait in the queue. -/
  delays : List (List Happening)

namespace Adapter

/-- An adapter that nothing has been asked of. -/
def ofSettings (settings : Settings) : Adapter :=
  ⟨settings, .created, .empty, none, none, 0, none, .empty, [],
    fun _ => .plain "interpreter unreachable", [], []⟩

/-- Tells the host. -/
def publish (a : Adapter) (e : Host.Event) : Adapter :=
  { a with journal := { a.journal with events := a.journal.events ++ [e] } }

/-- Puts the gate of the link back after it was used. -/
def putGate (a : Adapter) (l : Link) (gate : Gate) : Adapter :=
  { a with
    link := some { l with gate }
    journal := a.journal.crossed l.number l.gate.wire gate.wire }

/-- Sends a command over the link. -/
def sendOver (a : Adapter) (l : Link) (c : Command) : Except Failure Sent × Adapter :=
  let (result, gate) := l.gate.send c
  (result, a.putGate l gate)

/-- Sends a command if there is a link, whatever becomes of it. -/
def follow (a : Adapter) (c : Command) : Adapter :=
  match a.link with
  | some l => (a.sendOver l c).2
  | none => a

/-- The session has no link any more. -/
def dropLink (a : Adapter) : Adapter :=
  match a.link with
  | some l => { a with link := none, retired := some l }
  | none => a

/-- The link of a running session, for a request. -/
def runningLink (a : Adapter) (request : String) : Except Failure Link :=
  if a.lifecycle.isRunning then
    match a.link with
    | some l => .ok l
    | none => .error (Lifecycle.refusalWithoutLink request)
  else .error (a.lifecycle.refusalUnlessRunning request)

end Adapter
end DebugBridge
