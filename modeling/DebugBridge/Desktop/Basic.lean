import DebugBridge.Command.Arguments
import DebugBridge.Desktop.Deferred
import DebugBridge.Desktop.Sources
import DebugBridge.Host.Types
import DebugBridge.Table

/-!
# The interpreter's desktop

What is known of the windows at the interpreter, gathered from its messages: which are open, which
of them trace a suspended function, what they show, and which thread and window are at the front.
A tracer that is activated gets the next number. Tracers are kept in no particular order: it shows
only among those that were never activated, whose number is zero.
-/

namespace DebugBridge

open Host (Thread)

/-- The thread of interpreters that never mention one. -/
def mainThread : Int64 := 0

/-- A window that traces a suspended function. Its line and column count from zero. -/
structure Tracer where
  window : Int64
  thread : Int64
  name : String
  line : Int64
  column : Int64
  /-- The number of its last activation. -/
  activated : Nat
  deriving Repr, DecidableEq

/-- Where an open window was last seen, whether it traces or not. -/
structure Sighting where
  name : String
  thread : Option Int64
  line : Int64
  column : Int64
  deriving Repr, DecidableEq

/-- Output that the adapter has asked for itself and keeps from the host. -/
structure Quiet where
  /-- How many evaluations are awaited. -/
  pending : Nat
  /-- The interpreter has been seen running code for the first of them. -/
  seenBusy : Bool
  deriving Repr, DecidableEq

/-- What is known of the interpreter's windows, threads and sources. -/
structure Desktop where
  /-- The tracers, one for a window. -/
  tracers : List Tracer
  windows : Table Int64 Sighting
  /-- How many activations there were. -/
  activations : Nat
  activeWindow : Option Int64
  activeThread : Option Int64
  sources : Sources
  texts : Table Int (List String)
  deferred : Deferred
  threadList : List Thread
  stackNames : Table Int64 (List String)
  quiet : Quiet
  deriving Repr, DecidableEq

namespace Tracer

/-- The tracer when it gets a number. -/
def numbered (t : Tracer) (n : Nat) : Tracer := { t with activated := n }

/-- Puts a tracer into a list, in the place of the one in its window if there is one. -/
def put (t : Tracer) : List Tracer → List Tracer
  | [] => [t]
  | u :: rest => if u.window = t.window then t :: rest else u :: put t rest

/-- The tracer with the highest number. Of several it is the last one in the list. -/
def latest? : List Tracer → Option Tracer
  | [] => none
  | t :: rest =>
    match latest? rest with
    | none => some t
    | some u => if u.activated < t.activated then some t else some u

end Tracer

namespace Quiet

def none : Quiet := ⟨0, false⟩

/-- One more evaluation is awaited. -/
def start (q : Quiet) : Quiet := { q with pending := q.pending + 1 }

/-- An evaluation is awaited no longer, because it will not end as it should. -/
def giveUp (q : Quiet) : Quiet :=
  let pending := q.pending - 1
  ⟨pending, q.seenBusy && pending ≠ 0⟩

/-- A prompt is reported. An evaluation ends at the first ready prompt behind a busy one. -/
def prompt (q : Quiet) (prompt : Int64) : Quiet :=
  if q.pending = 0 then q
  else if Command.isBusyPrompt prompt then { q with seenBusy := true }
  else if q.seenBusy then ⟨q.pending - 1, false⟩
  else q

/-- Whether output is kept from the host. -/
def hides (q : Quiet) : Bool := q.pending ≠ 0

end Quiet

namespace Desktop

/-- The desktop before any message. -/
def empty : Desktop :=
  ⟨[], [], 0, none, none, .empty, [], .empty, [], [], .none⟩

/-- The tracer in a window. -/
def tracer? (d : Desktop) (window : Int64) : Option Tracer :=
  d.tracers.find? fun t => t.window = window

/-- The thread that a stop concerns. -/
def currentThread (d : Desktop) : Int64 := d.activeThread.getD mainThread

/-- The thread of a window: the one it names, else the active one. -/
def threadFor (d : Desktop) (named : Option Int64) : Int64 := named.getD d.currentThread

/-- Activates a tracer. It takes the place of the one in its window, and its window and thread
become the active ones. -/
def activate (d : Desktop) (t : Tracer) : Desktop :=
  { d with
    tracers := Tracer.put (t.numbered (d.activations + 1)) d.tracers
    activations := d.activations + 1
    activeWindow := some t.window
    activeThread := some t.thread }

/-- If the active window was the one given, the tracer activated last takes its place. -/
def reselect (d : Desktop) (gone : Int64) : Desktop :=
  if d.activeWindow = some gone then
    { d with activeWindow := (Tracer.latest? d.tracers).map Tracer.window }
  else d

/-- Takes a tracer away. -/
def dropTracer (d : Desktop) (window : Int64) : Desktop :=
  { d with tracers := d.tracers.filter fun t => t.window ≠ window }

end Desktop
end DebugBridge
