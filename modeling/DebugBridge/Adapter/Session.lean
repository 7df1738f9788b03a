import DebugBridge.Adapter.Intake
import DebugBridge.Link.Opening

/-!
# The session and its link

A session starts running with the first link and ends with the last. In between its link may be
replaced, and all that is known of the interpreter's desktop is kept.
-/

namespace DebugBridge

namespace RunMode

/-- The request that starts a session. -/
def request : RunMode → String
  | launched => "launch"
  | attached => "attach"

/-- What is being done while a session starts. -/
def activity : RunMode → String
  | launched => "launching debug session"
  | attached => "attaching debug session"

end RunMode

namespace Adapter

/-- Opens a link on a wire. It gets the next number, whether it opens or not. -/
def openLink (a : Adapter) (w : Wire) : Except Failure Link × Adapter :=
  let number := a.opened + 1
  let (result, after) := Gate.establish a.settings.version a.settings.greetingPatience w
  (result.map (⟨number, ·⟩),
    { a with opened := number, journal := a.journal.crossed number w after })

/-- Opens a link on the next wire that is found. -/
def connect (a : Adapter) (t : Host.Target) : Except Failure Link × Adapter :=
  let a := { a with journal := { a.journal with targets := a.journal.targets ++ [t] } }
  match a.offers with
  | [] => (.error (a.unreachable t), a)
  | w :: rest => { a with offers := rest }.openLink w

/-- Makes a link the link of the session, and takes in what has already come. -/
def install (a : Adapter) (l : Link) : Adapter := { a with link := some l }.takeIn.2

/-- Starts the session. -/
def start (a : Adapter) (mode : RunMode) (t : Host.Target) : Except Failure Unit × Adapter :=
  if a.lifecycle = .initialized then
    match a.connect t with
    | (.error f, a) => (.error (.within "connecting to interpreter" f), a)
    | (.ok l, a) => (.ok (), { a with lifecycle := .running mode }.install l)
  else (.error (a.lifecycle.refusal mode.request), a)

/-- Replaces the link of a running session by one on another wire. Unless that one opens, the old
link stays. -/
def rebind (a : Adapter) (w : Wire) : Except Failure Unit × Adapter :=
  match a.openLink w with
  | (.error f, a) => (.error f, a)
  | (.ok l, a) =>
    if a.lifecycle.isRunning then (.ok (), a.install l)
    else (.error (a.lifecycle.refusalUnlessRunning "rebind"), a)

/-- Ends the session. -/
def finish (a : Adapter) (request : String) : Except Failure Unit × Adapter :=
  if a.lifecycle = .terminated then
    (.error (.plain s!"cannot handle {request}: session already terminated"), a)
  else (.ok (), { a with lifecycle := .terminated }.dropLink)

end Adapter
end DebugBridge
