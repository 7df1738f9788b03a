import DebugBridge.Adapter.Evaluate
import DebugBridge.Adapter.Session
import DebugBridge.Desktop.Queries

/-!
# Requests to the adapter

Every request is answered with a body, or fails and leaves the session as it is.
-/

namespace DebugBridge

open Json (Value)

namespace Adapter

/-- What the adapter can do. -/
def capabilities : Value :=
  .record [("supportsConfigurationDoneRequest", .bool true),
    ("supportsTerminateRequest", .bool true), ("supportsEvaluateForHovers", .bool true),
    ("supportsConditionalBreakpoints", .bool false), ("supportsStepBack", .bool false)]

/-- Readies a session that was just created. -/
def setUp (a : Adapter) : Except Failure Unit × Adapter :=
  if a.lifecycle = .created then
    (.ok (), { a with lifecycle := .initialized }.publish .initialized)
  else (.error (a.lifecycle.refusal "initialize"), a)

/-- The host has said all it had to say before the program runs. -/
def configurationDone (a : Adapter) : Except Failure Unit :=
  if a.lifecycle.isRunning then .ok ()
  else .error (a.lifecycle.refusalUnlessRunning "configurationDone")

/-- Ends the session at the host's wish. A session that has ended may be disconnected again. -/
def disconnect (a : Adapter) : Except Failure Unit × Adapter :=
  if a.lifecycle = .terminated then (.ok (), a) else a.finish "disconnect"

/-- Ends the session and tells the host. -/
def terminate (a : Adapter) : Except Failure Unit × Adapter :=
  match a.finish "terminate" with
  | (.ok (), a) => (.ok (), a.publish .terminated)
  | (.error f, a) => (.error f, a)

/-- Lets the program go on in the active window. -/
def step (a : Adapter) (request : String) (command : Command.WindowRef → Command) :
    Except Failure Unit × Adapter :=
  match a.runningLink request, a.desktop.activeWindow with
  | .error f, _ => (.error f, a)
  | .ok _, none => (.error (.plain s!"cannot handle {request}: no active tracer window"), a)
  | .ok l, some window =>
    match a.sendOver l (command ⟨window⟩) with
    | (.ok _, a) => (.ok (), a)
    | (.error f, a) => (.error (.within s!"sending {request}" f), a)

/-- Interrupts the program. If that cannot be sent, the fallback is called. -/
def pause (a : Adapter) : Except Failure Unit × Adapter :=
  match a.runningLink "pause" with
  | .error f => (.error f, a)
  | .ok l =>
    match a.sendOver l .weakInterrupt with
    | (.ok _, a) => (.ok (), a)
    | (.error f, a) =>
      match a.fallback with
      | none => (.error (.within "sending interrupt" f), a)
      | some failure =>
        let a := { a with journal := { a.journal with fallbacks := a.journal.fallbacks + 1 } }
        match failure with
        | none => (.ok (), a)
        | some text =>
          (.error (.within s!"pause fallback failed after: {f.headline}" (.plain text)), a)

/-- The threads known by now. The interpreter is asked for them anew. -/
def threads (a : Adapter) : Except Failure (List Host.Thread) × Adapter :=
  match a.runningLink "threads" with
  | .error f => (.error f, a)
  | .ok l =>
    let known := a.desktop.threads
    match a.sendOver l .getThreads with
    | (.ok _, a) => (.ok known, a)
    | (.error f, a) => (.error (.within "requesting thread list" f), a)

/-- The stack of a thread. -/
def stackTrace (a : Adapter) (thread : Option Int64) : Except Failure (List Host.Frame) :=
  if a.lifecycle.isRunning then a.desktop.frames thread
  else .error (a.lifecycle.refusalUnlessRunning "stackTrace")

/-- Sends the command of a plan for breakpoints. -/
def sendPlanned (a : Adapter) (command : Option Command) : Except Failure Unit × Adapter :=
  match command, a.link with
  | none, _ => (.ok (), a)
  | some _, none => (.error (.plain "no interpreter connection for breakpoints"), a)
  | some c, some l =>
    match a.sendOver l c with
    | (.ok _, a) => (.ok (), a)
    | (.error f, a) => (.error (.within "setting line attributes" f), a)

/-- Sets breakpoints in a source, now or as soon as a window shows it. -/
def setBreakpoints (a : Adapter) (source : Host.Source) (lines : List Int64) :
    Except Failure (List Host.Breakpoint) × Adapter :=
  if a.lifecycle = .initialized ∨ a.lifecycle.isRunning then
    match a.desktop.planBreakpoints source lines with
    | .error f => (.error f, a)
    | .ok (plan, desktop) =>
      match { a with desktop }.sendPlanned plan.command with
      | (.error f, a) => (.error f, a)
      | (.ok (), a) => (.ok plan.breakpoints, if plan.resync then a.follow .getWindowLayout else a)
  else (.error (a.lifecycle.refusal "setBreakpoints"), a)

/-- The groups of variables of a frame. There is one. -/
def scopes (a : Adapter) (frame : Int64) : Except Failure (List Host.Scope) :=
  if a.lifecycle.isRunning then
    match a.desktop.tracer? frame with
    | none => .error (.plain s!"unknown stack frame {frame}")
    | some _ => .ok [⟨"Locals", "locals", frame, true⟩]
  else .error (a.lifecycle.refusalUnlessRunning "scopes")

/-- The text of a source that a window has shown. -/
def source (a : Adapter) (reference : Int64) : Except Failure String :=
  if a.lifecycle = .terminated then .error (.plain "cannot handle source: session terminated")
  else a.desktop.sourceText reference.toInt

/-- An answer without a body. -/
def bodiless : Except Failure Unit × Adapter → Except Failure (Option Value) × Adapter
  | (result, a) => (result.map fun _ => none, a)

/-- An answer with a body. -/
def embodied {α : Type} (body : α → Value) :
    Except Failure α × Adapter → Except Failure (Option Value) × Adapter
  | (result, a) => (result.map fun x => some (body x), a)

/-- The object with one member that lists things. -/
def listBody {α : Type} (key : String) (toValue : α → Value) (items : List α) : Value :=
  .record [(key, .array (items.map toValue))]

/-- Handles a request. Gives the body of the answer. -/
def handle (a : Adapter) : Host.Request → Except Failure (Option Value) × Adapter
  | .setUp => embodied (fun _ => capabilities) a.setUp
  | .launch t => bodiless (starting .launched t)
  | .attach t => bodiless (starting .attached t)
  | .configurationDone => bodiless (a.configurationDone, a)
  | .disconnect => bodiless a.disconnect
  | .terminate => bodiless a.terminate
  | .continue =>
    embodied (fun _ => .record [("allThreadsContinued", .bool true)]) (a.step "continue" .continue)
  | .next => bodiless (a.step "next" .runCurrentLine)
  | .stepIn => bodiless (a.step "stepIn" .stepInto)
  | .stepOut => bodiless (a.step "stepOut" .continueTrace)
  | .pause => bodiless a.pause
  | .threads => embodied (listBody "threads" Host.Thread.toValue) a.threads
  | .stackTrace thread =>
    embodied (fun frames => .record [("totalFrames", .nat frames.length),
      ("stackFrames", .array (frames.map Host.Frame.toValue))]) (a.stackTrace thread, a)
  | .setBreakpoints source lines =>
    embodied (listBody "breakpoints" Host.Breakpoint.toValue) (a.setBreakpoints source lines)
  | .scopes frame => embodied (listBody "scopes" Host.Scope.toValue) (a.scopes frame, a)
  | .variablesOf reference =>
    embodied (listBody "variables" Host.Variable.toValue) (a.variablesOf reference)
  | .evaluate expression =>
    embodied (fun output => .record [("result", .text output), ("variablesReference", .nat 0)])
      (a.evaluate expression)
  | .source reference =>
    embodied (fun content => .record [("content", .text content)]) (a.source reference, a)
where
  starting (mode : RunMode) (t : Host.Target) : Except Failure Unit × Adapter :=
    let (result, a) := a.start mode t
    (result.mapError (.within mode.activity), a)

/-- Answers a message in which the host asks for something. -/
def answer (a : Adapter) (m : Host.RequestMessage) : Except Failure (Option Value) × Adapter :=
  match Host.Request.ofMessage m with
  | .error f => (.error f, a)
  | .ok request => a.handle request

end Adapter
end DebugBridge
