import DebugBridge.Failure
import DebugBridge.Host.Types
import DebugBridge.Json.Form

/-!
# Requests of the host

A request message has a command and arguments. The command says which arguments are understood; a
message whose command is unknown or whose arguments do not fit is no request.
-/

namespace DebugBridge.Host

open Json (Form Misfit Slot Value)

/-- A message in which the host asks for something. -/
structure RequestMessage where
  seq : Int64
  command : String
  arguments : Value
  deriving Repr

/-- Where the host wants the interpreter to be looked for. What is left open is decided by whoever
connects. -/
structure Target where
  host : Option String
  port : Option UInt16
  deriving Repr, DecidableEq

/-- What the host can ask for. Lines count from one. -/
inductive Request where
  | setUp
  | launch (target : Target)
  | attach (target : Target)
  | configurationDone
  | disconnect
  | terminate
  | continue
  | next
  | stepIn
  | stepOut
  | pause
  | threads
  | stackTrace (thread : Option Int64)
  | setBreakpoints (source : Source) (lines : List Int64)
  | scopes (frame : Int64)
  | variablesOf (reference : Int64)
  | evaluate (expression : String)
  | source (reference : Int64)
  deriving Repr

namespace Request

/-! ## Arguments -/

def target : Form Target :=
  ((Form.empty Target.mk).slot (.optional "host" Value.asText)).slot
    (.optional "port" Value.asUInt16)

def sourceForm : Form Source :=
  (((Form.empty Source.mk).slot (.placed "name" Value.asText)).slot
    (.placed "path" Value.asText)).slot (.placed "sourceReference" Value.asInt64)

def asSource : Value → Except Misfit Source := sourceForm.read "Source"

/-- A breakpoint is known by its line. A column must be a number but is not used. -/
def breakpointForm : Form Int64 :=
  ((Form.empty fun line _ => line).slot (.required "line" Value.asInt64)).slot
    (.optional "column" Value.asInt64)

/-- A source and the lines for it. Plain lines count only where no breakpoints are listed. -/
def breakpointsForm : Form (Source × List Int64) :=
  (((Form.empty fun source listed lines => (source, (listed.or lines).getD [])).slot
    (.required "source" asSource)).slot
    (.optional "breakpoints" (Value.asList (breakpointForm.read "SourceBreakpoint")))).slot
    (.optional "lines" (Value.asList Value.asInt64))

/-- The reference of a source: the one in the source named, else the one beside it. -/
def referenceForm : Form (Option Int64) :=
  ((Form.empty fun beside named => (named.bind Source.reference).or beside).slot
    (.optional "sourceReference" Value.asInt64)).slot (.optional "source" asSource)

def threadForm : Form (Option Int64) :=
  (Form.empty id).slot (.optional "threadId" Value.asInt64)

/-- A form with a single slot that must be filled. -/
def single {α : Type} (key : String) (read : Value → Except Misfit α) : Form α :=
  (Form.empty id).slot (.required key read)

/-- Reads arguments. Without any, the object that has no members is read. -/
def arguments {α : Type} (m : RequestMessage) (name : String) (form : Form α) : Except Failure α :=
  let value := if m.arguments.isNull then Value.object [] else m.arguments
  match form.read name value with
  | .ok a => .ok a
  | .error e => .error (.plain s!"invalid arguments for {m.command}: {e.message}")

/-- The request in a message. -/
def ofMessage (m : RequestMessage) : Except Failure Request :=
  match m.command with
  | "initialize" => .ok setUp
  | "launch" => (arguments m "ConnectTarget" target).map launch
  | "attach" => (arguments m "ConnectTarget" target).map attach
  | "configurationDone" => .ok configurationDone
  | "disconnect" => .ok disconnect
  | "terminate" => .ok terminate
  | "continue" => .ok .continue
  | "next" => .ok next
  | "stepIn" => .ok stepIn
  | "stepOut" => .ok stepOut
  | "pause" => .ok pause
  | "threads" => .ok threads
  | "stackTrace" => (arguments m "StackTraceArguments" threadForm).map stackTrace
  | "setBreakpoints" =>
    (arguments m "SetBreakpointsArguments" breakpointsForm).map fun a => setBreakpoints a.1 a.2
  | "scopes" => (arguments m "ScopesArguments" (single "frameId" Value.asInt64)).map scopes
  | "variables" =>
    (arguments m "VariablesArguments" (single "variablesReference" Value.asInt64)).map variablesOf
  | "evaluate" => (arguments m "EvaluateArguments" (single "expression" Value.asText)).map evaluate
  | "source" => do
    match ← arguments m "SourceArguments" referenceForm with
    | some r =>
      if 0 < r then pure (source r)
      else throw (.plain "source request without a source reference")
    | none => throw (.plain "source request without a source reference")
  | other => .error (.plain s!"unsupported request {other}")

end Request
end DebugBridge.Host
