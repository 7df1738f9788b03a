import DebugBridge.Command.Field

/-!
# Arguments of commands

One structure for each form of arguments, with its shape: the keys by which the two peers know
the fields, and the kinds of their values.
-/

namespace DebugBridge.Command

/-- The first message of a client: which protocol it speaks and in what role. -/
structure Identify where
  apiVersion : Int64
  identity : Int64
  deriving Repr, DecidableEq

def Identify.shape : Shape Identify where
  fields := [⟨"apiVersion", .integer⟩, ⟨"identity", .integer⟩]
  build := fun (apiVersion, identity, ()) => ⟨apiVersion, identity⟩
  parts := fun a => (a.apiVersion, a.identity, ())

/-- What the interpreter says about itself. -/
structure ReplyIdentify where
  apiVersion : Int64
  version : String
  platform : String
  arch : String
  pid : Int64
  deriving Repr, DecidableEq

def ReplyIdentify.shape : Shape ReplyIdentify where
  fields := [⟨"apiVersion", .integer⟩, ⟨"version", .text⟩, ⟨"platform", .text⟩, ⟨"arch", .text⟩,
    ⟨"pid", .integer⟩]
  build := fun (apiVersion, version, platform, arch, pid, ()) =>
    ⟨apiVersion, version, platform, arch, pid⟩
  parts := fun a => (a.apiVersion, a.version, a.platform, a.arch, a.pid, ())

structure Connect where
  remoteId : Int64
  deriving Repr, DecidableEq

def Connect.shape : Shape Connect where
  fields := [⟨"remoteId", .integer⟩]
  build := fun (remoteId, ()) => ⟨remoteId⟩
  parts := fun a => (a.remoteId, ())

/-- A line of input for the interpreter. -/
structure Execute where
  text : String
  trace : Bool
  deriving Repr, DecidableEq

def Execute.shape : Shape Execute where
  fields := [⟨"text", .text⟩, ⟨"trace", .flag⟩]
  build := fun (text, trace, ()) => ⟨text, trace⟩
  parts := fun a => (a.text, a.trace, ())

/-- The state of the prompt. -/
structure SetPromptType where
  prompt : Int64
  deriving Repr, DecidableEq

def SetPromptType.shape : Shape SetPromptType where
  fields := [⟨"type", .integer⟩]
  build := fun (prompt, ()) => ⟨prompt⟩
  parts := fun a => (a.prompt, ())

/-- Whether a prompt state means that the interpreter is running code. -/
def isBusyPrompt (prompt : Int64) : Bool := prompt = 0

/-- A piece of the session's output. -/
structure AppendSessionOutput where
  result : String
  kind : Int64
  group : Int64
  deriving Repr, DecidableEq

def AppendSessionOutput.shape : Shape AppendSessionOutput where
  fields := [⟨"result", .text⟩, ⟨"type", .integer⟩, ⟨"group", .integer⟩]
  build := fun (result, kind, group, ()) => ⟨result, kind, group⟩
  parts := fun a => (a.result, a.kind, a.group, ())

/-- Whether the output only repeats what was typed. -/
def AppendSessionOutput.isEcho (o : AppendSessionOutput) : Bool := o.kind = 14

/-- A window with everything that the interpreter tells about it. -/
structure Window where
  token : Int64
  name : String
  fileName : String
  text : List String
  currentRow : Int64
  currentColumn : Int64
  debugger : Bool
  entityType : Int64
  offset : Int64
  readOnly : Bool
  stop : List Int64
  trace : List Int64
  monitor : List Int64
  tid : Option Int64
  tname : String
  deriving Repr, DecidableEq

def Window.shape : Shape Window where
  fields := [⟨"token", .integer⟩, ⟨"name", .text⟩, ⟨"filename", .text⟩, ⟨"text", .texts⟩,
    ⟨"currentRow", .integer⟩, ⟨"currentColumn", .integer⟩, ⟨"debugger", .flag⟩,
    ⟨"entityType", .integer⟩, ⟨"offset", .integer⟩, ⟨"readOnly", .flag⟩, ⟨"stop", .integers⟩,
    ⟨"trace", .integers⟩, ⟨"monitor", .integers⟩, ⟨"tid", .optionalInteger⟩, ⟨"tname", .text⟩]
  build := fun (token, name, fileName, text, currentRow, currentColumn, debugger, entityType,
      offset, readOnly, stop, trace, monitor, tid, tname, ()) =>
    ⟨token, name, fileName, text, currentRow, currentColumn, debugger, entityType, offset,
      readOnly, stop, trace, monitor, tid, tname⟩
  parts := fun a => (a.token, a.name, a.fileName, a.text, a.currentRow, a.currentColumn,
    a.debugger, a.entityType, a.offset, a.readOnly, a.stop, a.trace, a.monitor, a.tid, a.tname, ())

/-- Arguments that only name a window. -/
structure WindowRef where
  win : Int64
  deriving Repr, DecidableEq

def WindowRef.shape : Shape WindowRef where
  fields := [⟨"win", .integer⟩]
  build := fun (win, ()) => ⟨win⟩
  parts := fun a => (a.win, ())

/-- The lines of a window at which to stop, trace and monitor. -/
structure SetLineAttributes where
  win : Int64
  stop : List Int64
  trace : Option (List Int64)
  monitor : Option (List Int64)
  deriving Repr, DecidableEq

def SetLineAttributes.shape : Shape SetLineAttributes where
  fields := [⟨"win", .integer⟩, ⟨"stop", .integers⟩, ⟨"trace", .optionalIntegers⟩,
    ⟨"monitor", .optionalIntegers⟩]
  build := fun (win, stop, trace, monitor, ()) => ⟨win, stop, trace, monitor⟩
  parts := fun a => (a.win, a.stop, a.trace, a.monitor, ())

/-- The line that a tracer has reached. -/
structure SetHighlightLine where
  win : Int64
  line : Int64
  endLine : Int64
  startColumn : Int64
  endColumn : Int64
  deriving Repr, DecidableEq

def SetHighlightLine.shape : Shape SetHighlightLine where
  fields := [⟨"win", .integer⟩, ⟨"line", .integer⟩, ⟨"end_line", .integer⟩,
    ⟨"start_col", .integer⟩, ⟨"end_col", .integer⟩]
  build := fun (win, line, endLine, startColumn, endColumn, ()) =>
    ⟨win, line, endLine, startColumn, endColumn⟩
  parts := fun a => (a.win, a.line, a.endLine, a.startColumn, a.endColumn, ())

structure ReplyGetThreads where
  threads : List Thread
  deriving Repr, DecidableEq

def ReplyGetThreads.shape : Shape ReplyGetThreads where
  fields := [⟨"threads", .threads⟩]
  build := fun (threads, ()) => ⟨threads⟩
  parts := fun a => (a.threads, ())

/-- Arguments that only name a thread. -/
structure ThreadRef where
  tid : Int64
  deriving Repr, DecidableEq

def ThreadRef.shape : Shape ThreadRef where
  fields := [⟨"tid", .integer⟩]
  build := fun (tid, ()) => ⟨tid⟩
  parts := fun a => (a.tid, ())

structure ReplyGetStack where
  stack : List StackEntry
  tid : Int64
  deriving Repr, DecidableEq

def ReplyGetStack.shape : Shape ReplyGetStack where
  fields := [⟨"stack", .stack⟩, ⟨"tid", .integer⟩]
  build := fun (stack, tid, ()) => ⟨stack, tid⟩
  parts := fun a => (a.stack, a.tid, ())

/-- The edited text of a window. -/
structure SaveChanges where
  win : Int64
  text : List String
  stop : List Int64
  trace : List Int64
  monitor : List Int64
  deriving Repr, DecidableEq

def SaveChanges.shape : Shape SaveChanges where
  fields := [⟨"win", .integer⟩, ⟨"text", .texts⟩, ⟨"stop", .integers⟩, ⟨"trace", .integers⟩,
    ⟨"monitor", .integers⟩]
  build := fun (win, text, stop, trace, monitor, ()) => ⟨win, text, stop, trace, monitor⟩
  parts := fun a => (a.win, a.text, a.stop, a.trace, a.monitor, ())

structure ReplySaveChanges where
  win : Int64
  err : Int64
  deriving Repr, DecidableEq

def ReplySaveChanges.shape : Shape ReplySaveChanges where
  fields := [⟨"win", .integer⟩, ⟨"err", .integer⟩]
  build := fun (win, err, ()) => ⟨win, err⟩
  parts := fun a => (a.win, a.err, ())

/-- An error of the running code. -/
structure HadError where
  error : Int64
  errorText : String
  message : String
  deriving Repr, DecidableEq

def HadError.shape : Shape HadError where
  fields := [⟨"error", .integer⟩, ⟨"error_text", .text⟩, ⟨"message", .text⟩]
  build := fun (error, errorText, message, ()) => ⟨error, errorText, message⟩
  parts := fun a => (a.error, a.errorText, a.message, ())

/-- The first text that is not empty, or the number of the error. -/
def describeError (error : Int64) (texts : List String) : String :=
  (texts.find? fun s => !s.isEmpty).getD s!"error {error}"

/-- What the error is called. -/
def HadError.text (e : HadError) : String := describeError e.error [e.errorText, e.message]

structure Disconnect where
  message : String
  deriving Repr, DecidableEq

def Disconnect.shape : Shape Disconnect where
  fields := [⟨"message", .text⟩]
  build := fun (message, ()) => ⟨message⟩
  parts := fun a => (a.message, ())

structure SysError where
  text : String
  stack : String
  deriving Repr, DecidableEq

def SysError.shape : Shape SysError where
  fields := [⟨"text", .text⟩, ⟨"stack", .text⟩]
  build := fun (text, stack, ()) => ⟨text, stack⟩
  parts := fun a => (a.text, a.stack, ())

structure InternalError where
  error : Int64
  errorText : String
  dmx : String
  message : String
  deriving Repr, DecidableEq

def InternalError.shape : Shape InternalError where
  fields := [⟨"error", .integer⟩, ⟨"error_text", .text⟩, ⟨"dmx", .text⟩, ⟨"message", .text⟩]
  build := fun (error, errorText, dmx, message, ()) => ⟨error, errorText, dmx, message⟩
  parts := fun a => (a.error, a.errorText, a.dmx, a.message, ())

structure UnknownCommand where
  name : String
  deriving Repr, DecidableEq

def UnknownCommand.shape : Shape UnknownCommand where
  fields := [⟨"name", .text⟩]
  build := fun (name, ()) => ⟨name⟩
  parts := fun a => (a.name, ())

structure CanAcceptInput where
  canAcceptInput : Bool
  deriving Repr, DecidableEq

def CanAcceptInput.shape : Shape CanAcceptInput where
  fields := [⟨"canAcceptInput", .flag⟩]
  build := fun (canAcceptInput, ()) => ⟨canAcceptInput⟩
  parts := fun a => (a.canAcceptInput, ())

/-- A window becomes a tracer or an editor. -/
structure WindowTypeChanged where
  win : Int64
  tracer : Bool
  deriving Repr, DecidableEq

def WindowTypeChanged.shape : Shape WindowTypeChanged where
  fields := [⟨"win", .integer⟩, ⟨"tracer", .flag⟩]
  build := fun (win, tracer, ()) => ⟨win, tracer⟩
  parts := fun a => (a.win, a.tracer, ())

end DebugBridge.Command
