import DebugBridge.Command.Arguments

/-!
# Commands

The two peers of a session exchange commands: a name and an object of arguments. A command whose
name is known and whose arguments fit its shape is typed. Any other keeps its name and its
arguments as they are.
-/

namespace DebugBridge

open Json (Value Object)

/-- A command of the session. -/
inductive Command where
  | identify (args : Command.Identify)
  | replyIdentify (args : Command.ReplyIdentify)
  | connect (args : Command.Connect)
  | execute (args : Command.Execute)
  | setPromptType (args : Command.SetPromptType)
  | appendSessionOutput (args : Command.AppendSessionOutput)
  | openWindow (args : Command.Window)
  | updateWindow (args : Command.Window)
  | closeWindow (args : Command.WindowRef)
  | setLineAttributes (args : Command.SetLineAttributes)
  | setHighlightLine (args : Command.SetHighlightLine)
  | continue (args : Command.WindowRef)
  | runCurrentLine (args : Command.WindowRef)
  | stepInto (args : Command.WindowRef)
  | continueTrace (args : Command.WindowRef)
  | replyGetThreads (args : Command.ReplyGetThreads)
  | setThread (args : Command.ThreadRef)
  | focusThread (args : Command.ThreadRef)
  | replyGetStack (args : Command.ReplyGetStack)
  | saveChanges (args : Command.SaveChanges)
  | replySaveChanges (args : Command.ReplySaveChanges)
  | hadError (args : Command.HadError)
  | disconnect (args : Command.Disconnect)
  | sysError (args : Command.SysError)
  | internalError (args : Command.InternalError)
  | unknownCommand (args : Command.UnknownCommand)
  | canAcceptInput (args : Command.CanAcceptInput)
  | windowTypeChanged (args : Command.WindowTypeChanged)
  | getWindowLayout
  | restartThreads
  | weakInterrupt
  | strongInterrupt
  | getThreads
  | getStack
  /-- A command that is not typed. -/
  | other (name : String) (args : Object)
  deriving Repr

namespace Command

/-- A known command with arguments: its name, the shape of its arguments, and the command that
arguments make. -/
structure Form where
  name : String
  Args : Type
  shape : Shape Args
  make : Args → Command

/-- The known commands with arguments. -/
def forms : List Form :=
  [⟨"Identify", _, Identify.shape, .identify⟩,
   ⟨"ReplyIdentify", _, ReplyIdentify.shape, .replyIdentify⟩,
   ⟨"Connect", _, Connect.shape, .connect⟩,
   ⟨"Execute", _, Execute.shape, .execute⟩,
   ⟨"SetPromptType", _, SetPromptType.shape, .setPromptType⟩,
   ⟨"AppendSessionOutput", _, AppendSessionOutput.shape, .appendSessionOutput⟩,
   ⟨"OpenWindow", _, Window.shape, .openWindow⟩,
   ⟨"UpdateWindow", _, Window.shape, .updateWindow⟩,
   ⟨"CloseWindow", _, WindowRef.shape, .closeWindow⟩,
   ⟨"SetLineAttributes", _, SetLineAttributes.shape, .setLineAttributes⟩,
   ⟨"SetHighlightLine", _, SetHighlightLine.shape, .setHighlightLine⟩,
   ⟨"Continue", _, WindowRef.shape, .continue⟩,
   ⟨"RunCurrentLine", _, WindowRef.shape, .runCurrentLine⟩,
   ⟨"StepInto", _, WindowRef.shape, .stepInto⟩,
   ⟨"ContinueTrace", _, WindowRef.shape, .continueTrace⟩,
   ⟨"ReplyGetThreads", _, ReplyGetThreads.shape, .replyGetThreads⟩,
   ⟨"SetThread", _, ThreadRef.shape, .setThread⟩,
   ⟨"FocusThread", _, ThreadRef.shape, .focusThread⟩,
   ⟨"ReplyGetSIStack", _, ReplyGetStack.shape, .replyGetStack⟩,
   ⟨"SaveChanges", _, SaveChanges.shape, .saveChanges⟩,
   ⟨"ReplySaveChanges", _, ReplySaveChanges.shape, .replySaveChanges⟩,
   ⟨"HadError", _, HadError.shape, .hadError⟩,
   ⟨"Disconnect", _, Disconnect.shape, .disconnect⟩,
   ⟨"SysError", _, SysError.shape, .sysError⟩,
   ⟨"InternalError", _, InternalError.shape, .internalError⟩,
   ⟨"UnknownCommand", _, UnknownCommand.shape, .unknownCommand⟩,
   ⟨"CanAcceptInput", _, CanAcceptInput.shape, .canAcceptInput⟩,
   ⟨"WindowTypeChanged", _, WindowTypeChanged.shape, .windowTypeChanged⟩]

/-- The known commands without arguments. They ignore the arguments they are sent with. -/
def bare : List (String × Command) :=
  [("GetWindowLayout", .getWindowLayout), ("RestartThreads", .restartThreads),
   ("WeakInterrupt", .weakInterrupt), ("StrongInterrupt", .strongInterrupt),
   ("GetThreads", .getThreads), ("GetSIStack", .getStack)]

/-- The names of all known commands. -/
def knownNames : List String := forms.map Form.name ++ bare.map Prod.fst

/-- The command with a name and arguments. -/
def ofParts (name : String) (args : Object) : Command :=
  match forms.find? fun f => f.name = name with
  | some f => ((f.shape.read? args).map f.make).getD (.other name args)
  | none => (bare.lookup name).getD (.other name args)

/-- The name and the arguments of a command. -/
def parts : Command → String × Object
  | identify a => ("Identify", Identify.shape.write a)
  | replyIdentify a => ("ReplyIdentify", ReplyIdentify.shape.write a)
  | connect a => ("Connect", Connect.shape.write a)
  | execute a => ("Execute", Execute.shape.write a)
  | setPromptType a => ("SetPromptType", SetPromptType.shape.write a)
  | appendSessionOutput a => ("AppendSessionOutput", AppendSessionOutput.shape.write a)
  | openWindow a => ("OpenWindow", Window.shape.write a)
  | updateWindow a => ("UpdateWindow", Window.shape.write a)
  | closeWindow a => ("CloseWindow", WindowRef.shape.write a)
  | setLineAttributes a => ("SetLineAttributes", SetLineAttributes.shape.write a)
  | setHighlightLine a => ("SetHighlightLine", SetHighlightLine.shape.write a)
  | .continue a => ("Continue", WindowRef.shape.write a)
  | runCurrentLine a => ("RunCurrentLine", WindowRef.shape.write a)
  | stepInto a => ("StepInto", WindowRef.shape.write a)
  | continueTrace a => ("ContinueTrace", WindowRef.shape.write a)
  | replyGetThreads a => ("ReplyGetThreads", ReplyGetThreads.shape.write a)
  | setThread a => ("SetThread", ThreadRef.shape.write a)
  | focusThread a => ("FocusThread", ThreadRef.shape.write a)
  | replyGetStack a => ("ReplyGetSIStack", ReplyGetStack.shape.write a)
  | saveChanges a => ("SaveChanges", SaveChanges.shape.write a)
  | replySaveChanges a => ("ReplySaveChanges", ReplySaveChanges.shape.write a)
  | hadError a => ("HadError", HadError.shape.write a)
  | disconnect a => ("Disconnect", Disconnect.shape.write a)
  | sysError a => ("SysError", SysError.shape.write a)
  | internalError a => ("InternalError", InternalError.shape.write a)
  | unknownCommand a => ("UnknownCommand", UnknownCommand.shape.write a)
  | canAcceptInput a => ("CanAcceptInput", CanAcceptInput.shape.write a)
  | windowTypeChanged a => ("WindowTypeChanged", WindowTypeChanged.shape.write a)
  | getWindowLayout => ("GetWindowLayout", [])
  | restartThreads => ("RestartThreads", [])
  | weakInterrupt => ("WeakInterrupt", [])
  | strongInterrupt => ("StrongInterrupt", [])
  | getThreads => ("GetThreads", [])
  | getStack => ("GetSIStack", [])
  | other name args => (name, args)

def name (c : Command) : String := c.parts.1

def args (c : Command) : Object := c.parts.2

/-- Whether the command is typed. -/
def isKnown : Command → Bool
  | other .. => false
  | _ => true

/-- The window that a command is addressed to or reports on. -/
def window? : Command → Option Int64
  | openWindow w | updateWindow w => some w.token
  | closeWindow r | .continue r | runCurrentLine r | stepInto r | continueTrace r => some r.win
  | setLineAttributes a => some a.win
  | setHighlightLine a => some a.win
  | saveChanges a => some a.win
  | replySaveChanges a => some a.win
  | windowTypeChanged a => some a.win
  | _ => none

end Command

/-- What a payload turns out to be. -/
inductive Message where
  | command (c : Command)
  | raw (text : String)
  deriving Repr

end DebugBridge
