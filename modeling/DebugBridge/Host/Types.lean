import DebugBridge.Json.Value

/-!
# What the host sees

The values in which a session is told to the debugging host, with their JSON forms. Lines and
columns count from one here.
-/

namespace DebugBridge.Host

open Json (Value)

/-- A source, by any of the ways to name it. -/
structure Source where
  name : Option String
  path : Option String
  reference : Option Int64
  deriving Repr, DecidableEq

/-- A thread of the debugged program. -/
structure Thread where
  id : Int64
  name : String
  deriving Repr, DecidableEq

/-- A level of the stack. -/
structure Frame where
  id : Int64
  name : String
  source : Option Source
  line : Int64
  column : Int64
  deriving Repr, DecidableEq

/-- What became of a requested breakpoint. It is verified unless there is a message. -/
structure Breakpoint where
  line : Int64
  source : Source
  message : Option String
  deriving Repr, DecidableEq

/-- A group of variables. -/
structure Scope where
  name : String
  presentationHint : String
  reference : Int64
  expensive : Bool
  deriving Repr, DecidableEq

structure Variable where
  name : String
  value : String
  deriving Repr, DecidableEq

/-- Why the program stopped. -/
inductive StopReason where
  | entry
  | step
  | exception
  deriving Repr, DecidableEq

inductive OutputCategory where
  | console
  | stdout
  | stderr
  deriving Repr, DecidableEq

/-- What the host is told without having asked. -/
inductive Event where
  | initialized
  | stopped (reason : StopReason) (thread : Int64) (text : Option String)
  | output (category : OutputCategory) (text : String)
  | terminated
  deriving Repr, DecidableEq

def StopReason.name : StopReason → String
  | entry => "entry"
  | step => "step"
  | exception => "exception"

def OutputCategory.name : OutputCategory → String
  | console => "console"
  | stdout => "stdout"
  | stderr => "stderr"

/-- The object with those members that have a value. -/
def record (members : List (String × Option Value)) : Value :=
  .object (Json.Object.ofOptional members)

def Source.toValue (s : Source) : Value :=
  record [("name", s.name.map .text), ("path", s.path.map .text),
    ("sourceReference", s.reference.map .int64)]

def Thread.toValue (t : Thread) : Value := .record [("id", .int64 t.id), ("name", .text t.name)]

def Frame.toValue (f : Frame) : Value :=
  record [("id", some (.int64 f.id)), ("name", some (.text f.name)),
    ("source", f.source.map Source.toValue), ("line", some (.int64 f.line)),
    ("column", some (.int64 f.column))]

def Breakpoint.isVerified (b : Breakpoint) : Bool := b.message.isNone

def Breakpoint.toValue (b : Breakpoint) : Value :=
  record [("verified", some (.bool b.isVerified)), ("line", some (.int64 b.line)),
    ("source", some b.source.toValue), ("message", b.message.map .text)]

def Scope.toValue (s : Scope) : Value :=
  .record [("name", .text s.name), ("presentationHint", .text s.presentationHint),
    ("variablesReference", .int64 s.reference), ("expensive", .bool s.expensive)]

def Variable.toValue (v : Variable) : Value :=
  .record [("name", .text v.name), ("value", .text v.value), ("variablesReference", .int64 0)]

/-- The name of an event and its body. -/
def Event.parts : Event → String × Option Value
  | initialized => ("initialized", none)
  | stopped reason thread text =>
    ("stopped", some (record [("reason", some (.text reason.name)),
      ("threadId", some (.int64 thread)), ("allThreadsStopped", some (.bool true)),
      ("text", text.map .text)]))
  | output category text =>
    ("output", some (.record [("category", .text category.name), ("output", .text text)]))
  | terminated => ("terminated", none)

end DebugBridge.Host
