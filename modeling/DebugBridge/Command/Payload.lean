import DebugBridge.Command.Basic
import DebugBridge.Json.Reader
import DebugBridge.Json.Writer
import DebugBridge.Text.Blank

/-!
# Payloads

A command travels as the JSON array of its name and its arguments. Whatever is not such an array
is kept as the text it is; the lines by which two peers agree on a protocol version are of that
kind.
-/

namespace DebugBridge

open Json (Value Object)

namespace Command

/-- The payload of a name with an argument value. Null stands for an empty object. -/
def payloadOf (name : String) (args : Value) : String :=
  Value.compact (.array [.text name, if args.isNull then .object [] else args])

/-- The payload of a command. -/
def payload (c : Command) : String := payloadOf c.name (.object c.args)

/-- The command that a value is: an array of a name and an object, where null stands for an
object without members. -/
def ofValue? : Value → Option Command
  | .array [.text name, .object args] => some (ofParts name args)
  | .array [.text name, .null] => some (ofParts name [])
  | _ => none

end Command

namespace Message

/-- Reads a payload. Only a text that starts with a bracket, blanks aside, can be a command. -/
def ofPayload (payload : String) : Message :=
  if (Text.trimStart payload).startsWith "[" then
    match (Value.ofString? payload).bind Command.ofValue? with
    | some c => .command c
    | none => .raw payload
  else .raw payload

/-- The payload of a message. -/
def payload : Message → String
  | command c => c.payload
  | raw text => text

end Message
end DebugBridge
