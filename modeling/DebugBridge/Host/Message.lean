import DebugBridge.Host.Request
import DebugBridge.Json.Parts
import DebugBridge.Json.Writer
import DebugBridge.Text.Utf8

/-!
# Messages between host and adapter

The host sends requests. It is sent a response to each of them, and events. All are JSON objects
that carry a number; the members of what is sent stand in a fixed order. On the stream every
message is preceded by a header that says how many bytes it has.
-/

namespace DebugBridge.Host

open Json (Tree Value)

/-- The request message that a text is, if it is one. Arguments that are left out are null. -/
def RequestMessage.ofText? (s : String) : Option RequestMessage := do
  match ← (← Tree.ofString? s).parts? ["seq", "command", "arguments"] with
  | [some seq, some command, arguments] =>
    let seq ← (← seq.scalar?).int64?
    let command ← (← command.scalar?).text?
    let arguments ← match arguments with
      | none => some Value.null
      | some t => t.value? (Tree.maxDepth - 1)
    pure ⟨seq, command, arguments⟩
  | _ => none

/-- A message to the host. -/
inductive Outgoing where
  /-- The answer to a request, with what became of it. -/
  | response (request : Int64) (command : String) (result : Except Failure (Option Value))
  | event (name : String) (body : Option Value)

namespace Outgoing

/-- The response to a request message. -/
def toRequest (m : RequestMessage) (result : Except Failure (Option Value)) : Outgoing :=
  response m.seq m.command result

def ofEvent (e : Event) : Outgoing := event e.parts.1 e.parts.2

/-- A member for what is there. -/
def member (key : String) : Option Value → List (String × Value)
  | some v => [(key, v)]
  | none => []

/-- The object of a message with a number. A failed request is told in full. -/
def toValue (seq : Nat) : Outgoing → Value
  | response request command result =>
    let success := match result with
      | .ok _ => true
      | .error _ => false
    .object <|
      [("seq", .nat seq), ("type", .text "response"), ("request_seq", .int64 request),
        ("success", .bool success), ("command", .text command)]
      ++ match result with
        | .ok body => member "body" body
        | .error f => [("message", .text f.text)]
  | event name body =>
    .object <|
      [("seq", .nat seq), ("type", .text "event"), ("event", .text name)] ++ member "body" body

end Outgoing

/-- The line that announces the length of a message. -/
def lengthKey : String := "Content-Length"

/-- A message as it stands on the stream. -/
def framed (body : String) : String :=
  lengthKey ++ ": " ++ toString (Text.bytes body).length ++ "\r\n\r\n" ++ body

end DebugBridge.Host
