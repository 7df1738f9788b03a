import DebugBridge.Json.Parts
import DebugBridge.Json.Writer
import DebugBridge.Link.Wire

/-!
# Entries of a traffic log

A traffic log has one line for each frame, a JSON object with the direction, the moment in
milliseconds since 1970, and the payload. Directions are kept as written, so a log may hold words
that are no direction.
-/

namespace DebugBridge.Traffic

open Json (Tree Value)

/-- An entry of a log. -/
structure Entry where
  direction : String
  milliseconds : UInt64
  payload : String
  deriving Repr, DecidableEq

namespace Entry

/-- The entry of a frame. Moments before 1970 count as its start. -/
def ofPassage (p : Passage) (milliseconds : Int) : Entry :=
  ⟨p.direction.name, UInt64.ofNat milliseconds.toNat, p.payload⟩

/-- Whether the entry is of a frame in a direction. -/
def hasDirection (e : Entry) (d : Direction) : Bool := e.direction = d.name

/-- What the payload says: a JSON value if it is one, else the text itself. -/
def message (e : Entry) : Value := (Value.ofString? e.payload).getD (.text e.payload)

/-- An entry as a JSON object. Its members stand in this order. -/
def toValue (e : Entry) : Value :=
  .object [("direction", .text e.direction), ("timestamp_ms", .nat e.milliseconds.toNat),
    ("payload", .text e.payload)]

/-- The line of an entry, without its end. -/
def toLine (e : Entry) : String := e.toValue.compact

/-- The entry that a line is, if it is one. -/
def ofLine? (line : String) : Option Entry := do
  match ← (← Tree.ofString? line).parts? ["direction", "timestamp_ms", "payload"] with
  | [some direction, some milliseconds, some payload] =>
    pure ⟨← (← direction.scalar?).text?,
      UInt64.ofNat (← (← milliseconds.scalar?).natural? UInt64.size), ← (← payload.scalar?).text?⟩
  | _ => none

end Entry
end DebugBridge.Traffic
