import DebugBridge.Traffic.Log

/-!
# Showing a traffic log

A report is an indented JSON array of what the frames of a log say, all of them or those of one
direction.
-/

namespace DebugBridge.Traffic

open Json (Value)

/-- What is shown of an entry. Its members stand in this order. -/
def Entry.shown (e : Entry) : Value :=
  .object [("direction", .text e.direction), ("timestamp_ms", .nat e.milliseconds.toNat),
    ("message", e.message)]

/-- The report on entries. -/
def report (only : Option Direction) (entries : List Entry) : String :=
  let chosen := entries.filter fun e => only.all e.hasDirection
  (Value.array (chosen.map Entry.shown)).indented ++ "\n"

end DebugBridge.Traffic
