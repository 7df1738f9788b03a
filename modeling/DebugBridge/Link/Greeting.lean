import DebugBridge.Link.Wire

/-!
# Agreeing on a protocol version

The interpreter speaks first and names the version it supports. The client repeats the greeting
and names the version it uses, and the interpreter repeats that. Any other text or order ends the
agreement, and nothing is tried again.
-/

namespace DebugBridge.Greeting

/-- The version spoken when no other is set. -/
def defaultVersion : Nat := 2

/-- How long to wait for each greeting when nothing else is set, in milliseconds. -/
def defaultPatience : Nat := 10000

def supported (version : Nat) : String := s!"SupportedProtocols={version}"

def chosen (version : Nat) : String := s!"UsingProtocol={version}"

/-- Waits for one text that must be the expected one. -/
def hear (expected : String) (patience : Nat) (w : Wire) : Except LinkFault Unit × Wire :=
  match w.expect patience with
  | (.error f, w) => (.error f, w)
  | (.ok received, w) =>
    (if received = expected then .ok () else .error (.greeting expected received), w)

/-- Agrees on a version. -/
def agree (version patience : Nat) (w : Wire) : Except LinkFault Unit × Wire :=
  match hear (supported version) patience w with
  | (.error f, w) => (.error f, w)
  | (.ok (), w) =>
    match w.send (supported version) with
    | (.error f, w) => (.error f, w)
    | (.ok (), w) =>
      match w.send (chosen version) with
      | (.error f, w) => (.error f, w)
      | (.ok (), w) => hear (chosen version) patience w

end DebugBridge.Greeting
