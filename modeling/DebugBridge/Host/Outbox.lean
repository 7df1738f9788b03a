import DebugBridge.Host.Message

/-!
# Writing to the host

Every message that is written gets the next number, counting from one.
-/

namespace DebugBridge.Host

/-- The messages written so far, in order. -/
structure Outbox where
  messages : List Outgoing

namespace Outbox

def empty : Outbox := ⟨[]⟩

def write (o : Outbox) (m : Outgoing) : Outbox := ⟨o.messages ++ [m]⟩

/-- The messages with their numbers. -/
def numbered (o : Outbox) : List (Nat × Outgoing) :=
  o.messages.mapIdx fun i m => (i + 1, m)

/-- All that was written. -/
def text (o : Outbox) : String :=
  String.join (o.numbered.map fun m => framed (m.2.toValue m.1).compact)

end Outbox
end DebugBridge.Host
