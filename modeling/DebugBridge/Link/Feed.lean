import DebugBridge.Command.Basic

/-!
# The feed of incoming messages

Every message from the interpreter is offered to all subscribers. A subscriber has room for a
number of messages it has not taken yet; a message that finds no room is lost to that subscriber
alone. A subscriber that has gone is noticed at the next message.
-/

namespace DebugBridge

/-- A subscription to the feed. -/
structure Subscriber where
  capacity : Nat
  /-- The messages not taken yet, in order. -/
  buffer : List Message
  /-- The feed still offers messages to it. -/
  attached : Bool
  /-- Somebody may still take its messages. -/
  listening : Bool
  deriving Repr

namespace Subscriber

/-- A new subscriber has room for one message at least. -/
def ofCapacity (capacity : Nat) : Subscriber := ⟨max capacity 1, [], true, true⟩

def isFull (s : Subscriber) : Bool := s.capacity ≤ s.buffer.length

/-- Whether a message offered now is lost. -/
def misses (s : Subscriber) : Bool := s.attached && s.listening && s.isFull

/-- The subscriber after a message is offered to it. -/
def offer (s : Subscriber) (m : Message) : Subscriber :=
  if !s.attached then s
  else if !s.listening then { s with attached := false }
  else if s.isFull then s
  else { s with buffer := s.buffer ++ [m] }

end Subscriber

/-- The subscribers, in the order in which they came, and how many messages were lost. -/
structure Feed where
  subscribers : List Subscriber
  lost : Nat
  deriving Repr

namespace Feed

def empty : Feed := ⟨[], 0⟩

/-- Adds a subscriber. Its number is how many there were before. -/
def subscribe (f : Feed) (capacity : Nat) : Nat × Feed :=
  (f.subscribers.length, { f with subscribers := f.subscribers ++ [.ofCapacity capacity] })

/-- Offers a message to all subscribers. -/
def publish (f : Feed) (m : Message) : Feed :=
  ⟨f.subscribers.map (·.offer m), f.lost + f.subscribers.countP (·.misses)⟩

/-- Ends the feed for everybody. What was buffered can still be taken. -/
def close (f : Feed) : Feed :=
  { f with subscribers := f.subscribers.map fun s => { s with attached := false } }

/-- The next message of a subscriber, if there is one, and the feed when it is taken. -/
def next? (f : Feed) (number : Nat) : Option (Message × Feed) :=
  match f.subscribers[number]? with
  | none => none
  | some s =>
    match s.buffer with
    | [] => none
    | m :: rest =>
      some (m, { f with subscribers := f.subscribers.set number { s with buffer := rest } })

/-- Takes all messages of a subscriber, and says whether there will be no more. -/
def take (f : Feed) (number : Nat) : List Message × Bool × Feed :=
  match f.subscribers[number]? with
  | none => ([], true, f)
  | some s =>
    (s.buffer, !s.attached,
      { f with subscribers := f.subscribers.set number { s with buffer := [] } })

/-- A subscriber goes. Its messages go with it. -/
def leave (f : Feed) (number : Nat) : Feed :=
  { f with subscribers := f.subscribers.modify number fun s =>
      { s with listening := false, buffer := [] } }

/-- How many subscribers the feed knows of. -/
def count (f : Feed) : Nat := f.subscribers.countP (·.attached)

end Feed
end DebugBridge
