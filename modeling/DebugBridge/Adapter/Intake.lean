import DebugBridge.Adapter.Basic

/-!
# What the adapter takes in

Messages from the interpreter are taken one at a time: the gate takes note of each first, then the
desktop, and then its effects are carried out. When the interpreter ends the session, or the link
ends or fails, the session is over, and nothing more is taken in.
-/

namespace DebugBridge.Adapter

/-- Takes in one message from the link. -/
def hear (a : Adapter) (l : Link) (m : Message) : Adapter :=
  let a := a.putGate l (l.gate.hear m)
  let (desktop, effects) := a.desktop.hear m
  let a := { a with desktop, lifecycle := a.lifecycle.after effects }
  let a := effects.events.foldl publish (effects.commands.foldl follow a)
  if effects.fatal then a.dropLink else a

/-- The link has ended without anybody asking for it. -/
def lose (a : Adapter) : Adapter :=
  let a := if a.lifecycle.isRunning then
      (({ a with lifecycle := .terminated }).publish
        (.output .stderr "lost connection to interpreter\n")).publish .terminated
    else a
  a.dropLink

/-- Takes in one frame after another while there are any. Gives the messages. -/
def takeFrames : Nat → Adapter → List Message × Adapter
  | 0, a => ([], a)
  | frames + 1, a =>
    match a.link with
    | none => ([], a)
    | some l =>
      let (result, wire) := l.gate.wire.poll true
      let gate := { l.gate with wire }
      let a := a.putGate l gate
      match result with
      | .ok (.frame payload) =>
        let m := Message.ofPayload payload
        let (messages, a) := takeFrames frames (a.hear { l with gate } m)
        (m :: messages, a)
      | .ok .timeout => ([], a)
      | .ok .closed | .error _ => ([], a.lose)

/-- Takes in all that can be read from the link. Every frame has a byte at least, so the bytes to
come bound the number of frames. -/
def takeIn (a : Adapter) : List Message × Adapter :=
  match a.link with
  | none => ([], a)
  | some l => takeFrames (l.gate.wire.inlet.size + 1) a

/-- Lets something happen on the link with a number. What happens on any other link concerns
nobody. Gives the messages that came in. -/
def happen (a : Adapter) (number : Nat) (h : Happening) : List Message × Adapter :=
  match a.link with
  | none => ([], a)
  | some l =>
    if l.number = number then
      let gate := { l.gate with wire := l.gate.wire.after h }
      { a with link := some { l with gate } }.takeIn
    else ([], a)

end DebugBridge.Adapter
