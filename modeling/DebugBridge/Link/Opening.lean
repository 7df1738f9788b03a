import DebugBridge.Link.Gate
import DebugBridge.Link.Greeting

/-!
# Opening a link

A link is open when both sides agree on the protocol version and the commands with which every
session begins are written. What the interpreter sends behind its second greeting stays on the
wire for whoever reads next.
-/

namespace DebugBridge.Gate

/-- The commands with which every session begins. -/
def opening : List Command := [.identify ⟨1, 1⟩, .connect ⟨2⟩, .getWindowLayout]

/-- Sends commands in order until one fails. -/
def sendAll : List Command → Gate → Except Failure Unit × Gate
  | [], g => (.ok (), g)
  | c :: rest, g =>
    match g.send c with
    | (.ok _, g) => sendAll rest g
    | (.error f, g) => (.error f, g)

/-- Opens a link on a wire. Gives the gate, and in any case the wire as it was left. -/
def establish (version patience : Nat) (w : Wire) : Except Failure Gate × Wire :=
  match Greeting.agree version patience w with
  | (.error f, w) => (.error (.within "negotiating protocol version" (.link f)), w)
  | (.ok (), w) =>
    match sendAll opening (ofWire w) with
    | (.error f, g) => (.error (.within "sending session bootstrap" f), g.wire)
    | (.ok (), g) => (.ok g, g.wire)

end DebugBridge.Gate
