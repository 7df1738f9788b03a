import DebugBridge.Link.Inlet
import DebugBridge.Link.Outlet

/-!
# Both sides of a link

A wire joins the reading and the writing side and keeps a record of the frames that cross it. A
frame is recorded when it has been read whole, and before it is written; a frame that is too
large to be tried is not recorded.
-/

namespace DebugBridge

/-- Which way a frame goes. -/
inductive Direction where
  /-- From the interpreter. -/
  | inbound
  /-- To the interpreter. -/
  | outbound
  deriving Repr, DecidableEq

/-- The word for a direction. -/
def Direction.name : Direction → String
  | inbound => "inbound"
  | outbound => "outbound"

/-- A frame that crossed a link. -/
structure Passage where
  direction : Direction
  payload : String
  deriving Repr, DecidableEq

/-- A link with the record of its traffic. -/
structure Wire where
  inlet : Inlet
  outlet : Outlet
  /-- The frames recorded so far, in order. -/
  traffic : List Passage

namespace Wire

def ofSides (inlet : Inlet) (outlet : Outlet) : Wire := ⟨inlet, outlet, []⟩

/-- Waits for a frame; see `Inlet.poll`. -/
def poll (w : Wire) (patient : Bool) : Except LinkFault Poll × Wire :=
  let (result, inlet) := w.inlet.poll patient
  let traffic := match result with
    | .ok (.frame payload) => w.traffic ++ [⟨.inbound, payload⟩]
    | _ => w.traffic
  (result, { w with inlet, traffic })

/-- Waits so many milliseconds for a frame, which must come. -/
def expect (w : Wire) (milliseconds : Nat) : Except LinkFault String × Wire :=
  let (result, w) := w.poll (0 < milliseconds)
  (result.bind (Poll.required milliseconds), w)

/-- Writes the frame of a payload. -/
def send (w : Wire) (payload : String) : Except LinkFault Unit × Wire :=
  let (result, outlet) := w.outlet.send payload
  let traffic :=
    if w.outlet.admits payload then w.traffic ++ [⟨.outbound, payload⟩] else w.traffic
  (result, { w with outlet, traffic })

end Wire
end DebugBridge
