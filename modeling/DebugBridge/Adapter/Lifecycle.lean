import DebugBridge.Desktop.Messages
import DebugBridge.Failure

/-!
# The life of a session

A session is created, then initialized, then running, then terminated. A request that does not
fit the state is refused, and the refusal names the state.
-/

namespace DebugBridge

/-- How the interpreter came to be debugged. -/
inductive RunMode where
  | launched
  | attached
  deriving Repr, DecidableEq

/-- The state of a session. -/
inductive Lifecycle where
  | created
  | initialized
  | running (mode : RunMode)
  | terminated
  deriving Repr, DecidableEq

namespace Lifecycle

def isRunning : Lifecycle → Bool
  | running _ => true
  | _ => false

/-- The name of a state. -/
def name : Lifecycle → String
  | created => "created"
  | initialized => "initialized"
  | running .launched => "running (launched)"
  | running .attached => "running (attached)"
  | terminated => "terminated"

/-- The refusal of a request in a state that does not allow it. -/
def refusal (state : Lifecycle) (request : String) : Failure :=
  .plain s!"cannot handle {request} while session is {state.name}"

/-- The refusal of a request that only a running session can handle. -/
def refusalUnlessRunning (state : Lifecycle) (request : String) : Failure :=
  .plain s!"cannot handle {request} while session is {state.name}, expected running"

/-- The refusal of a request that needs a link when there is none. -/
def refusalWithoutLink (request : String) : Failure :=
  .plain s!"cannot handle {request}: no interpreter connection"

/-- The state behind the effects of a message. -/
def after (state : Lifecycle) (e : Effects) : Lifecycle := if e.fatal then terminated else state

end Lifecycle
end DebugBridge
