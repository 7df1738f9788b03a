import DebugBridge.Failure
import DebugBridge.Command.Basic

/-!
# Waiting for the result of a line of code

A line of code has been run when a ready prompt follows a busy one. Its output is what comes in
between, the repetition of the input aside. An error of the code or the end of the session ends
the wait early.
-/

namespace DebugBridge

/-- How far a wait has come. -/
structure Evaluation where
  /-- The interpreter has been seen running code. -/
  seenBusy : Bool
  output : String
  deriving Repr, DecidableEq

namespace Evaluation

def start : Evaluation := ⟨false, ""⟩

/-- What one message does to a wait: it goes on, or has a result. -/
inductive Progress where
  | waiting (e : Evaluation)
  | done (result : Except Failure String)

/-- Takes one message. -/
def hear (e : Evaluation) : Message → Progress
  | .command (.appendSessionOutput o) =>
    if o.isEcho then .waiting e else .waiting { e with output := e.output ++ o.result }
  | .command (.setPromptType p) =>
    if Command.isBusyPrompt p.prompt then .waiting { e with seenBusy := true }
    else if e.seenBusy then .done (.ok e.output)
    else .waiting e
  | .command (.hadError h) => .done (.error (.plain (e.output ++ h.text)))
  | .command (.disconnect _) | .command (.sysError _) | .command (.internalError _) =>
    .done (.error (.plain "interpreter failed while evaluating"))
  | _ => .waiting e

/-- Takes messages until there is a result. -/
def hearAll : Evaluation → List Message → Progress
  | e, [] => .waiting e
  | e, m :: rest =>
    match e.hear m with
    | .waiting e => hearAll e rest
    | .done result => .done result

/-- The failure of a wait of so many milliseconds. -/
def timedOut (milliseconds : Nat) : Failure :=
  .plain s!"timed out after {Text.span milliseconds} waiting for the interpreter"

/-- The failure of a wait whose link ends. -/
def linkClosed : Failure := .plain "interpreter link closed while waiting for a result"

/-- Takes more messages, unless there is a result. -/
def Progress.hearAll : Progress → List Message → Progress
  | .waiting e, messages => e.hearAll messages
  | .done result, _ => .done result

/-- What a wait of so many milliseconds gives when no more comes, on a link that was open for as
long or has ended. -/
def Progress.result (milliseconds : Nat) (isOpen : Bool) : Progress → Except Failure String
  | .done result => result
  | .waiting _ => .error (if isOpen then timedOut milliseconds else linkClosed)

/-- A line of code with the line end that the interpreter needs. -/
def line (text : String) : String := if text.endsWith "\n" then text else text ++ "\n"

/-- The command that runs a line of code. -/
def command (text : String) : Command := .execute ⟨line text, false⟩

/-- How many messages may wait to be taken by an evaluation. -/
def capacity : Nat := 1024

end Evaluation
end DebugBridge
