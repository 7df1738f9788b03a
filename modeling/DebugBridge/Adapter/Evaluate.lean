import DebugBridge.Adapter.Intake
import DebugBridge.Link.Evaluation
import DebugBridge.Text.Blank

/-!
# Running code for the host

The adapter runs code of its own, or code that the host wants to know the result of, quietly: the
output is the result and is kept from the host otherwise. Each wait goes on until a message decides
it, the link ends, or nothing more happens in time.
-/

namespace DebugBridge.Adapter

/-- Lets things happen while an evaluation waits, until it is decided. Gives also what has not
happened by then. -/
def await (number : Nat) :
    Evaluation → List Happening → Adapter → Evaluation.Progress × List Happening × Adapter
  | e, [], a => (.waiting e, [], a)
  | e, h :: rest, a =>
    let (messages, a) := a.happen number h
    match e.hearAll messages with
    | .done result => (.done result, rest, a)
    | .waiting e =>
      if a.link.isNone then (.done (.error Evaluation.linkClosed), rest, a)
      else await number e rest a

/-- Sends a command for the request that is being handled. If the link has ended meanwhile, the
command is still written to it. -/
def sendFor (a : Adapter) (l : Link) (c : Command) : Except Failure Sent × Adapter :=
  match a.link with
  | some l => a.sendOver l c
  | none =>
    let l := a.retired.getD l
    let (result, gate) := l.gate.send c
    (result,
      { a with
        retired := some { l with gate }
        journal := a.journal.crossed l.number l.gate.wire gate.wire })

/-- What will happen while the next line of code is awaited, which was written or is queued. -/
def forthcoming (a : Adapter) (written : Bool) : List Happening :=
  (if written then a.answers else a.delays).headD []

/-- The script goes on to the line of code behind the one that was written or is queued. -/
def turnPage (a : Adapter) (written : Bool) : Adapter :=
  if written then { a with answers := a.answers.tail } else { a with delays := a.delays.tail }

/-- Awaits the result of a line of code that was written or queued. Nothing more is heard from a
link that has ended. -/
def awaitResult (a : Adapter) (written : Bool) :
    Except Failure String × List Happening × Adapter :=
  let (progress, rest, a) := match a.link with
    | some l => await l.number .start (a.forthcoming written) (a.turnPage written)
    | none => (.waiting .start, [], a.turnPage written)
  (match progress with
    | .done result => result
    | .waiting _ => .error (Evaluation.timedOut a.settings.evaluationPatience), rest, a)

/-- The rest of what happens behind a result. -/
def settle (happenings : List Happening) (a : Adapter) : Adapter :=
  match a.link with
  | some l => happenings.foldl (fun a h => (a.happen l.number h).2) a
  | none => a

/-- Sets how output is kept from the host. -/
def withQuiet (a : Adapter) (change : Quiet → Quiet) : Adapter :=
  { a with desktop := { a.desktop with quiet := change a.desktop.quiet } }

/-- Runs a line of code and keeps its output from the host. -/
def quietly (a : Adapter) (l : Link) (text : String) : Except Failure String × Adapter :=
  match (a.withQuiet Quiet.start).sendFor l (Evaluation.command text) with
  | (.error f, a) => (.error (.within "sending execute" f), a.withQuiet Quiet.giveUp)
  | (.ok sent, a) =>
    match a.awaitResult (sent = .written) with
    | (.error f, rest, a) => (.error f, settle rest (a.withQuiet Quiet.giveUp))
    | (.ok output, rest, a) => (.ok output, settle rest a)

/-- A text without the line ends behind it. -/
def withoutLineEnds (s : String) : String :=
  String.ofList (s.toList.reverse.dropWhile (· = '\n')).reverse

/-- The output of an expression. -/
def evaluate (a : Adapter) (expression : String) : Except Failure String × Adapter :=
  match a.runningLink "evaluate" with
  | .error f => (.error f, a)
  | .ok l =>
    let (result, a) := a.quietly l expression
    ((result.map withoutLineEnds).mapError
      (.within ("evaluating " ++ Text.quoted expression)), a)

/-- The command that lists names. -/
def listing : String := ")vars"

/-- The values of names. A failure stands in the place of the value. -/
def valuesOf (l : Link) : List String → Adapter → List Host.Variable × Adapter
  | [], a => ([], a)
  | name :: rest, a =>
    let (result, a) := a.quietly l name
    let value := match result with
      | .ok output => withoutLineEnds output
      | .error f => "<" ++ f.headline ++ ">"
    let (found, a) := valuesOf l rest a
    (⟨name, value⟩ :: found, a)

/-- The names known in the innermost suspended function, with their values. Every frame shows the
same ones. -/
def variablesOf (a : Adapter) (reference : Int64) :
    Except Failure (List Host.Variable) × Adapter :=
  if !a.lifecycle.isRunning then
    (.error (a.lifecycle.refusalUnlessRunning "variables"), a)
  else if (a.desktop.tracer? reference).isNone then
    (.error (.plain s!"unknown variables reference {reference}"), a)
  else
    match a.runningLink "variables" with
    | .error f => (.error f, a)
    | .ok l =>
      match a.quietly l listing with
      | (.error f, a) => (.error (.within "listing variables" f), a)
      | (.ok names, a) =>
        let (found, a) := valuesOf l ((Text.words names).take a.settings.maxVariables) a
        (.ok found, a)

end DebugBridge.Adapter
