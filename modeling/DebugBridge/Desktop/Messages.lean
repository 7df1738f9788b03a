import DebugBridge.Command.Basic
import DebugBridge.Desktop.Basic
import DebugBridge.Text.Blank

/-!
# What messages do to the desktop

Each message from the interpreter changes the desktop and has effects: commands for the
interpreter, events for the host, or the end of the session. The effects are only named here; the
adapter carries them out.
-/

namespace DebugBridge

open Host (Event Thread)

/-- What is to be done because of a message. -/
structure Effects where
  commands : List Command
  events : List Event
  /-- The interpreter has ended the session. -/
  fatal : Bool
  deriving Repr

namespace Effects

def none : Effects := ⟨[], [], false⟩

def ofEvent (e : Event) : Effects := ⟨[], [e], false⟩

/-- The effects of a message that ends the session. -/
def ending (text : String) : Effects :=
  ⟨[], [.output .stderr (text ++ "\n"), .terminated], true⟩

end Effects

namespace Command

/-- The source that a window shows: its file, or else the function it edits. -/
def Window.source (w : Window) : String := if w.fileName.isEmpty then w.name else w.fileName

def Window.sighting (w : Window) : Sighting := ⟨w.name, w.tid, w.currentRow, w.currentColumn⟩

/-- What a thread is called. -/
def Thread.shownName (t : Thread) : String :=
  if t.description.isEmpty then s!"Thread {t.tid}" else t.description

/-- The command that sets the stops of a window. Lines count from one here. -/
def stopsAt (window : Int64) (lines : List Int64) : Command :=
  .setLineAttributes ⟨window, lines.map (· - 1), none, none⟩

end Command

namespace Desktop

/-- The program has stopped: the host is told, and the names of the stack, which no longer hold,
are asked for again. -/
def stop (d : Desktop) (reason : Host.StopReason) (text : Option String) : Desktop × Effects :=
  let thread := d.currentThread
  ({ d with stackNames := d.stackNames.erase thread },
    ⟨[.getStack], [.stopped reason thread text], false⟩)

/-- Notes what a window shows. Gives the reference of its source. -/
def note (d : Desktop) (w : Command.Window) : Int × Desktop :=
  let (reference, sources) := d.sources.bind w.token w.source
  (reference,
    { d with
      windows := d.windows.insert w.token w.sighting
      sources
      texts := d.texts.insert reference w.text })

/-- A window opens. Lines that wait for its source are set in it. -/
def openWindow (d : Desktop) (w : Command.Window) : Desktop × Effects :=
  let (reference, d) := d.note w
  let (d, effects) :=
    if w.debugger then
      (d.activate ⟨w.token, d.threadFor w.tid, w.name, w.currentRow, w.currentColumn, 0⟩).stop
        .entry none
    else (d, .none)
  match d.deferred.newest? w.source reference with
  | none => (d, effects)
  | some lines =>
    ({ d with deferred := d.deferred.settle w.source reference },
      { effects with commands := effects.commands ++ [.stopsAt w.token lines] })

/-- A window shows something else. -/
def updateWindow (d : Desktop) (w : Command.Window) : Desktop :=
  let d := (d.note w).2
  { d with
    tracers := d.tracers.map fun t =>
      if t.window = w.token then
        { t with
          name := w.name, line := w.currentRow, column := w.currentColumn
          thread := w.tid.getD t.thread }
      else t }

/-- A window closes. -/
def closeWindow (d : Desktop) (window : Int64) : Desktop :=
  let d := { d with windows := d.windows.erase window, sources := d.sources.unbind window }
  (d.dropTracer window).reselect window

/-- A tracer reaches a line. The program has stopped even if no tracer is known. -/
def highlight (d : Desktop) (h : Command.SetHighlightLine) : Desktop × Effects :=
  let d := match d.tracer? h.win with
    | none => d
    | some t => d.activate { t with line := h.line, column := h.startColumn }
  d.stop .step none

/-- An open window becomes a tracer. It is not activated by that. -/
def startTracing (d : Desktop) (window : Int64) : Desktop :=
  match d.tracer? window, d.windows.get? window with
  | none, some s =>
    let t : Tracer := ⟨window, d.threadFor s.thread, s.name, s.line, s.column, 0⟩
    { d with tracers := Tracer.put t d.tracers }
  | _, _ => d

/-- A window is a tracer no longer. -/
def stopTracing (d : Desktop) (window : Int64) : Desktop :=
  match d.tracer? window with
  | none => d
  | some _ => (d.dropTracer window).reselect window

/-- The threads of a list, each once, as the host sees them. -/
def listThreads : List Command.Thread → List Thread → List Thread
  | [], listed => listed
  | t :: rest, listed =>
    listThreads rest
      (if listed.any fun l => l.id = t.tid then listed else listed ++ [⟨t.tid, t.shownName⟩])

/-- Takes a command from the interpreter. -/
def hearCommand (d : Desktop) : Command → Desktop × Effects
  | .openWindow w => d.openWindow w
  | .updateWindow w => (d.updateWindow w, .none)
  | .closeWindow r => (d.closeWindow r.win, .none)
  | .setHighlightLine h => d.highlight h
  | .setThread t => ({ d with activeThread := some t.tid }, .none)
  | .hadError e => d.stop .exception (some e.text)
  | .disconnect m =>
    (d, .ending (if m.message.isEmpty then "interpreter disconnected"
      else "interpreter disconnected: " ++ m.message))
  | .sysError e => (d, .ending ("interpreter system error: " ++ e.text))
  | .internalError e =>
    (d, .ending ("interpreter internal error: "
      ++ Command.describeError e.error [e.errorText, e.message, e.dmx]))
  | .replyGetThreads r => ({ d with threadList := listThreads r.threads [] }, .none)
  | .replyGetStack r =>
    let names := r.stack.map fun e => Text.trim e.description
    ({ d with stackNames := d.stackNames.insert r.tid names }, .none)
  | .windowTypeChanged c =>
    (if c.tracer then d.startTracing c.win else d.stopTracing c.win, .none)
  | .setPromptType p => ({ d with quiet := d.quiet.prompt p.prompt }, .none)
  | .appendSessionOutput o =>
    (d, if o.isEcho || d.quiet.hides then .none else .ofEvent (.output .stdout o.result))
  | .unknownCommand u =>
    (d, .ofEvent (.output .console s!"interpreter did not recognise command {u.name}\n"))
  | .other name _ =>
    (d, .ofEvent (.output .console s!"unhandled interpreter command {name}\n"))
  | _ => (d, .none)

/-- Takes a message from the interpreter. -/
def hear (d : Desktop) : Message → Desktop × Effects
  | .command c => d.hearCommand c
  | .raw _ => (d, .none)

end Desktop
end DebugBridge
