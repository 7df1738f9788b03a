import DebugBridge.Desktop.Messages
import DebugBridge.Failure

/-!
# What the desktop answers

Threads, stacks, breakpoints and texts, as the host asks for them. Only a request for breakpoints
changes the desktop: lines for a source that no window shows are deferred.
-/

namespace DebugBridge

open Host (Breakpoint Frame Source Thread)

/-- What becomes of a request for breakpoints. -/
structure BreakpointPlan where
  /-- The command that sets the lines in the window that shows the source. -/
  command : Option Command
  /-- The interpreter is to say again which windows are open. -/
  resync : Bool
  breakpoints : List Breakpoint
  deriving Repr

namespace Desktop

/-- The threads last listed, or the active thread while none were. -/
def threads (d : Desktop) : List Thread :=
  match d.threadList, d.activeThread with
  | [], some id => [⟨id, s!"Thread {id}"⟩]
  | listed, _ => listed

/-- The source of a tracer: its file if it has one, else the reference of its text. -/
def frameSource (d : Desktop) (t : Tracer) : Option Source := do
  let reference ← d.sources.shownBy? t.window
  let path ← d.sources.path? reference
  pure <|
    if path = t.name then ⟨some t.name, none, some (Int64.ofInt reference)⟩
    else ⟨some t.name, some path, none⟩

/-- The name of a frame at a depth of the stack: what the interpreter calls it, if it does. -/
def frameName (names : List String) (depth : Nat) (t : Tracer) : String :=
  match names[depth]? with
  | some name => if name.isEmpty then t.name else name
  | none => t.name

/-- The tracers of a thread, the one activated last first. -/
def suspended (d : Desktop) (thread : Int64) : List Tracer :=
  (d.tracers.filter fun t => t.thread = thread).mergeSort fun t u => u.activated ≤ t.activated

/-- The stack of a thread, innermost first; without a thread, that of the active one. -/
def frames (d : Desktop) (thread : Option Int64) : Except Failure (List Frame) :=
  match thread.or d.activeThread with
  | none => .error (.plain "no thread to report a stack for")
  | some thread =>
    let suspended := d.suspended thread
    if suspended.isEmpty then .error (.plain s!"thread {thread} has no suspended functions")
    else
      let names := (d.stackNames.get? thread).getD []
      .ok (suspended.mapIdx fun depth t =>
        ⟨t.window, frameName names depth t, d.frameSource t, t.line + 1, t.column + 1⟩)

/-- The name by which a request names a source, and the window that shows it. A path counts before
a reference. -/
def locate (d : Desktop) (source : Source) : Except Failure (SourceName × Option Int64) :=
  match source.path, source.reference with
  | some path, _ => .ok (.path path, d.sources.windowOfPath? path)
  | none, some r =>
    if 0 < r then .ok (.reference r.toInt, d.sources.windowOf? r.toInt)
    else .error (.plain "breakpoint source has neither a path nor a source reference")
  | none, none => .error (.plain "breakpoint source has neither a path nor a source reference")

/-- What a requested line becomes. -/
def breakpoint (source : Source) (isOpen : Bool) (line : Int64) : Breakpoint :=
  ⟨line, source,
    if line < 1 then some s!"invalid line {line}"
    else if isOpen then none
    else some "source not open in the interpreter yet"⟩

/-- Plans breakpoints at lines of a source. -/
def planBreakpoints (d : Desktop) (source : Source) (lines : List Int64) :
    Except Failure (BreakpointPlan × Desktop) :=
  match d.locate source with
  | .error f => .error f
  | .ok (name, window) =>
    let valid := lines.filter fun l => 1 ≤ l
    let breakpoints := lines.map (breakpoint source window.isSome)
    match window with
    | some w => .ok (⟨some (.stopsAt w valid), false, breakpoints⟩, d)
    | none =>
      .ok (⟨none, true, breakpoints⟩, { d with deferred := d.deferred.defer name valid })

/-- The text of a source. -/
def sourceText (d : Desktop) (reference : Int) : Except Failure String :=
  match d.texts.get? reference with
  | none => .error (.plain s!"unknown source reference {reference}")
  | some lines => .ok ("\n".intercalate lines)

end Desktop
end DebugBridge
