import DebugBridge.Desktop.Queries
import DebugBridge.Proofs.Desktop.Sources

/-!
# The history of a desktop

A desktop starts empty and takes one input after another: messages of the interpreter, requests
for breakpoints, and evaluations that begin to be awaited or are given up. Nothing is said about
the order in which it keeps its tracers, so at any time they may come to stand in another. Its
history lists these inputs, the latest first. Of a message it matters here what it says about the
interpreter's windows. Five kinds of message say anything; whatever else comes leaves the windows,
the tracers, the active window and the sources as they are.
-/

namespace DebugBridge

/-- The name by which a source is requested: its path if there is one, else its reference. -/
def SourceName.ofSource? (s : Host.Source) : Option SourceName :=
  match s.path, s.reference with
  | some p, _ => some (.path p)
  | none, some r => if 0 < r then some (.reference r.toInt) else none
  | none, none => none

/-- The window that shows the source with a name. -/
def Sources.windowNamed? (s : Sources) : SourceName → Option Int64
  | .path p => s.windowOfPath? p
  | .reference r => s.windowOf? r

namespace Desktop

/-- What reaches a desktop. -/
inductive Input where
  | message (m : Message)
  /-- Breakpoints are requested at lines of a source. -/
  | request (source : Host.Source) (lines : List Int64)
  /-- An evaluation begins to be awaited. -/
  | awaited
  /-- An evaluation is awaited no longer. -/
  | givenUp
  /-- The tracers come to stand in another order. -/
  | reordered (order : List Tracer)

/-- What an input says about the interpreter's windows. -/
inductive News where
  | opened (w : Command.Window)
  | updated (w : Command.Window)
  | closed (window : Int64)
  | highlighted (h : Command.SetHighlightLine)
  /-- A window becomes a tracer or is one no longer. -/
  | retyped (c : Command.WindowTypeChanged)
  | nothing

/-- What a command says about windows. -/
def News.ofCommand : Command → News
  | .openWindow w => opened w
  | .updateWindow w => updated w
  | .closeWindow r => closed r.win
  | .setHighlightLine h => highlighted h
  | .windowTypeChanged c => retyped c
  | _ => nothing

namespace Input

def news : Input → News
  | message (.command c) => .ofCommand c
  | message (.raw _) | request _ _ | awaited | givenUp | reordered _ => .nothing

/-- The interpreter opens a window. -/
abbrev opening (w : Command.Window) : Input := message (.command (.openWindow w))

/-- A window of the interpreter shows something else. -/
abbrev updating (w : Command.Window) : Input := message (.command (.updateWindow w))

/-- A window of the interpreter closes. -/
abbrev closing (r : Command.WindowRef) : Input := message (.command (.closeWindow r))

/-- A tracer of the interpreter reaches a line. -/
abbrev highlighting (h : Command.SetHighlightLine) : Input :=
  message (.command (.setHighlightLine h))

/-- A window becomes a tracer or is one no longer. -/
abbrev retyping (c : Command.WindowTypeChanged) : Input :=
  message (.command (.windowTypeChanged c))

/-- An input says one of five things about windows, or nothing. -/
@[elab_as_elim]
theorem newsCases {motive : Input → Prop} (opening : ∀ w, motive (opening w))
    (updating : ∀ w, motive (updating w)) (closing : ∀ r, motive (closing r))
    (highlighting : ∀ h, motive (highlighting h)) (retyping : ∀ c, motive (retyping c))
    (nothing : ∀ i, i.news = .nothing → motive i) (i : Input) : motive i := by
  cases i with
  | message m =>
    cases m with
    | raw => exact nothing _ rfl
    | command c =>
      cases c with
      | openWindow w => exact opening w
      | updateWindow w => exact updating w
      | closeWindow r => exact closing r
      | setHighlightLine h => exact highlighting h
      | windowTypeChanged c => exact retyping c
      | _ => exact nothing _ rfl
  | request | awaited | givenUp | reordered => exact nothing _ rfl

end Input

/-- The desktop after an input. -/
def after (d : Desktop) : Input → Desktop
  | .message m => (d.hear m).1
  | .request source lines =>
    match d.planBreakpoints source lines with
    | .ok (_, d) => d
    | .error _ => d
  | .awaited => { d with quiet := d.quiet.start }
  | .givenUp => { d with quiet := d.quiet.giveUp }
  | .reordered order => if order.isPerm d.tracers then { d with tracers := order } else d

/-- The commands for the interpreter that an input gives rise to. -/
def commands (d : Desktop) : Input → List Command
  | .message m => (d.hear m).2.commands
  | .request source lines =>
    match d.planBreakpoints source lines with
    | .ok (plan, _) => plan.command.toList
    | .error _ => []
  | .awaited | .givenUp | .reordered _ => []

/-- What the host is told because of an input. -/
def events (d : Desktop) : Input → List Host.Event
  | .message m => (d.hear m).2.events
  | .request _ _ | .awaited | .givenUp | .reordered _ => []

/-- The desktop behind a history. -/
def ofHistory : List Input → Desktop
  | [] => .empty
  | i :: earlier => (ofHistory earlier).after i

variable (d : Desktop)

/-! ## Requests -/

theorem locate_eq (source : Host.Source) :
    d.locate source =
      match SourceName.ofSource? source with
      | some name => .ok (name, d.sources.windowNamed? name)
      | none => .error (.plain "breakpoint source has neither a path nor a source reference") := by
  obtain ⟨_, path, reference⟩ := source
  cases path with
  | some p => rfl
  | none =>
    cases reference with
    | none => rfl
    | some r => by_cases positive : 0 < r <;> simp [locate, SourceName.ofSource?, positive,
        Sources.windowNamed?]

/-- The lines of a request that can be set. -/
def validLines (lines : List Int64) : List Int64 := lines.filter fun l => 1 ≤ l

/-- A request for a source that a window shows. -/
theorem planBreakpoints_shown {source : Host.Source} {name : SourceName} {window : Int64}
    (named : SourceName.ofSource? source = some name)
    (shown : d.sources.windowNamed? name = some window) (lines : List Int64) :
    d.planBreakpoints source lines =
      .ok (⟨some (.stopsAt window (validLines lines)), false,
        lines.map (breakpoint source true)⟩, d) := by
  rw [planBreakpoints, locate_eq, named]
  simp only [shown]
  rfl

/-- A request for a source that no window shows. -/
theorem planBreakpoints_unshown {source : Host.Source} {name : SourceName}
    (named : SourceName.ofSource? source = some name)
    (unshown : d.sources.windowNamed? name = none) (lines : List Int64) :
    d.planBreakpoints source lines =
      .ok (⟨none, true, lines.map (breakpoint source false)⟩,
        { d with deferred := d.deferred.defer name (validLines lines) }) := by
  rw [planBreakpoints, locate_eq, named]
  simp only [unshown]
  rfl

/-- A request for no source. -/
theorem planBreakpoints_unnamed {source : Host.Source}
    (unnamed : SourceName.ofSource? source = none) (lines : List Int64) :
    ∃ f, d.planBreakpoints source lines = .error f := by
  rw [planBreakpoints, locate_eq, unnamed]
  exact ⟨_, rfl⟩

/-- A request changes the deferred lines at most. -/
theorem after_request (source : Host.Source) (lines : List Int64) :
    ∃ deferred, d.after (.request source lines) = { d with deferred } := by
  cases named : SourceName.ofSource? source with
  | none =>
    obtain ⟨f, failed⟩ := d.planBreakpoints_unnamed named lines
    exact ⟨d.deferred, by simp only [after, failed]⟩
  | some name =>
    cases shown : d.sources.windowNamed? name with
    | none =>
      refine ⟨d.deferred.defer name (validLines lines), ?_⟩
      simp only [after, d.planBreakpoints_unshown named shown]
    | some window =>
      exact ⟨d.deferred, by simp only [after, d.planBreakpoints_shown named shown]⟩

/-- The order of the tracers is all that changes with it. -/
theorem after_reordered (order : List Tracer) :
    ∃ tracers, tracers.Perm d.tracers ∧ d.after (.reordered order) = { d with tracers } := by
  rw [after]
  split
  case isTrue same => exact ⟨order, List.isPerm_iff.mp same, rfl⟩
  case isFalse => exact ⟨d.tracers, List.Perm.refl _, rfl⟩

/-! ## Inputs that say nothing of windows -/

/-- The fields of a desktop that tell of windows are as before, but for the order of the tracers. -/
structure SameWindows (before after : Desktop) : Prop where
  windows : after.windows = before.windows
  tracers : after.tracers.Perm before.tracers
  activations : after.activations = before.activations
  activeWindow : after.activeWindow = before.activeWindow
  sources : after.sources = before.sources

theorem SameWindows.refl : SameWindows d d := ⟨rfl, .refl _, rfl, rfl, rfl⟩

theorem after_of_nothing {i : Input} (h : i.news = .nothing) : SameWindows d (d.after i) := by
  cases i with
  | message m =>
    cases m with
    | raw => exact .refl d
    | command c =>
      cases c with
      | openWindow | updateWindow | closeWindow | setHighlightLine | windowTypeChanged => cases h
      | _ => exact ⟨rfl, .refl _, rfl, rfl, rfl⟩
  | request source lines =>
    obtain ⟨deferred, same⟩ := d.after_request source lines
    rw [same]
    exact ⟨rfl, .refl _, rfl, rfl, rfl⟩
  | awaited | givenUp => exact ⟨rfl, .refl _, rfl, rfl, rfl⟩
  | reordered order =>
    obtain ⟨tracers, perm, same⟩ := d.after_reordered order
    rw [same]
    exact ⟨rfl, perm, rfl, rfl, rfl⟩

/-! ## Opening a window -/

section openWindow
variable (w : Command.Window)

/-- The tracer that an opened window would be. -/
def tracerOf : Tracer := ⟨w.token, d.threadFor w.tid, w.name, w.currentRow, w.currentColumn, 0⟩

/-- A window appears. Lines that wait for its source are left aside. -/
def appear : Desktop × Effects :=
  if w.debugger then ((d.note w).2.activate (d.tracerOf w)).stop .entry none
  else ((d.note w).2, .none)

@[simp] theorem deferred_appear : (d.appear w).1.deferred = d.deferred := by
  unfold appear
  split <;> rfl

/-- Opening a window is its appearance, and then the lines that wait for its source are set. -/
theorem openWindow_eq :
    d.openWindow w =
      match d.deferred.newest? w.source (d.sources.referenceFor w.source) with
      | none => d.appear w
      | some lines =>
        ({ (d.appear w).1 with
            deferred := d.deferred.settle w.source (d.sources.referenceFor w.source) },
          { (d.appear w).2 with
            commands := (d.appear w).2.commands ++ [.stopsAt w.token lines] }) := by
  have same : (d.note w).1 = d.sources.referenceFor w.source := d.sources.bind_fst w.token w.source
  rw [← same, ← d.deferred_appear w]
  unfold openWindow appear
  cases w.debugger <;> rfl

/-- Whether lines waited or not, none are left for the source of an opened window. -/
theorem deferred_openWindow :
    (d.openWindow w).1.deferred =
      d.deferred.settle w.source (d.sources.referenceFor w.source) := by
  rw [openWindow_eq]
  split
  case h_1 waiting => rw [deferred_appear, Deferred.settle_of_newest?_eq_none _ _ _ waiting]
  case h_2 => rfl

theorem commands_openWindow :
    (d.openWindow w).2.commands = (d.appear w).2.commands ++
      ((d.deferred.newest? w.source (d.sources.referenceFor w.source)).map
        (.stopsAt w.token)).toList := by
  rw [openWindow_eq]
  split
  case h_1 waiting => simp [waiting]
  case h_2 lines waiting => simp [waiting]

theorem events_openWindow : (d.openWindow w).2.events = (d.appear w).2.events := by
  rw [openWindow_eq]
  split <;> rfl

theorem stackNames_openWindow : (d.openWindow w).1.stackNames = (d.appear w).1.stackNames := by
  rw [openWindow_eq]
  split <;> rfl

/-- What waits has no say in what else an opened window changes. -/
theorem windows_openWindow : SameWindows (d.appear w).1 (d.openWindow w).1 := by
  rw [openWindow_eq]
  split <;> exact ⟨rfl, .refl _, rfl, rfl, rfl⟩

theorem tracers_openWindow : (d.openWindow w).1.tracers = (d.appear w).1.tracers := by
  rw [openWindow_eq]
  split <;> rfl

end openWindow

end Desktop
end DebugBridge
