import Mathlib
import DebugBridge.Proofs.Desktop.Stacks

/-!
# The active window and the active thread

A tracer that is activated brings its window and its thread to the front together. Behind that the
two can part: the active window may go and leave a tracer of another thread in front, or be said to
be of another thread, or the interpreter may switch to another thread. Then the stack shown without
a thread named is not that of the active window. And among tracers of which none was ever activated,
the one that becomes active need not be the one that is shown first. Once a tracer is activated, its
window is on top again.
-/

namespace DebugBridge.Desktop

/-- If a window is active, it is the first frame of the stack shown without a thread named. -/
def FrontOnTop (d : Desktop) : Prop :=
  ∀ window, d.activeWindow = some window →
    ∃ f rest, d.frames none = .ok (f :: rest) ∧ f.id = window

/-- The thread to which the interpreter switches. -/
def Input.switched? : Input → Option Int64
  | message (.command (.setThread t)) => some t.tid
  | _ => none

/-- The thread in which a tracer was activated last, or to which the interpreter switched later. -/
def lastThread : List Input → Option Int64
  | [] => none
  | i :: earlier =>
    match i.news with
    | .opened w =>
      if w.debugger then some (w.tid.getD ((lastThread earlier).getD mainThread))
      else lastThread earlier
    | .highlighted h => ((traced h.win earlier).map Tracer.thread).or (lastThread earlier)
    | .updated _ | .closed _ | .retyped _ => lastThread earlier
    | .nothing => i.switched?.or (lastThread earlier)

/-- If a window is no longer a tracer, it leaves one of another than the active thread in front. -/
def Abandons (d : Desktop) (gone : Int64) : Prop :=
  d.activeWindow = some gone ∧
    ∃ t, Tracer.latest? (d.dropTracer gone).tracers = some t ∧ d.activeThread ≠ some t.thread

/-- Of the tracers of its thread, the tracer is the first in the order in which they are kept. -/
def KeptFirst (d : Desktop) (t : Tracer) : Prop :=
  d.tracers.find? (fun u => u.thread = t.thread) = some t

/-- If the active window was never activated, its tracer is kept first of those of its thread. -/
def FirstOfEquals (history : List Input) : Prop :=
  ∀ window t, (ofHistory history).activeWindow = some window → traced window history = some t →
    activation window history = 0 → (ofHistory history).KeptFirst t

/-- An input separates the active window from the active thread. -/
def Separates (d : Desktop) (i : Input) : Prop :=
  match i.news with
  | .opened _ | .highlighted _ => False
  | .updated w =>
    d.activeWindow = some w.token ∧ ∃ thread, w.tid = some thread ∧ d.activeThread ≠ some thread
  | .closed window => d.Abandons window
  | .retyped c => c.tracer = false ∧ d.Abandons c.win
  | .nothing =>
    d.activeWindow.isSome ∧ ∃ thread, i.switched? = some thread ∧ d.activeThread ≠ some thread

/-! ## The active thread -/

section activeThread
variable (d : Desktop)

theorem activeThread_of_nothing {i : Input} (h : i.news = .nothing) :
    (d.after i).activeThread = i.switched?.or d.activeThread := by
  cases i with
  | message m =>
    cases m with
    | raw => rfl
    | command c =>
      cases c with
      | openWindow | updateWindow | closeWindow | setHighlightLine | windowTypeChanged => cases h
      | _ => rfl
  | request source lines =>
    obtain ⟨deferred, same⟩ := d.after_request source lines
    rw [same]
    rfl
  | awaited | givenUp => rfl
  | reordered order =>
    obtain ⟨tracers, -, same⟩ := d.after_reordered order
    rw [same]
    rfl

theorem activeThread_openWindow (w : Command.Window) :
    (d.openWindow w).1.activeThread =
      if w.debugger then some (d.threadFor w.tid) else d.activeThread := by
  have same : (d.openWindow w).1.activeThread = (d.appear w).1.activeThread := by
    rw [openWindow_eq]
    split <;> rfl
  rw [same, appear]
  split <;> rfl

theorem activeThread_highlight (h : Command.SetHighlightLine) :
    (d.highlight h).1.activeThread =
      ((d.tracer? h.win).map Tracer.thread).or d.activeThread := by
  unfold highlight
  cases d.tracer? h.win <;> rfl

@[simp] theorem activeThread_reselect (gone : Int64) :
    (d.reselect gone).activeThread = d.activeThread := by
  unfold reselect
  split <;> rfl

@[simp] theorem activeThread_startTracing (window : Int64) :
    (d.startTracing window).activeThread = d.activeThread := by
  unfold startTracing
  split <;> rfl

@[simp] theorem activeThread_stopTracing (window : Int64) :
    (d.stopTracing window).activeThread = d.activeThread := by
  unfold stopTracing
  split
  · rfl
  · rw [activeThread_reselect]
    rfl

end activeThread

theorem activeThread_ofHistory (history : List Input) :
    (ofHistory history).activeThread = lastThread history := by
  induction history with
  | nil => rfl
  | cons i earlier ih =>
    cases i using Input.newsCases with
    | opening w =>
      refine (activeThread_openWindow _ w).trans ?_
      rw [threadFor, currentThread, ih]
      rfl
    | updating w => exact ih
    | closing r => exact (activeThread_reselect _ _).trans ih
    | highlighting h =>
      refine (activeThread_highlight _ h).trans ?_
      rw [tracer?_ofHistory, ih]
      rfl
    | retyping c =>
      have kept : ((ofHistory earlier).hearCommand (.windowTypeChanged c)).1.activeThread =
          (ofHistory earlier).activeThread := by
        unfold hearCommand
        dsimp only
        split
        · exact activeThread_startTracing _ _
        · exact activeThread_stopTracing _ _
      exact kept.trans ih
    | nothing i h => rw [ofHistory, activeThread_of_nothing _ h, ih, lastThread, h]

/-! ## The top of the stack -/

section top
variable {d : Desktop} {history : List Input} {window : Int64} {t : Tracer}

/-- The thread of the active window is the active one. -/
def Together (d : Desktop) : Prop :=
  ∀ window t, d.activeWindow = some window → d.tracer? window = some t →
    d.activeThread = some t.thread

theorem frames_none_of_activeThread {thread : Int64} (active : d.activeThread = some thread) :
    d.frames none = d.frames (some thread) := by
  rw [frames, active]
  rfl

/-- A window is the first frame exactly if its tracer is the first of the active thread. -/
theorem frames_none_iff (nodup : d.order.Nodup) (known : d.tracer? window = some t) :
    (∃ f rest, d.frames none = .ok (f :: rest) ∧ f.id = window) ↔
      d.activeThread = some t.thread ∧ ∃ rest, d.suspended t.thread = t :: rest := by
  constructor
  · rintro ⟨f, rest, shown, here⟩
    cases thread : d.activeThread with
    | none =>
      rw [frames, thread] at shown
      cases shown
    | some thread' =>
      rw [frames_none_of_activeThread thread] at shown
      have listed := d.map_id_mapIdx thread' (d.suspended thread')
      rw [← frames_eq_ok shown, List.map_cons, here] at listed
      obtain ⟨u, others, split, there, -⟩ := List.map_eq_cons_iff.mp listed.symm
      have inside := mem_suspended.mp (split ▸ List.mem_cons_self)
      -- a window has one tracer, so the frame on top is that of this one
      have same := (tracer?_eq_some_iff nodup).mpr ⟨inside.1, there⟩
      obtain rfl := Option.some.inj (known.symm.trans same)
      obtain rfl := inside.2
      exact ⟨rfl, others, split⟩
  · rintro ⟨thread, rest, innermost⟩
    rw [frames_none_of_activeThread thread, frames_eq, innermost, List.isEmpty_cons,
      if_neg Bool.false_ne_true, List.mapIdx_cons]
    exact ⟨_, _, rfl, window_of_tracer? known⟩

theorem exists_tracer_of_active (active : (ofHistory history).activeWindow = some window) :
    ∃ t, (ofHistory history).tracer? window = some t :=
  Option.isSome_iff_exists.mp (mem_order.mp ((ranked_ofHistory history).of_active active).1)

/-- The tracer of the active window is the first of its thread by its number, or, if it has none,
by the order in which the tracers are kept. -/
theorem suspended_of_active (active : (ofHistory history).activeWindow = some window)
    (known : (ofHistory history).tracer? window = some t) :
    (∃ rest, (ofHistory history).suspended t.thread = t :: rest) ↔
      (activation window history = 0 → (ofHistory history).KeptFirst t) := by
  have ranked := ranked_ofHistory history
  have nodup := nodup_order history
  obtain ⟨mem, here⟩ := (tracer?_eq_some_iff nodup).mp known
  have zero : t.activated = 0 ↔ activation window history = 0 :=
    here ▸ ranked.zero _ (mem_marks mem)
  have highest : ∀ u ∈ (ofHistory history).tracers, u.activated ≤ t.activated := fun u hu =>
    (ranked.agrees _ (mem_marks hu) _ (mem_marks mem)).mpr
      (here ▸ (ranked.of_active active).2 _ (List.mem_map.mpr ⟨u, hu, rfl⟩))
  by_cases idle : activation window history = 0
  · have unsorted : (ofHistory history).suspended t.thread =
        (ofHistory history).tracers.filter fun u => u.thread = t.thread := by
      refine List.mergeSort_of_pairwise (List.pairwise_of_forall_mem_list fun u hu v hv => ?_)
      have none := highest v (List.mem_of_mem_filter hv)
      rw [zero.mpr idle] at none
      exact decide_eq_true (Nat.le_trans none (Nat.zero_le _))
    rw [unsorted, ← List.head?_eq_some_iff, List.head?_filter]
    exact ⟨fun first _ => first, fun first => first idle⟩
  · refine iff_of_true (suspended_eq_cons mem fun u hu other => ?_) fun none => absurd none idle
    refine Nat.lt_of_le_of_ne (highest u hu) fun same => other ?_
    -- tracers with one number above zero have one activation, so they are in one window
    have ranks : activation u.window history = activation window history := by
      have le := ranked.agrees _ (mem_marks hu) _ (mem_marks mem)
      have ge := ranked.agrees _ (mem_marks mem) _ (mem_marks hu)
      rw [← here]
      exact Nat.le_antisymm (le.mp (Nat.le_of_eq same)) (ge.mp (Nat.le_of_eq same.symm))
    have there := eq_of_activation_eq ranks (ranks ▸ idle)
    exact Option.some.inj (((tracer?_eq_some_iff nodup).mpr ⟨hu, there⟩).symm.trans known)

/-- The active window is the first frame exactly if its thread is the active one and it is the first
of those that were activated no earlier. -/
theorem frontOnTop_iff (history : List Input) :
    (ofHistory history).FrontOnTop ↔
      (ofHistory history).Together ∧ FirstOfEquals history := by
  have nodup := nodup_order history
  simp only [FirstOfEquals, ← tracer?_ofHistory]
  constructor
  · intro onTop
    refine ⟨fun window t active known => ?_, fun window t active known => ?_⟩
    · exact ((frames_none_iff nodup known).mp (onTop window active)).1
    · exact (suspended_of_active active known).mp
        ((frames_none_iff nodup known).mp (onTop window active)).2
  · rintro ⟨together, first⟩ window active
    obtain ⟨t, known⟩ := exists_tracer_of_active active
    exact (frames_none_iff nodup known).mpr ⟨together window t active known,
      (suspended_of_active active known).mpr (first window t active known)⟩

end top

/-! ## What separates them -/

section separating
variable {d d' : Desktop} {t : Tracer} {earlier : List Input}

theorem together_congr (active : d'.activeWindow = d.activeWindow)
    (tracers : ∀ window, d'.tracer? window = d.tracer? window)
    (thread : d'.activeThread = d.activeThread) : d'.Together ↔ d.Together := by
  simp only [Together, active, tracers, thread]

theorem together_of_activated (active : d.activeWindow = some t.window)
    (known : d.tracer? t.window = some t) (thread : d.activeThread = some t.thread) :
    d.Together := by
  intro window u active' known'
  obtain rfl := Option.some.inj (active.symm.trans active')
  obtain rfl := Option.some.inj (known.symm.trans known')
  exact thread

theorem together_drop (before : d.Together) (nodup : d.order.Nodup) (gone : Int64) :
    ((d.dropTracer gone).reselect gone).Together ↔ ¬ d.Abandons gone := by
  by_cases front : d.activeWindow = some gone
  · -- the latest of the tracers that are left becomes the active one
    have reselected : (d.dropTracer gone).reselect gone = { d.dropTracer gone with
        activeWindow := (Tracer.latest? (d.dropTracer gone).tracers).map Tracer.window } :=
      if_pos front
    rw [reselected, Abandons, and_iff_right front]
    cases latest : Tracer.latest? (d.dropTracer gone).tracers with
    | none => simp [Together]
    | some t =>
      have left : (d.dropTracer gone).order.Nodup := order_dropTracer d gone ▸ nodup.filter _
      have known : (d.dropTracer gone).tracer? t.window = some t :=
        (tracer?_eq_some_iff left).mpr ⟨(Tracer.latest?_eq_some latest).1, rfl⟩
      simp only [Option.some.injEq, exists_eq_left', not_not]
      constructor
      · intro together
        exact together t.window t rfl known
      · intro thread
        exact together_of_activated rfl known thread
  · have kept : (d.dropTracer gone).reselect gone = d.dropTracer gone := if_neg front
    rw [kept, Abandons, iff_true_right (fun both => front both.1)]
    intro window t active known
    rw [tracer?_dropTracer] at known
    split at known
    case isTrue => cases known
    case isFalse => exact before window t active known

theorem together_updateWindow (before : d.Together) {w : Command.Window}
    (tracer : d.activeWindow = some w.token → ∃ t, d.tracer? w.token = some t) :
    (d.updateWindow w).Together ↔ ¬ (d.activeWindow = some w.token ∧
      ∃ thread, w.tid = some thread ∧ d.activeThread ≠ some thread) := by
  by_cases front : d.activeWindow = some w.token
  · obtain ⟨t, known⟩ := tracer front
    have revised : (d.updateWindow w).tracer? w.token = some (t.revised w) := by
      rw [tracer?_updateWindow, if_pos rfl, known]
      rfl
    have thread := before w.token t front known
    constructor
    · rintro together ⟨-, thread', named, apart⟩
      have same := together w.token _ front revised
      rw [Tracer.revised, named] at same
      exact apart same
    · intro agreed window u active known'
      obtain rfl := Option.some.inj (front.symm.trans active)
      obtain rfl := Option.some.inj (revised.symm.trans known')
      cases named : w.tid with
      | none => rwa [Tracer.revised, named]
      | some thread' =>
        rw [Tracer.revised, named]
        by_contra apart
        exact agreed ⟨front, thread', named, apart⟩
  · rw [iff_true_right (fun both => front both.1)]
    intro window t active known
    have other : w.token ≠ window := by
      rintro rfl
      exact front active
    rw [tracer?_updateWindow, if_neg other] at known
    exact before window t active known

theorem together_startTracing (before : (ofHistory earlier).Together) (started : Int64) :
    ((ofHistory earlier).startTracing started).Together := by
  have kept : ((ofHistory earlier).startTracing started).activeWindow =
      (ofHistory earlier).activeWindow := by
    unfold startTracing
    split <;> rfl
  intro window t active known
  rw [kept] at active
  obtain ⟨u, front⟩ := exists_tracer_of_active active
  rw [tracer?_startTracing, front, Option.some_or, ite_self] at known
  rw [activeThread_startTracing]
  exact before window t active (front.trans known)

theorem together_stopTracing (before : (ofHistory earlier).Together) (stopped : Int64) :
    ((ofHistory earlier).stopTracing stopped).Together ↔
      ¬ (ofHistory earlier).Abandons stopped := by
  unfold stopTracing
  split
  case h_1 none =>
    refine iff_of_true before ?_
    rintro ⟨front, -⟩
    obtain ⟨t, known⟩ := exists_tracer_of_active front
    rw [none] at known
    cases known
  case h_2 => exact together_drop before (nodup_order earlier) stopped

theorem together_opening (earlier : List Input) (w : Command.Window) (debugger : w.debugger) :
    (ofHistory (.opening w :: earlier)).Together := by
  have seen := windows_openWindow (ofHistory earlier) w
  rw [appear, if_pos debugger] at seen
  let opened := ((ofHistory earlier).tracerOf w).numbered ((ofHistory earlier).activations + 1)
  refine together_of_activated (t := opened) seen.activeWindow ?_ ?_
  · rw [tracer?_ofHistory, traced]
    exact if_pos ⟨rfl, debugger⟩
  · exact (activeThread_openWindow _ w).trans (if_pos debugger)

theorem together_highlighting {h : Command.SetHighlightLine}
    (tracer : traced h.win earlier = some t) :
    (ofHistory (.highlighting h :: earlier)).Together := by
  have known : (ofHistory earlier).tracer? h.win = some t := tracer?_ofHistory _ _ ▸ tracer
  have here : t.window = h.win := window_of_tracer? known
  have reached : ofHistory (.highlighting h :: earlier) =
      (((ofHistory earlier).activate (t.movedTo h)).stop .step none).1 :=
    congrArg Prod.fst (highlight_of_traced _ h known)
  rw [reached]
  let reached := (t.movedTo h).numbered ((ofHistory earlier).activations + 1)
  refine together_of_activated (t := reached) rfl ?_ rfl
  exact (tracer?_activate _ _ _).trans (if_pos rfl)

theorem together_cons (before : (ofHistory earlier).Together) (i : Input) :
    (ofHistory (i :: earlier)).Together ↔ ¬ (ofHistory earlier).Separates i := by
  cases i using Input.newsCases with
  | opening w =>
    by_cases debugger : w.debugger
    · refine iff_of_true ?_ not_false
      exact together_opening earlier w debugger
    · refine iff_of_true (((together_congr ?_ ?_ ?_).mpr before)) not_false
      · have seen := (windows_openWindow (ofHistory earlier) w).activeWindow
        rw [appear, if_neg debugger] at seen
        exact seen
      · intro window
        rw [tracer?_ofHistory, tracer?_ofHistory, traced]
        exact if_neg fun both => debugger both.2
      · exact (activeThread_openWindow _ w).trans (if_neg debugger)
  | updating w =>
    exact together_updateWindow before exists_tracer_of_active
  | closing r =>
    exact together_drop (d := { ofHistory earlier with
      windows := (ofHistory earlier).windows.erase r.win
      sources := (ofHistory earlier).sources.unbind r.win }) before (nodup_order earlier) r.win
  | highlighting h =>
    refine iff_of_true ?_ not_false
    cases tracer : traced h.win earlier with
    | some t => exact together_highlighting tracer
    | none =>
      rw [← tracer?_ofHistory] at tracer
      have reached : ofHistory (.highlighting h :: earlier) =
          ((ofHistory earlier).stop .step none).1 :=
        congrArg Prod.fst (highlight_of_untraced _ h tracer)
      exact reached ▸ before
  | retyping c =>
    have retyped : ofHistory (.retyping c :: earlier) =
        if c.tracer then (ofHistory earlier).startTracing c.win
          else (ofHistory earlier).stopTracing c.win := rfl
    have separates : (ofHistory earlier).Separates (.retyping c) ↔
        c.tracer = false ∧ (ofHistory earlier).Abandons c.win := Iff.rfl
    rw [retyped, separates]
    cases c.tracer with
    | true => simpa using together_startTracing before c.win
    | false => simpa using together_stopTracing before c.win
  | nothing i h =>
    have same := (ofHistory earlier).after_of_nothing h
    have thread := (ofHistory earlier).activeThread_of_nothing h
    have tracers := tracer?_perm (nodup_order earlier) same.tracers
    rw [Separates, h]
    rw [ofHistory]
    cases switched : i.switched? with
    | none =>
      rw [switched, Option.none_or] at thread
      exact iff_of_true ((together_congr same.activeWindow tracers thread).mpr before) (by simp)
    | some thread' =>
      rw [switched, Option.some_or] at thread
      simp only [Together, same.activeWindow, tracers, thread, Option.some.injEq, ne_eq,
        exists_eq_left', not_and, not_not]
      constructor
      · intro together front
        obtain ⟨window, active⟩ := Option.isSome_iff_exists.mp front
        obtain ⟨t, known⟩ := exists_tracer_of_active active
        rw [before window t active known, together window t active known]
      · intro agreed window t active known
        have thread := agreed (Option.isSome_iff_exists.mpr ⟨window, active⟩)
        exact Option.some.inj (thread.symm.trans (before window t active known))

/-- The active window and the active thread are together at all times exactly if nothing has
separated them. -/
theorem always_together_iff (history : List Input) :
    (∀ past, past <:+ history → (ofHistory past).Together) ↔
      ∀ i earlier, i :: earlier <:+ history → ¬ (ofHistory earlier).Separates i := by
  constructor
  · intro always i earlier suffix
    have before := always earlier ((List.suffix_cons i earlier).trans suffix)
    exact (together_cons before i).mp (always _ suffix)
  · intro never past suffix
    -- the past before an input is a past of the history too
    induction past with
    | nil =>
      intro window t active
      cases active
    | cons i earlier ih =>
      have before := ih ((List.suffix_cons i earlier).trans suffix)
      exact (together_cons before i).mpr (never i earlier suffix)

end separating

/-- An active window that has just been activated has nobody beside it. -/
theorem firstOfEquals_of_activated {i : Input} {history : List Input} {window : Int64}
    (active : (ofHistory (i :: history)).activeWindow = some window)
    (activates : i.activates window = true) : FirstOfEquals (i :: history) := by
  intro other t active' tracer idle
  obtain rfl := Option.some.inj (active.symm.trans active')
  rw [activation_cons (by rw [tracer]; rfl), if_pos activates] at idle
  cases idle

/-- A window with a suspended function of a thread. -/
def inThread (window thread : Int64) : Command.Window where
  token := window
  name := "f"
  fileName := ""
  text := []
  currentRow := 0
  currentColumn := 0
  debugger := true
  entityType := 0
  offset := 0
  readOnly := false
  stop := []
  trace := []
  monitor := []
  tid := some thread
  tname := ""

/-- Behind every history the active thread is the one in which a tracer was activated last, or to
which the interpreter has switched since. The active window is on top of the stack shown without a
thread named exactly if it is of this thread and, if it was never activated, is kept first of the
tracers of the thread. So it is at all times, as long as nothing separates the two, and no window
that was never activated is active without being kept first: only that the active window goes and
leaves a tracer of another thread in front, that it is said to be of another thread, or that the
interpreter switches to another separates them. Whatever came before, the active window is on top
when a tracer is activated. -/
theorem front_on_top_iff (history : List Input) :
    (ofHistory history).activeThread = lastThread history ∧
    ((ofHistory history).FrontOnTop ↔
      (∀ window t, (ofHistory history).activeWindow = some window →
        traced window history = some t → lastThread history = some t.thread) ∧
      FirstOfEquals history) ∧
    ((∀ past, past <:+ history → (ofHistory past).FrontOnTop) ↔
      (∀ i earlier, i :: earlier <:+ history → ¬ (ofHistory earlier).Separates i) ∧
      ∀ past, past <:+ history → FirstOfEquals past) ∧
    (∀ w : Command.Window, w.debugger → (ofHistory (.opening w :: history)).FrontOnTop) ∧
    (∀ (h : Command.SetHighlightLine) t, traced h.win history = some t →
      (ofHistory (.highlighting h :: history)).FrontOnTop) := by
  refine ⟨activeThread_ofHistory history, ?iff, ?always, ?opening, ?highlighting⟩
  case iff =>
    simp only [frontOnTop_iff, Together, tracer?_ofHistory, activeThread_ofHistory]
  case always =>
    rw [← always_together_iff]
    simp only [frontOnTop_iff]
    exact ⟨fun both => ⟨fun p s => (both p s).1, fun p s => (both p s).2⟩,
      fun both p s => ⟨both.1 p s, both.2 p s⟩⟩
  case opening =>
    intro w debugger
    have seen := windows_openWindow (ofHistory history) w
    rw [appear, if_pos debugger] at seen
    exact (frontOnTop_iff _).mpr ⟨together_opening history w debugger,
      firstOfEquals_of_activated seen.activeWindow (by simp [debugger, tracerOf])⟩
  case highlighting =>
    intro h t tracer
    have known : (ofHistory history).tracer? h.win = some t := tracer?_ofHistory _ _ ▸ tracer
    have reached := congrArg Prod.fst (highlight_of_traced _ h known)
    have here : t.window = h.win := window_of_tracer? known
    have active : (ofHistory (.highlighting h :: history)).activeWindow = some h.win :=
      (congrArg activeWindow reached).trans (congrArg some here)
    exact (frontOnTop_iff _).mpr ⟨together_highlighting tracer,
      firstOfEquals_of_activated active (by simp)⟩

/-- Of tracers that were never activated the last one is active, and the first one is on top. -/
example :
    let opened (window : Int64) : Input := .opening { inThread window 1 with debugger := false }
    let d := ofHistory [.closing ⟨1⟩, .retyping ⟨3, true⟩, .retyping ⟨2, true⟩, opened 3, opened 2,
      .opening (inThread 1 1)]
    (d.activeWindow, (d.frames none).map (·.map Host.Frame.id)) = (some 3, .ok [2, 3]) := by cbv

/-- Of the tracers of two threads the one in front closes. -/
def closedInFront : List Input :=
  [.closing ⟨2⟩, .opening (inThread 2 2), .opening (inThread 1 1)]

/-- The other is the active window then, and its thread is not the active one, nor is there a stack
of the active one, though the interpreter has never switched to another thread. -/
theorem front_lost_by_close :
    (∀ t, .message (.command (.setThread t)) ∉ closedInFront) ∧
      (ofHistory closedInFront).activeWindow = some 1 ∧
      traced 1 closedInFront = some ⟨1, 1, "f", 0, 0, 1⟩ ∧
      (ofHistory closedInFront).activeThread = some 2 ∧
      (ofHistory closedInFront).frames none =
        .error (.plain "thread 2 has no suspended functions") ∧
      ¬ (ofHistory closedInFront).FrontOnTop := by
  have failed : (ofHistory closedInFront).frames none =
      .error (.plain "thread 2 has no suspended functions") := by cbv
  refine ⟨by simp [closedInFront], by decide, by decide, by decide, failed, fun onTop => ?_⟩
  obtain ⟨f, rest, shown, -⟩ := onTop 1 (by decide)
  rw [failed] at shown
  cases shown

end DebugBridge.Desktop
