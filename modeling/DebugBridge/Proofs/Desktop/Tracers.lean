import DebugBridge.Proofs.Desktop.History
import DebugBridge.Proofs.Keyed

/-!
# Tracers as the history tells of them

Which windows are open, which of them trace, and what they show can be read off the inputs. The
desktop agrees: it knows exactly these windows and has exactly these tracers, one for a window.
-/

namespace DebugBridge

namespace Tracer

/-- The tracer when its window shows something else. -/
def revised (t : Tracer) (w : Command.Window) : Tracer where
  window := t.window
  thread := w.tid.getD t.thread
  name := w.name
  line := w.currentRow
  column := w.currentColumn
  activated := t.activated

/-- The tracer when it reaches a line. -/
def movedTo (t : Tracer) (h : Command.SetHighlightLine) : Tracer :=
  { t with line := h.line, column := h.startColumn }

/-! ## Tracers put into a list -/

section put
variable (t : Tracer) (l : List Tracer)

theorem find?_put (window : Int64) :
    (put t l).find? (fun u => u.window = window) =
      if t.window = window then some t else l.find? fun u => u.window = window := by
  induction l with
  | nil => by_cases here : t.window = window <;> simp [put, here]
  | cons u rest ih =>
    by_cases same : u.window = t.window
    · by_cases here : t.window = window <;> simp [put, same, here]
    · rw [put, if_neg same, List.find?_cons, List.find?_cons, ih]
      by_cases here : u.window = window
      · have apart : t.window ≠ window := fun h => same (here.trans h.symm)
        simp [here, apart]
      · simp [here]

/-- A tracer in a new window comes last, so that the others keep their order. -/
theorem map_window_put :
    (put t l).map Tracer.window =
      if t.window ∈ l.map Tracer.window then l.map Tracer.window
      else l.map Tracer.window ++ [t.window] := by
  induction l with
  | nil => rfl
  | cons u rest ih =>
    by_cases same : u.window = t.window
    · simp [put, same]
    · rw [put, if_neg same, List.map_cons, ih]
      simp only [List.map_cons, List.mem_cons, Ne.symm same, false_or]
      split <;> rfl

variable {l}

theorem nodup_put (nodup : (l.map Tracer.window).Nodup) :
    ((put t l).map Tracer.window).Nodup := by
  rw [map_window_put]
  split
  case isTrue => exact nodup
  case isFalse new => exact List.concat_eq_append ▸ nodup.concat new

theorem mem_put (nodup : (l.map Tracer.window).Nodup) {u : Tracer} :
    u ∈ put t l ↔ u = t ∨ u.window ≠ t.window ∧ u ∈ l := by
  have found {l : List Tracer} (nodup : (l.map Tracer.window).Nodup) :
      u ∈ l ↔ l.find? (fun v => v.window = u.window) = some u := by
    rw [find?_key_eq_some_iff nodup, and_iff_left rfl]
  rw [found (nodup_put t nodup), found nodup, find?_put]
  by_cases here : t.window = u.window
  · simp [here, eq_comm]
  · have other : u ≠ t := fun h => here (h ▸ rfl)
    simp [here, Ne.symm here, other]

end put

end Tracer

namespace Desktop

/-- The tracer that an open window becomes. -/
def tracerSeen (d : Desktop) (window : Int64) (s : Sighting) : Tracer :=
  ⟨window, d.threadFor s.thread, s.name, s.line, s.column, 0⟩

/-- What a window was last seen to show, as long as it is open. -/
def sighted (window : Int64) : List Input → Option Sighting
  | [] => none
  | i :: earlier =>
    match i.news with
    | .opened w | .updated w =>
      if w.token = window then some w.sighting else sighted window earlier
    | .closed v => if v = window then none else sighted window earlier
    | .highlighted _ | .retyped _ | .nothing => sighted window earlier

/-- The tracer in a window, if the window is one. One that is activated gets the next number. -/
def traced (window : Int64) : List Input → Option Tracer
  | [] => none
  | i :: earlier =>
    let next := (ofHistory earlier).activations + 1
    match i.news with
    | .opened w =>
      if w.token = window ∧ w.debugger then some (((ofHistory earlier).tracerOf w).numbered next)
      else traced window earlier
    | .updated w =>
      if w.token = window then (traced window earlier).map (·.revised w) else traced window earlier
    | .closed v => if v = window then none else traced window earlier
    | .highlighted h =>
      if h.win = window then (traced window earlier).map fun t => (t.movedTo h).numbered next
      else traced window earlier
    | .retyped c =>
      if c.win = window then
        if c.tracer then
          (traced window earlier).or
            ((sighted window earlier).map ((ofHistory earlier).tracerSeen window))
        else none
      else traced window earlier
    | .nothing => traced window earlier

/-! ## What the operations do to windows and tracers -/

section operations
variable (d : Desktop) (window : Int64) (w : Command.Window) (h : Command.SetHighlightLine)

@[simp] theorem windows_appear :
    (d.appear w).1.windows = d.windows.insert w.token w.sighting := by
  unfold appear
  split <;> rfl

@[simp] theorem tracers_reselect (gone : Int64) : (d.reselect gone).tracers = d.tracers := by
  unfold reselect
  split <;> rfl

@[simp] theorem windows_reselect (gone : Int64) : (d.reselect gone).windows = d.windows := by
  unfold reselect
  split <;> rfl

theorem highlight_of_untraced (known : d.tracer? h.win = none) :
    d.highlight h = d.stop .step none := by
  rw [highlight, known]

theorem highlight_of_traced {t : Tracer} (known : d.tracer? h.win = some t) :
    d.highlight h = (d.activate (t.movedTo h)).stop .step none := by
  rw [highlight, known]
  rfl

@[simp] theorem windows_highlight : (d.highlight h).1.windows = d.windows := by
  unfold highlight
  split <;> rfl

@[simp] theorem windows_startTracing : (d.startTracing window).windows = d.windows := by
  unfold startTracing
  split <;> rfl

@[simp] theorem windows_stopTracing : (d.stopTracing window).windows = d.windows := by
  unfold stopTracing
  split
  · rfl
  · rw [windows_reselect]
    rfl

theorem tracer?_congr {d d' : Desktop} (h : d'.tracers = d.tracers) (window : Int64) :
    d'.tracer? window = d.tracer? window := by
  rw [tracer?, h, tracer?]

theorem tracer?_activate (t : Tracer) :
    (d.activate t).tracer? window =
      if t.window = window then some (t.numbered (d.activations + 1)) else d.tracer? window :=
  Tracer.find?_put _ d.tracers window

theorem tracer?_dropTracer (gone : Int64) :
    (d.dropTracer gone).tracer? window = if gone = window then none else d.tracer? window := by
  unfold tracer? dropTracer
  by_cases same : gone = window
  · simp [same]
  · rw [if_neg same, List.find?_filter]
    congr 1
    funext u
    by_cases hu : u.window = window <;> simp [hu, Ne.symm same]

theorem tracer?_appear :
    (d.appear w).1.tracer? window =
      if w.token = window ∧ w.debugger then some ((d.tracerOf w).numbered (d.activations + 1))
      else d.tracer? window := by
  unfold appear
  by_cases debugger : w.debugger
  · rw [if_pos debugger]
    refine (tracer?_activate _ _ _).trans ?_
    simp only [debugger, and_true]
    rfl
  · rw [if_neg debugger, if_neg fun h => debugger h.2]
    rfl

theorem window_of_tracer? {d : Desktop} {window : Int64} {t : Tracer}
    (h : d.tracer? window = some t) : t.window = window := by
  simpa using List.find?_some h

theorem tracer?_updateWindow :
    (d.updateWindow w).tracer? window =
      if w.token = window then (d.tracer? window).map (·.revised w) else d.tracer? window := by
  let revise (t : Tracer) : Tracer := if t.window = w.token then t.revised w else t
  have kept (t : Tracer) : (revise t).window = t.window := by
    unfold revise
    split <;> rfl
  have moved : (d.updateWindow w).tracer? window = (d.tracer? window).map revise :=
    calc (d.updateWindow w).tracer? window
      _ = (d.tracers.map revise).find? (fun t => t.window = window) := rfl
      _ = (d.tracers.find? fun t => (revise t).window = window).map revise := List.find?_map
      _ = (d.tracer? window).map revise := by
        simp only [kept]
        rfl
  rw [moved]
  cases known : d.tracer? window with
  | none => simp
  | some t =>
    have same := window_of_tracer? known
    by_cases here : w.token = window
    · simp [revise, here, same]
    · simp [revise, here, same, Ne.symm here]

theorem tracer?_highlight :
    (d.highlight h).1.tracer? window =
      if h.win = window then
        (d.tracer? window).map fun t => (t.movedTo h).numbered (d.activations + 1)
      else d.tracer? window := by
  unfold highlight
  cases known : d.tracer? h.win with
  | none =>
    by_cases here : h.win = window
    · rw [if_pos here, ← here, known]
      exact known
    · rw [if_neg here]
      rfl
  | some t =>
    have same := window_of_tracer? known
    refine (d.tracer?_activate window _).trans ?_
    by_cases here : h.win = window
    · rw [if_pos (same.trans here), if_pos here, ← here, known]
      rfl
    · rw [if_neg (same ▸ here), if_neg here]

theorem tracer?_startTracing (started : Int64) :
    (d.startTracing started).tracer? window =
      if started = window then
        (d.tracer? window).or ((d.windows.get? window).map (d.tracerSeen window))
      else d.tracer? window := by
  unfold startTracing
  cases known : d.tracer? started with
  | some t =>
    by_cases here : started = window
    · rw [if_pos here, ← here, known, Option.some_or]
    · rw [if_neg here]
  | none =>
    cases seen : d.windows.get? started with
    | none =>
      by_cases here : started = window
      · rw [if_pos here, ← here, known, seen]
        rfl
      · rw [if_neg here]
    | some s =>
      have put := Tracer.find?_put (d.tracerSeen started s) d.tracers window
      refine put.trans ?_
      by_cases here : started = window
      · rw [if_pos here, ← here, known, seen]
        exact if_pos rfl
      · rw [if_neg here]
        exact if_neg here

theorem tracer?_stopTracing (stopped : Int64) :
    (d.stopTracing stopped).tracer? window =
      if stopped = window then none else d.tracer? window := by
  unfold stopTracing
  cases known : d.tracer? stopped with
  | none =>
    by_cases here : stopped = window
    · rw [if_pos here, ← here]
      exact known
    · rw [if_neg here]
  | some t =>
    rw [tracer?_congr (tracers_reselect _ _)]
    exact d.tracer?_dropTracer window stopped

end operations

/-! ## The windows of the tracers -/

/-- The windows of the tracers, in the order in which they are kept. -/
def order (d : Desktop) : List Int64 := d.tracers.map Tracer.window

section order
variable {d d' : Desktop} {window : Int64}

theorem mem_order : window ∈ d.order ↔ (d.tracer? window).isSome := by
  simp [order, tracer?]

theorem order_congr (h : d'.tracers = d.tracers) : d'.order = d.order := by
  rw [order, h, order]

theorem order_dropTracer (d : Desktop) (gone : Int64) :
    (d.dropTracer gone).order = d.order.filter (· ≠ gone) := by
  simp [order, dropTracer, List.filter_map, Function.comp_def]

theorem order_updateWindow (d : Desktop) (w : Command.Window) :
    (d.updateWindow w).order = d.order := by
  refine List.map_map.trans (List.map_congr_left fun t _ => ?_)
  rw [Function.comp_apply]
  split <;> rfl

/-- The tracer in a window is the only one there. -/
theorem tracer?_eq_some_iff (nodup : d.order.Nodup) {t : Tracer} :
    d.tracer? window = some t ↔ t ∈ d.tracers ∧ t.window = window :=
  find?_key_eq_some_iff nodup

/-- So it is found in whatever order the tracers stand. -/
theorem tracer?_perm (nodup : d.order.Nodup) (perm : d'.tracers.Perm d.tracers)
    (window : Int64) : d'.tracer? window = d.tracer? window := by
  have nodup' : d'.order.Nodup := (perm.map Tracer.window).nodup_iff.mpr nodup
  refine Option.ext fun t => ?_
  rw [tracer?_eq_some_iff nodup, tracer?_eq_some_iff nodup', perm.mem_iff]

end order

/-- No two tracers are in one window. -/
theorem nodup_order (history : List Input) : (ofHistory history).order.Nodup := by
  induction history with
  | nil => exact List.nodup_nil
  | cons i earlier ih =>
    cases i using Input.newsCases with
    | opening w =>
      have same := order_congr (tracers_openWindow (ofHistory earlier) w)
      refine same.symm ▸ ?_
      unfold appear
      split
      · exact Tracer.nodup_put _ ih
      · exact ih
    | updating w => exact order_updateWindow (ofHistory earlier) w ▸ ih
    | closing r =>
      rw [ofHistory, after, hear, hearCommand, closeWindow, order_congr (tracers_reselect _ _),
        order_dropTracer]
      exact List.Nodup.filter _ ih
    | highlighting h =>
      rw [ofHistory, after, hear, hearCommand, highlight]
      split
      · exact ih
      · exact Tracer.nodup_put _ ih
    | retyping c =>
      rw [ofHistory, after, hear, hearCommand]
      split
      · unfold startTracing
        split
        · exact Tracer.nodup_put _ ih
        · exact ih
      · unfold stopTracing
        split
        · exact ih
        · rw [order_congr (tracers_reselect _ _), order_dropTracer]
          exact ih.filter _
    | nothing i h =>
      have perm := ((ofHistory earlier).after_of_nothing h).tracers
      exact (perm.map Tracer.window).nodup_iff.mpr ih

/-! ## The desktop agrees with its history -/

theorem get?_windows (window : Int64) (history : List Input) :
    (ofHistory history).windows.get? window = sighted window history := by
  induction history with
  | nil => rfl
  | cons i earlier ih =>
    cases i using Input.newsCases with
    | opening w =>
      calc ((ofHistory earlier).openWindow w).1.windows.get? window
        _ = ((ofHistory earlier).windows.insert w.token w.sighting).get? window := by
          rw [(windows_openWindow _ w).windows, windows_appear]
        _ = _ := by
          rw [Table.get?_insert, ih]
          rfl
    | updating w => exact (Table.get?_insert _ _ _ _).trans (ih ▸ rfl)
    | closing r =>
      calc ((ofHistory earlier).closeWindow r.win).windows.get? window
        _ = ((ofHistory earlier).windows.erase r.win).get? window := by
          rw [closeWindow, windows_reselect]
          rfl
        _ = _ := by
          rw [Table.get?_erase, ih]
          rfl
    | highlighting h =>
      exact (congrArg (Table.get? · window) (windows_highlight _ h)).trans ih
    | retyping c =>
      have kept : ((ofHistory earlier).hearCommand (.windowTypeChanged c)).1.windows =
          (ofHistory earlier).windows := by
        unfold hearCommand
        dsimp only
        split
        · exact windows_startTracing _ _
        · exact windows_stopTracing _ _
      exact (congrArg (Table.get? · window) kept).trans ih
    | nothing i h =>
      rw [ofHistory, ((ofHistory earlier).after_of_nothing h).windows, ih, sighted, h]

/-- The tracer in a window is the one that the history tells of. -/
theorem tracer?_ofHistory (window : Int64) (history : List Input) :
    (ofHistory history).tracer? window = traced window history := by
  induction history with
  | nil => rfl
  | cons i earlier ih =>
    cases i using Input.newsCases with
    | opening w =>
      calc ((ofHistory earlier).openWindow w).1.tracer? window
        _ = ((ofHistory earlier).appear w).1.tracer? window :=
          tracer?_congr (tracers_openWindow _ w) window
        _ = _ := by
          rw [tracer?_appear, ih]
          rfl
    | updating w => exact (tracer?_updateWindow _ _ w).trans (ih ▸ rfl)
    | closing r =>
      calc ((ofHistory earlier).closeWindow r.win).tracer? window
        _ = ((ofHistory earlier).dropTracer r.win).tracer? window :=
          tracer?_congr (tracers_reselect _ _) window
        _ = _ := by
          rw [tracer?_dropTracer, ih]
          rfl
    | highlighting h => exact (tracer?_highlight _ _ h).trans (ih ▸ rfl)
    | retyping c =>
      have retyped : (ofHistory (.retyping c :: earlier)).tracer? window =
          (if c.tracer then (ofHistory earlier).startTracing c.win
            else (ofHistory earlier).stopTracing c.win).tracer? window := rfl
      rw [retyped]
      by_cases tracer : c.tracer
      · rw [if_pos tracer, tracer?_startTracing, ih, get?_windows]
        simp only [traced, Input.news, News.ofCommand, tracer, if_true]
      · rw [if_neg tracer, tracer?_stopTracing, ih]
        simp only [traced, Input.news, News.ofCommand, tracer]
        rfl
    | nothing i h =>
      have perm := ((ofHistory earlier).after_of_nothing h).tracers
      rw [ofHistory, tracer?_perm (nodup_order earlier) perm, ih, traced, h]

end Desktop
end DebugBridge
