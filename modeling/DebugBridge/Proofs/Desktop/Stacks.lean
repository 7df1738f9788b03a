import DebugBridge.Proofs.Desktop.Activation

/-!
# Stacks and stops

The stack of a thread lists the tracers of the thread by the history alone: each once, the one
activated latest first, and each at the line and column it was last seen at. When a tracer is
activated, the host is told of a stop in its thread, its window becomes the active one, and it is
the first frame of the thread.
-/

namespace DebugBridge.Desktop

open Host (Event Frame StopReason)

/-- The frames are the tracers of a thread behind a history. Lines and columns of frames count from
one, those of tracers from zero. -/
structure ListsThread (history : List Input) (thread : Int64) (frames : List Frame) : Prop where
  each_once : (frames.map Frame.id).Nodup
  exactly : ∀ window, window ∈ frames.map Frame.id ↔
    ∃ t, traced window history = some t ∧ t.thread = thread
  latest_first : frames.Pairwise fun f g =>
    activation g.id history < activation f.id history ∨ activation g.id history = 0
  place : ∀ f ∈ frames, ∃ t, traced f.id history = some t ∧
    f.line = t.line + 1 ∧ f.column = t.column + 1

/-- An input stops the program in a tracer. -/
structure StopsIn (t : Tracer) (reason : StopReason) (history : List Input) (i : Input) :
    Prop where
  told : (ofHistory history).events i = [.stopped reason t.thread none]
  active : (ofHistory (i :: history)).activeWindow = some t.window
  first : ∃ source rest, (ofHistory (i :: history)).frames (some t.thread) =
    .ok (⟨t.window, t.name, source, t.line + 1, t.column + 1⟩ :: rest)

/-! ## Frames -/

section frames
variable {d : Desktop} {t : Tracer} {thread : Int64} {frames : List Frame}

/-- The frame of a tracer at a depth of the stack of its thread. -/
def frameOf (d : Desktop) (thread : Int64) (depth : Nat) (t : Tracer) : Frame :=
  ⟨t.window, frameName ((d.stackNames.get? thread).getD []) depth t, d.frameSource t,
    t.line + 1, t.column + 1⟩

theorem frames_eq (d : Desktop) (thread : Int64) :
    d.frames (some thread) =
      if (d.suspended thread).isEmpty then
        .error (.plain s!"thread {thread} has no suspended functions")
      else .ok ((d.suspended thread).mapIdx (d.frameOf thread)) := rfl

/-- A stack that is given is made of the tracers of the thread. -/
theorem frames_eq_ok (h : d.frames (some thread) = .ok frames) :
    frames = (d.suspended thread).mapIdx (d.frameOf thread) := by
  rw [frames_eq] at h
  split at h
  case isTrue => cases h
  case isFalse => exact (Except.ok.inj h).symm

theorem suspended_perm (d : Desktop) (thread : Int64) :
    (d.suspended thread).Perm (d.tracers.filter fun t => t.thread = thread) :=
  List.mergeSort_perm _ _

theorem mem_suspended : t ∈ d.suspended thread ↔ t ∈ d.tracers ∧ t.thread = thread := by
  rw [(d.suspended_perm thread).mem_iff, List.mem_filter, decide_eq_true_eq]

/-- Tracers with higher numbers stand before those with lower ones. -/
theorem pairwise_suspended (d : Desktop) (thread : Int64) :
    (d.suspended thread).Pairwise fun t u => u.activated ≤ t.activated := by
  have sorted : (d.suspended thread).Pairwise
      fun t u => decide (u.activated ≤ t.activated) = true := by
    refine List.pairwise_mergeSort (fun t u v later earlier => ?_) (fun t u => ?_) _
    · exact decide_eq_true (Nat.le_trans (of_decide_eq_true earlier) (of_decide_eq_true later))
    · simpa using Nat.le_total u.activated t.activated
  simpa using sorted

/-- The tracer with the highest number of all is the first of its thread. -/
theorem suspended_eq_cons (mem : t ∈ d.tracers)
    (highest : ∀ u ∈ d.tracers, u ≠ t → u.activated < t.activated) :
    ∃ rest, d.suspended t.thread = t :: rest := by
  have inside : t ∈ d.suspended t.thread := mem_suspended.mpr ⟨mem, rfl⟩
  cases split : d.suspended t.thread with
  | nil =>
    rw [split] at inside
    cases inside
  | cons u rest =>
    have first := d.pairwise_suspended t.thread
    rw [split] at first inside
    by_cases same : u = t
    · exact ⟨rest, by rw [same]⟩
    · have other : u ∈ d.tracers := (mem_suspended.mp (split ▸ List.mem_cons_self)).1
      have lower := highest u other same
      have later := (List.pairwise_cons.mp first).1 t
        ((List.mem_cons.mp inside).resolve_left (Ne.symm same))
      omega

theorem frames_fail_iff (d : Desktop) (thread : Int64) :
    (∃ f, d.frames (some thread) = .error f) ↔ ∀ t ∈ d.tracers, t.thread ≠ thread := by
  have nobody : (d.suspended thread).isEmpty ↔ ∀ t ∈ d.tracers, t.thread ≠ thread := by
    rw [List.isEmpty_iff, List.eq_nil_iff_forall_not_mem]
    simp only [mem_suspended, not_and, ne_eq]
  rw [frames_eq, ← nobody]
  cases (d.suspended thread).isEmpty <;> simp

theorem map_id_mapIdx (d : Desktop) (thread : Int64) (ts : List Tracer) :
    (ts.mapIdx (d.frameOf thread)).map Frame.id = ts.map Tracer.window :=
  List.ext_getElem (by simp) fun i _ _ => by simp [frameOf]

theorem ListsThread.of_frames {history : List Input}
    (h : (ofHistory history).frames (some thread) = .ok frames) :
    ListsThread history thread frames := by
  have ranked := ranked_ofHistory history
  have nodup := nodup_order history
  have listed := (ofHistory history).map_id_mapIdx thread ((ofHistory history).suspended thread)
  rw [← frames_eq_ok h] at listed
  have once : (frames.map Frame.id).Nodup := by
    rw [listed, (((ofHistory history).suspended_perm thread).map Tracer.window).nodup_iff]
    exact nodup.sublist (List.filter_sublist.map _)
  constructor
  case each_once => exact once
  case exactly =>
    intro window
    simp only [listed, List.mem_map, mem_suspended, ← tracer?_ofHistory,
      tracer?_eq_some_iff nodup]
    tauto
  case latest_first =>
    have windows : (frames.map Frame.id).Pairwise fun v w =>
        activation w history ≤ activation v history := by
      rw [listed, List.pairwise_map]
      refine ((ofHistory history).pairwise_suspended thread).imp_of_mem fun {t u} ht hu le => ?_
      exact (ranked.agrees _ (mem_marks (mem_suspended.mp hu).1) _
        (mem_marks (mem_suspended.mp ht).1)).mp le
    have highest_first :
        frames.Pairwise fun f g => activation g.id history ≤ activation f.id history :=
      List.pairwise_map.mp windows
    refine (highest_first.and (List.pairwise_map.mp once)).imp fun {f g} ⟨le, apart⟩ => ?_
    by_cases idle : activation g.id history = 0
    · exact .inr idle
    · have unequal := mt (eq_of_activation_eq (v := g.id) (w := f.id) · idle) (Ne.symm apart)
      omega
  case place =>
    intro f mem
    rw [frames_eq_ok h] at mem
    obtain ⟨depth, bound, rfl⟩ := List.mem_mapIdx.mp mem
    have inside := List.getElem_mem bound
    refine ⟨_, ?_, rfl, rfl⟩
    rw [← tracer?_ofHistory, tracer?_eq_some_iff nodup]
    exact ⟨(mem_suspended.mp inside).1, rfl⟩

/-- A tracer that has the highest number of all is the first frame of its thread. While the
interpreter's names for the stack are not known, the frame has the tracer's own name. -/
theorem frames_of_highest (mem : t ∈ d.tracers)
    (highest : ∀ u ∈ d.tracers, u ≠ t → u.activated < t.activated)
    (unnamed : d.stackNames.get? t.thread = none) :
    ∃ source others, d.frames (some t.thread) =
      .ok (⟨t.window, t.name, source, t.line + 1, t.column + 1⟩ :: others) := by
  obtain ⟨rest, innermost⟩ := suspended_eq_cons mem highest
  refine ⟨d.frameSource t, rest.mapIdx fun i => d.frameOf t.thread (i + 1), ?_⟩
  rw [frames_eq, innermost, List.isEmpty_cons, if_neg Bool.false_ne_true, List.mapIdx_cons]
  simp [frameOf, frameName, unnamed]

/-- A tracer that has just been activated is the first frame of its thread. -/
theorem frames_of_activated {rank : Int64 → Nat} {d' : Desktop} (ranked : Ranked rank d)
    (nodup : d.order.Nodup) (tracers : d'.tracers = (d.activate t).tracers)
    (unnamed : d'.stackNames.get? t.thread = none) :
    ∃ source others, d'.frames (some t.thread) =
      .ok (⟨t.window, t.name, source, t.line + 1, t.column + 1⟩ :: others) := by
  have put (u : Tracer) : u ∈ d'.tracers ↔
      u = t.numbered (d.activations + 1) ∨ u.window ≠ t.window ∧ u ∈ d.tracers :=
    tracers ▸ Tracer.mem_put (t.numbered (d.activations + 1)) nodup
  refine frames_of_highest (t := t.numbered (d.activations + 1)) ((put _).mpr (.inl rfl))
    (fun u mem other => ?_) unnamed
  have old := (((put u).mp mem).resolve_left other).2
  exact Nat.lt_succ_of_le (ranked.bound _ (mem_marks old))

end frames

theorem stopsIn_opening (history : List Input) (w : Command.Window) (debugger : w.debugger) :
    StopsIn ((ofHistory history).tracerOf w) .entry history (.opening w) := by
  have seen := windows_openWindow (ofHistory history) w
  have tracers := tracers_openWindow (ofHistory history) w
  have names := stackNames_openWindow (ofHistory history) w
  have events := events_openWindow (ofHistory history) w
  rw [appear, if_pos debugger] at seen tracers names events
  have noted : Ranked (activation · history) ((ofHistory history).note w).2 :=
    (ranked_ofHistory history).congr (fun _ => Iff.rfl) rfl rfl fun _ _ => rfl
  constructor
  case told => exact events
  case active => exact seen.activeWindow
  case first =>
    refine frames_of_activated noted (nodup_order history) tracers ?_
    refine (congrArg (Table.get? · _) names).trans ?_
    exact (Table.get?_erase _ _ _).trans (if_pos rfl)

theorem stopsIn_highlighting {history : List Input} {h : Command.SetHighlightLine} {t : Tracer}
    (tracer : traced h.win history = some t) :
    StopsIn (t.movedTo h) .step history (.highlighting h) := by
  have known : (ofHistory history).tracer? h.win = some t := tracer?_ofHistory _ _ ▸ tracer
  have reached := highlight_of_traced _ h known
  have after : ofHistory (.highlighting h :: history) =
      (((ofHistory history).activate (t.movedTo h)).stop .step none).1 := congrArg Prod.fst reached
  constructor
  case told => exact congrArg (fun r : Desktop × Effects => r.2.events) reached
  case active => rw [after]; rfl
  case first =>
    rw [after]
    exact frames_of_activated (ranked_ofHistory history) (nodup_order history) rfl
      ((Table.get?_erase _ _ _).trans (if_pos rfl))

/-- Behind every history of messages, requests and awaited evaluations, the tracers, the active
window and the stacks are as the history tells: an active window is a tracer and none was activated
later; a thread has a stack exactly if a tracer is in it, and the stack lists these tracers. And
whatever came before, a window that opens as a tracer, or a tracer that reaches a line, stops the
program in that tracer. -/
theorem stacks_follow_activation (history : List Input) :
    (∀ window, (ofHistory history).tracer? window = traced window history) ∧
    (∀ window, (ofHistory history).activeWindow = some window →
      (traced window history).isSome ∧
        ∀ other, activation other history ≤ activation window history) ∧
    (∀ thread, (∃ f, (ofHistory history).frames (some thread) = .error f) ↔
      ∀ window t, traced window history = some t → t.thread ≠ thread) ∧
    (∀ thread frames, (ofHistory history).frames (some thread) = .ok frames →
      ListsThread history thread frames) ∧
    (∀ w : Command.Window, w.debugger →
      StopsIn ((ofHistory history).tracerOf w) .entry history (.opening w)) ∧
    (∀ (h : Command.SetHighlightLine) t, traced h.win history = some t →
      StopsIn (t.movedTo h) .step history (.highlighting h)) := by
  have ranked := ranked_ofHistory history
  refine ⟨fun window => tracer?_ofHistory window history, ?active, ?fails,
    fun _ _ => ListsThread.of_frames, stopsIn_opening history, fun _ _ => stopsIn_highlighting⟩
  case active =>
    intro window active
    obtain ⟨tracer, highest⟩ := ranked.of_active active
    refine ⟨mem_order_ofHistory.mp tracer, fun other => ?_⟩
    by_cases mem : other ∈ (ofHistory history).order
    · exact highest other mem
    · rw [mem_order_ofHistory, Option.not_isSome_iff_eq_none] at mem
      rw [activation_of_untraced mem]
      exact Nat.zero_le _
  case fails =>
    intro thread
    rw [frames_fail_iff]
    constructor
    · intro none window t tracer
      rw [← tracer?_ofHistory, tracer?_eq_some_iff (nodup_order history)] at tracer
      exact none t tracer.1
    · intro none t mem
      refine none t.window t ?_
      rw [← tracer?_ofHistory, tracer?_eq_some_iff (nodup_order history)]
      exact ⟨mem, rfl⟩

end DebugBridge.Desktop
