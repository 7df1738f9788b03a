import DebugBridge.Proofs.Desktop.Tracers

/-!
# The order of activation

A tracer is activated when its window opens with a suspended function in it, and whenever it
reaches a line. Of the tracers of a desktop, those activated later have higher numbers than those
activated earlier, and those not activated since they became tracers have none. If a window is
active, no tracer has a higher number than the one in it.
-/

namespace DebugBridge.Desktop

/-- Whether an input activates a window that is a tracer then. -/
def Input.activates (window : Int64) (i : Input) : Bool :=
  match i.news with
  | .opened w => w.debugger && w.token = window
  | .highlighted h => h.win = window
  | .updated _ | .closed _ | .retyped _ | .nothing => false

@[simp] theorem Input.activates_opening (window : Int64) (w : Command.Window) :
    (Input.opening w).activates window = (w.debugger && w.token = window) := rfl

@[simp] theorem Input.activates_highlighting (window : Int64) (h : Command.SetHighlightLine) :
    (Input.highlighting h).activates window = decide (h.win = window) := rfl

/-- How many inputs had come when a window was last activated, of those since it became a tracer;
zero if it was not. -/
def activation (window : Int64) : List Input → Nat
  | [] => 0
  | i :: earlier =>
    if (traced window (i :: earlier)).isNone then 0
    else if i.activates window then earlier.length + 1
    else activation window earlier

theorem activation_le (window : Int64) (history : List Input) :
    activation window history ≤ history.length := by
  induction history with
  | nil => exact Nat.le_refl _
  | cons i earlier ih =>
    unfold activation
    rw [List.length_cons]
    split
    · exact Nat.zero_le _
    · split <;> omega

theorem activation_of_untraced {window : Int64} {history : List Input}
    (h : traced window history = none) : activation window history = 0 := by
  cases history with
  | nil => rfl
  | cons i earlier => rw [activation, h, Option.isNone_none, if_pos rfl]

/-- An input activates one window at most. -/
theorem Input.eq_of_activates {i : Input} {v w : Int64} (hv : i.activates v = true)
    (hw : i.activates w = true) : v = w := by
  unfold activates at hv hw
  split at hv <;> simp_all

/-- A tracer that was activated was activated by the latest input, or is as it was before. -/
theorem activation_cases {window : Int64} {i : Input} {earlier : List Input}
    (activated : activation window (i :: earlier) ≠ 0) :
    i.activates window = true ∧ activation window (i :: earlier) = earlier.length + 1 ∨
      activation window (i :: earlier) = activation window earlier := by
  by_cases gone : (traced window (i :: earlier)).isNone
  · exact absurd (by rw [activation, if_pos gone]) activated
  · rw [activation, if_neg gone]
    by_cases activates : i.activates window
    · exact .inl ⟨activates, if_pos activates⟩
    · exact .inr (if_neg activates)

/-- No two tracers have the same activation, unless they were not activated. -/
theorem eq_of_activation_eq {v w : Int64} {history : List Input}
    (same : activation v history = activation w history) (activated : activation v history ≠ 0) :
    v = w := by
  induction history with
  | nil => exact absurd rfl activated
  | cons i earlier ih =>
    have hv := activation_le v earlier
    have hw := activation_le w earlier
    obtain ⟨nowV, lastV⟩ | beforeV := activation_cases activated <;>
      obtain ⟨nowW, lastW⟩ | beforeW := activation_cases (same ▸ activated)
    · exact Input.eq_of_activates nowV nowW
    · omega
    · omega
    · exact ih (by omega) (by omega)

/-! ## The numbers of the tracers -/

theorem Tracer.latest?_eq_none {l : List Tracer} : Tracer.latest? l = none ↔ l = [] := by
  cases l with
  | nil => exact iff_of_true rfl rfl
  | cons t rest =>
    refine iff_of_false ?_ (List.cons_ne_nil t rest)
    rw [Tracer.latest?]
    split
    · exact Option.some_ne_none t
    · split <;> exact Option.some_ne_none _

/-- The latest tracer has the highest number. -/
theorem Tracer.latest?_eq_some {l : List Tracer} {t : Tracer} (h : Tracer.latest? l = some t) :
    t ∈ l ∧ ∀ u ∈ l, u.activated ≤ t.activated := by
  induction l generalizing t with
  | nil => cases h
  | cons v rest ih =>
    rw [Tracer.latest?] at h
    split at h
    case h_1 none =>
      cases h
      rw [Tracer.latest?_eq_none.mp none]
      exact ⟨List.mem_cons_self, by simp⟩
    case h_2 u found =>
      obtain ⟨mem, highest⟩ := ih found
      split at h
      case isTrue lower =>
        cases h
        refine ⟨List.mem_cons_self, List.forall_mem_cons.mpr ⟨Nat.le_refl _, fun w hw => ?_⟩⟩
        exact Nat.le_trans (highest w hw) (Nat.le_of_lt lower)
      case isFalse higher =>
        cases h
        exact ⟨List.mem_cons_of_mem v mem, List.forall_mem_cons.mpr ⟨Nat.not_lt.mp higher, highest⟩⟩

/-- The windows of the tracers, each with the number of its tracer. -/
def marks (d : Desktop) : List (Int64 × Nat) := d.tracers.map fun t => (t.window, t.activated)

section marks
variable {d d' : Desktop} {window : Int64} {m : Int64 × Nat}

theorem mem_marks {t : Tracer} (mem : t ∈ d.tracers) : (t.window, t.activated) ∈ d.marks :=
  List.mem_map.mpr ⟨t, mem, rfl⟩

theorem mem_order_of_mem_marks (mem : m ∈ d.marks) : m.1 ∈ d.order := by
  obtain ⟨t, inside, rfl⟩ := List.mem_map.mp mem
  exact List.mem_map.mpr ⟨t, inside, rfl⟩

theorem marks_congr (h : d'.tracers = d.tracers) : d'.marks = d.marks := by
  rw [marks, h, marks]

theorem marks_updateWindow (d : Desktop) (w : Command.Window) :
    (d.updateWindow w).marks = d.marks := by
  refine List.map_map.trans (List.map_congr_left fun t _ => ?_)
  rw [Function.comp_apply]
  split <;> rfl

theorem mem_marks_put (nodup : d.order.Nodup) (t : Tracer) :
    m ∈ (Tracer.put t d.tracers).map (fun t => (t.window, t.activated)) ↔
      m = (t.window, t.activated) ∨ m.1 ≠ t.window ∧ m ∈ d.marks := by
  simp only [marks, List.mem_map, Tracer.mem_put t nodup]
  constructor
  · rintro ⟨u, rfl | ⟨apart, mem⟩, rfl⟩
    · exact .inl rfl
    · exact .inr ⟨apart, u, mem, rfl⟩
  · rintro (rfl | ⟨apart, u, mem, rfl⟩)
    · exact ⟨t, .inl rfl, rfl⟩
    · exact ⟨u, .inr ⟨apart, mem⟩, rfl⟩

theorem mem_marks_drop (d : Desktop) (gone : Int64) :
    m ∈ ((d.dropTracer gone).reselect gone).marks ↔ m.1 ≠ gone ∧ m ∈ d.marks := by
  rw [marks_congr (tracers_reselect _ gone)]
  simp only [marks, dropTracer, List.mem_map, List.mem_filter, decide_eq_true_eq]
  constructor
  · rintro ⟨t, ⟨mem, left⟩, rfl⟩
    exact ⟨left, t, mem, rfl⟩
  · rintro ⟨left, t, mem, rfl⟩
    exact ⟨t, ⟨mem, left⟩, rfl⟩

/-- The numbers of the tracers are in the order of their ranks, and those of rank zero have none. If
a window is active, no tracer has a higher number than the one in it. -/
structure Ranked (rank : Int64 → Nat) (d : Desktop) : Prop where
  bound : ∀ m ∈ d.marks, m.2 ≤ d.activations
  agrees : ∀ m ∈ d.marks, ∀ n ∈ d.marks, m.2 ≤ n.2 ↔ rank m.1 ≤ rank n.1
  zero : ∀ m ∈ d.marks, m.2 = 0 ↔ rank m.1 = 0
  active : ∀ window, d.activeWindow = some window →
    ∃ number, (window, number) ∈ d.marks ∧ ∀ m ∈ d.marks, m.2 ≤ number

namespace Ranked
variable {rank rank' : Int64 → Nat}

theorem congr (h : Ranked rank d) (marks : ∀ m, m ∈ d'.marks ↔ m ∈ d.marks)
    (count : d'.activations = d.activations) (active : d'.activeWindow = d.activeWindow)
    (same : ∀ m ∈ d'.marks, rank' m.1 = rank m.1) : Ranked rank' d' where
  bound m mem := count ▸ h.bound m ((marks m).mp mem)
  agrees m hm n hn := by
    rw [same m hm, same n hn]
    exact h.agrees m ((marks m).mp hm) n ((marks n).mp hn)
  zero m mem := by
    rw [same m mem]
    exact h.zero m ((marks m).mp mem)
  active window front := by
    obtain ⟨number, mem, highest⟩ := h.active window (active ▸ front)
    exact ⟨number, (marks _).mpr mem, fun m hm => highest m ((marks m).mp hm)⟩

/-- A tracer that gets the next number needs a rank above all others. -/
theorem activate (h : Ranked rank d) (nodup : d.order.Nodup) (t : Tracer)
    (top : ∀ m ∈ d.marks, rank m.1 < rank' t.window)
    (positive : 0 < rank' t.window)
    (same : ∀ m ∈ d.marks, m.1 ≠ t.window → rank' m.1 = rank m.1) :
    Ranked rank' (d.activate t) := by
  have marks (m : Int64 × Nat) : m ∈ (d.activate t).marks ↔
      m = (t.window, d.activations + 1) ∨ m.1 ≠ t.window ∧ m ∈ d.marks :=
    mem_marks_put nodup (t.numbered (d.activations + 1))
  have count : (d.activate t).activations = d.activations + 1 := rfl
  constructor
  case bound =>
    intro m mem
    rcases (marks m).mp mem with rfl | ⟨-, old⟩
    · exact Nat.le_refl _
    · exact Nat.le_succ_of_le (h.bound m old)
  case agrees =>
    intro m hm n hn
    rcases (marks m).mp hm with rfl | ⟨apartM, oldM⟩ <;>
      rcases (marks n).mp hn with rfl | ⟨apartN, oldN⟩
    · exact iff_of_true (Nat.le_refl _) (Nat.le_refl _)
    · have below := top n oldN
      have bound := h.bound n oldN
      rw [same n oldN apartN]
      dsimp only
      exact iff_of_false (by omega) (by omega)
    · have below := top m oldM
      have bound := h.bound m oldM
      rw [same m oldM apartM]
      dsimp only
      exact iff_of_true (by omega) (by omega)
    · rw [same m oldM apartM, same n oldN apartN]
      exact h.agrees m oldM n oldN
  case zero =>
    intro m mem
    rcases (marks m).mp mem with rfl | ⟨apart, old⟩
    · exact iff_of_false (Nat.succ_ne_zero _) (Nat.ne_of_gt positive)
    · rw [same m old apart]
      exact h.zero m old
  case active =>
    intro window front
    cases front
    refine ⟨d.activations + 1, (marks _).mpr (.inl rfl), fun m mem => ?_⟩
    rcases (marks m).mp mem with rfl | ⟨-, old⟩
    · exact Nat.le_refl _
    · exact Nat.le_succ_of_le (h.bound m old)

theorem drop (h : Ranked rank d) (gone : Int64)
    (same : ∀ m ∈ d.marks, m.1 ≠ gone → rank' m.1 = rank m.1) :
    Ranked rank' ((d.dropTracer gone).reselect gone) := by
  have marks (m : Int64 × Nat) := mem_marks_drop (m := m) d gone
  have count : ((d.dropTracer gone).reselect gone).activations = d.activations := by
    unfold reselect
    split <;> rfl
  constructor
  case bound => exact fun m mem => count ▸ h.bound m ((marks m).mp mem).2
  case agrees =>
    intro m hm n hn
    obtain ⟨leftM, oldM⟩ := (marks m).mp hm
    obtain ⟨leftN, oldN⟩ := (marks n).mp hn
    rw [same m oldM leftM, same n oldN leftN]
    exact h.agrees m oldM n oldN
  case zero =>
    intro m mem
    obtain ⟨left, old⟩ := (marks m).mp mem
    rw [same m old left]
    exact h.zero m old
  case active =>
    intro window front
    have tracers := tracers_reselect (d.dropTracer gone) gone
    unfold reselect at front
    split at front
    case isTrue =>
      obtain ⟨t, latest, rfl⟩ := Option.map_eq_some_iff.mp front
      obtain ⟨mem, highest⟩ := Tracer.latest?_eq_some latest
      rw [← tracers] at mem highest
      refine ⟨t.activated, mem_marks mem, fun m hm => ?_⟩
      obtain ⟨u, inside, rfl⟩ := List.mem_map.mp hm
      exact highest u inside
    case isFalse other =>
      obtain ⟨number, mem, highest⟩ := h.active window front
      have left : window ≠ gone := by
        rintro rfl
        exact other front
      refine ⟨number, (marks _).mpr ⟨left, mem⟩, fun m hm => ?_⟩
      exact highest m ((marks m).mp hm).2

/-- A tracer that comes new without a number needs the rank zero. -/
theorem append (h : Ranked rank d) (nodup : d.order.Nodup) {t : Tracer} (new : t.window ∉ d.order)
    (unnumbered : t.activated = 0) (last : rank' t.window = 0)
    (same : ∀ m ∈ d.marks, rank' m.1 = rank m.1) :
    Ranked rank' { d with tracers := Tracer.put t d.tracers } := by
  have marks (m : Int64 × Nat) :
      m ∈ Desktop.marks { d with tracers := Tracer.put t d.tracers } ↔
        m = (t.window, 0) ∨ m ∈ d.marks := by
    refine (mem_marks_put nodup t).trans ?_
    rw [unnumbered]
    refine or_congr_right (and_iff_right_of_imp fun mem => ?_)
    rintro here
    exact new (here ▸ mem_order_of_mem_marks mem)
  constructor
  case bound =>
    intro m mem
    rcases (marks m).mp mem with rfl | old
    · exact Nat.zero_le _
    · exact h.bound m old
  case agrees =>
    intro m hm n hn
    rcases (marks m).mp hm with rfl | oldM
    · rw [last]
      exact iff_of_true (Nat.zero_le _) (Nat.zero_le _)
    · rcases (marks n).mp hn with rfl | oldN
      · rw [last, same m oldM, Nat.le_zero, Nat.le_zero]
        exact h.zero m oldM
      · rw [same m oldM, same n oldN]
        exact h.agrees m oldM n oldN
  case zero =>
    intro m mem
    rcases (marks m).mp mem with rfl | old
    · exact iff_of_true rfl last
    · rw [same m old]
      exact h.zero m old
  case active =>
    intro window front
    obtain ⟨number, mem, highest⟩ := h.active window front
    refine ⟨number, (marks _).mpr (.inr mem), fun m hm => ?_⟩
    rcases (marks m).mp hm with rfl | old
    · exact Nat.zero_le _
    · exact highest m old

/-- An active window is a tracer of the highest rank. -/
theorem of_active (h : Ranked rank d) (active : d.activeWindow = some window) :
    window ∈ d.order ∧ ∀ other ∈ d.order, rank other ≤ rank window := by
  obtain ⟨number, mem, highest⟩ := h.active window active
  refine ⟨mem_order_of_mem_marks mem, fun other inside => ?_⟩
  obtain ⟨t, among, rfl⟩ := List.mem_map.mp inside
  exact (h.agrees _ (mem_marks among) _ mem).mp (highest _ (mem_marks among))

end Ranked

variable {history : List Input}

theorem mem_order_ofHistory :
    window ∈ (ofHistory history).order ↔ (traced window history).isSome := by
  rw [mem_order, tracer?_ofHistory]

/-- The activation of a tracer is the latest input if that activates it, and else stays. -/
theorem activation_cons {i : Input} (tracer : (traced window (i :: history)).isSome) :
    activation window (i :: history) =
      if i.activates window then history.length + 1 else activation window history := by
  rw [activation, if_neg (by simpa [← Option.isSome_iff_ne_none] using tracer)]

/-- An input that does not activate a tracer leaves its activation as it is. -/
theorem activation_kept {i : Input} (mem : m ∈ (ofHistory (i :: history)).marks)
    (other : i.activates m.1 = false) :
    activation m.1 (i :: history) = activation m.1 history := by
  rw [activation_cons (mem_order_ofHistory.mp (mem_order_of_mem_marks mem)), other]
  rfl

/-- An input that activates one tracer and does nothing else to the numbers keeps the ranks
right. -/
theorem ranked_of_activated {i : Input} {t : Tracer} (before : Ranked (activation · history) d)
    (nodup : d.order.Nodup)
    (tracers : (ofHistory (i :: history)).tracers = (d.activate t).tracers)
    (count : (ofHistory (i :: history)).activations = d.activations + 1)
    (active : (ofHistory (i :: history)).activeWindow = some t.window)
    (activates : ∀ v, i.activates v = decide (t.window = v)) :
    Ranked (activation · (i :: history)) (ofHistory (i :: history)) := by
  have marks : (ofHistory (i :: history)).marks = (d.activate t).marks := marks_congr tracers
  have put (m : Int64 × Nat) := mem_marks_put (m := m) nodup (t.numbered (d.activations + 1))
  have here : (t.window, d.activations + 1) ∈ (ofHistory (i :: history)).marks :=
    marks ▸ (put _).mpr (.inl rfl)
  have last : activation t.window (i :: history) = history.length + 1 := by
    rw [activation_cons (mem_order_ofHistory.mp (mem_order_of_mem_marks here)),
      if_pos (by simp [activates])]
  have activated : Ranked (activation · (i :: history)) (d.activate t) := by
    refine before.activate nodup t (fun m _ => ?_) (last ▸ Nat.succ_pos _) fun m old apart => ?_
    · rw [last]
      exact Nat.lt_succ_of_le (activation_le m.1 history)
    · refine activation_kept (marks ▸ (put m).mpr (.inr ⟨apart, old⟩)) ?_
      simpa [activates] using Ne.symm apart
  exact activated.congr (fun m => marks ▸ Iff.rfl) count active fun _ _ => rfl

/-- The numbers of the tracers are in the order in which they were activated. -/
theorem ranked_ofHistory (history : List Input) :
    Ranked (activation · history) (ofHistory history) := by
  induction history with
  | nil => exact ⟨nofun, nofun, nofun, nofun⟩
  | cons i earlier ih =>
    have nodup := nodup_order earlier
    cases i using Input.newsCases with
    | opening w =>
      have seen := windows_openWindow (ofHistory earlier) w
      have tracers := tracers_openWindow (ofHistory earlier) w
      have noted : Ranked (activation · earlier) ((ofHistory earlier).note w).2 :=
        ih.congr (fun _ => Iff.rfl) rfl rfl fun _ _ => rfl
      rw [appear] at seen tracers
      by_cases debugger : w.debugger
      case pos =>
        rw [if_pos debugger] at seen tracers
        exact ranked_of_activated (t := (ofHistory earlier).tracerOf w) noted nodup tracers
          seen.activations seen.activeWindow fun v => by
            rw [Input.activates_opening, debugger]
            rfl
      case neg =>
        rw [if_neg debugger] at seen tracers
        have marks := marks_congr tracers
        exact noted.congr (fun m => marks ▸ Iff.rfl) seen.activations seen.activeWindow
          fun m hm => activation_kept hm (by simp [debugger])
    | updating w =>
      have marks := marks_updateWindow (ofHistory earlier) w
      exact ih.congr (fun m => marks ▸ Iff.rfl) rfl rfl fun m hm => activation_kept hm rfl
    | closing r =>
      -- what the window showed is forgotten first, which is no matter of tracers
      have unbound : Ranked (activation · earlier)
          { ofHistory earlier with
            windows := (ofHistory earlier).windows.erase r.win
            sources := (ofHistory earlier).sources.unbind r.win } :=
        ih.congr (fun _ => Iff.rfl) rfl rfl fun _ _ => rfl
      refine unbound.drop r.win fun m hm left => activation_kept ?_ rfl
      exact (mem_marks_drop _ r.win).mpr ⟨left, hm⟩
    | highlighting h =>
      have reached : ofHistory (.highlighting h :: earlier) = ((ofHistory earlier).highlight h).1 :=
        rfl
      cases known : (ofHistory earlier).tracer? h.win with
      | none =>
        rw [highlight_of_untraced _ _ known] at reached
        have marks : (ofHistory (.highlighting h :: earlier)).marks = (ofHistory earlier).marks :=
          marks_congr (reached ▸ rfl)
        refine ih.congr (fun m => marks ▸ Iff.rfl) (reached ▸ rfl) (reached ▸ rfl) fun m hm => ?_
        refine activation_kept hm ?_
        rw [Input.activates_highlighting, decide_eq_false_iff_not]
        intro here
        have traced := mem_order.mp (mem_order_of_mem_marks (marks ▸ hm))
        rw [← here, known] at traced
        cases traced
      | some t =>
        rw [highlight_of_traced _ _ known] at reached
        have here : t.window = h.win := window_of_tracer? known
        exact ranked_of_activated (t := t.movedTo h) ih nodup (reached ▸ rfl) (reached ▸ rfl)
          (reached ▸ rfl) fun v => by
            rw [Input.activates_highlighting, ← here]
            rfl
    | retyping c =>
      have retyped : ofHistory (.retyping c :: earlier) =
          if c.tracer then (ofHistory earlier).startTracing c.win
            else (ofHistory earlier).stopTracing c.win := rfl
      have kept (m : Int64 × Nat) (hm : m ∈ (ofHistory (.retyping c :: earlier)).marks) :
          activation m.1 (.retyping c :: earlier) = activation m.1 earlier := activation_kept hm rfl
      by_cases tracer : c.tracer
      case pos =>
        rw [if_pos tracer, startTracing] at retyped
        split at retyped
        case h_1 s untraced seen =>
          rw [retyped] at kept ⊢
          have new : c.win ∉ (ofHistory earlier).order := by simp [mem_order, untraced]
          have put (m : Int64 × Nat) :=
            mem_marks_put (m := m) nodup ((ofHistory earlier).tracerSeen c.win s)
          refine ih.append nodup (t := (ofHistory earlier).tracerSeen c.win s) new rfl ?_
            fun m hm => kept m ((put m).mpr (.inr ⟨?_, hm⟩))
          · refine (kept (c.win, 0) ((put _).mpr (.inl rfl))).trans (activation_of_untraced ?_)
            rw [← tracer?_ofHistory, untraced]
          · intro (here : m.1 = c.win)
            exact new (here ▸ mem_order_of_mem_marks hm)
        case h_2 =>
          rw [retyped] at kept ⊢
          exact ih.congr (fun _ => Iff.rfl) rfl rfl kept
      case neg =>
        rw [if_neg tracer, stopTracing] at retyped
        split at retyped
        case h_1 =>
          rw [retyped] at kept ⊢
          exact ih.congr (fun _ => Iff.rfl) rfl rfl kept
        case h_2 =>
          rw [retyped] at kept ⊢
          exact ih.drop c.win fun m hm left => kept m ((mem_marks_drop _ c.win).mpr ⟨left, hm⟩)
    | nothing i h =>
      have same := (ofHistory earlier).after_of_nothing h
      have marks := same.tracers.map fun t : Tracer => (t.window, t.activated)
      refine ih.congr (fun m => marks.mem_iff) same.activations same.activeWindow fun m hm => ?_
      refine activation_kept hm ?_
      rw [Input.activates, h]

end marks

end DebugBridge.Desktop
