import DebugBridge.Proofs.Desktop.Deferrals

/-!
# Lines that a later request supersedes

A source comes to be shown when a window opens on it, and also when an open window changes to it.
The first sets the lines that wait for the source, the second does not. As long as no window
changes to a source for which lines wait, nothing waits for a source that is shown, and lines are
only set as they were requested last. Once one does, the lines stay behind, and the next window
that opens on the source sets them even over a later request.
-/

namespace DebugBridge.Desktop

open Host (Source)

/-- The lines that wait for the source with a path. -/
def waitingFor (d : Desktop) (path : String) : Option (List Int64) :=
  d.deferred.newest? path (d.sources.referenceFor path)

/-- No lines wait for a source that a window shows. -/
def NothingLeft (d : Desktop) : Prop :=
  ∀ window reference path, d.sources.shownBy? window = some reference →
    d.sources.path? reference = some path → d.deferred.newest? path reference = none

/-- Whenever a window changed to a source, no lines waited for it. -/
def Punctual (history : List Input) : Prop :=
  ∀ w earlier, .updating w :: earlier <:+ history → (ofHistory earlier).waitingFor w.source = none

/-- The lines that were last requested for a source, whether a window showed it or not. -/
def requested (path : String) (reference : Int) (history : List Input) : Option (List Int64) :=
  history.findSome? (·.requested? path reference)

/-- An input sets lines only as they were last requested for the source in the window. -/
def UpToDate (history : List Input) (i : Input) : Prop :=
  ∀ a, .setLineAttributes a ∈ (ofHistory history).commands i →
    ∃ path reference lines,
      (ofHistory (i :: history)).sources.shownBy? a.win = some reference ∧
      (ofHistory (i :: history)).sources.path? reference = some path ∧
      requested path reference (i :: history) = some lines ∧
      .setLineAttributes a = Command.stopsAt a.win lines

/-! ## Nothing is left behind -/

section nothingLeft
variable {d d' : Desktop} {history : List Input}

/-- A window may be bound to a source for which nothing waits. -/
theorem NothingLeft.bind (h : NothingLeft d) (coherent : d.sources.Coherent) {w : Command.Window}
    (bound : d'.sources = (d.sources.bind w.token w.source).2)
    (here : d'.deferred.newest? w.source (d.sources.referenceFor w.source) = none)
    (fewer : ∀ path reference, d.deferred.newest? path reference = none →
      d'.deferred.newest? path reference = none) : NothingLeft d' := by
  intro window reference path shows known
  rw [bound] at shows known
  rcases coherent.shownBy?_bind_eq_some_iff.mp shows with ⟨-, rfl⟩ | ⟨-, -, old⟩
  · obtain rfl := Option.some.inj ((coherent.path?_bind_self _ _).symm.trans known)
    exact here
  · obtain ⟨other, same⟩ := coherent.known old
    obtain rfl := Option.some.inj ((coherent.path?_bind_of_path? same _ _).symm.trans known)
    exact fewer _ _ (h window reference _ old same)

/-- Lines are left to wait only for a source that no window shows. -/
theorem NothingLeft.request (h : NothingLeft d) (coherent : d.sources.Coherent) (source : Source)
    (lines : List Int64) : NothingLeft (d.after (.request source lines)) := by
  obtain ⟨deferred, same⟩ := d.after_request source lines
  intro window reference path shows known
  rw [same] at shows known
  have shown : d.sources.windowOf? reference ≠ none := by
    rw [coherent.inverse.mp shows]
    exact Option.some_ne_none window
  rw [newest?_request coherent (coherent.fits_of_path? known), if_neg shown]
  exact h window reference path shows known

theorem punctual_cons {i : Input} :
    Punctual (i :: history) ↔
      (∀ w, i = .updating w → (ofHistory history).waitingFor w.source = none) ∧
        Punctual history := by
  constructor
  · intro h
    refine ⟨?_, fun w earlier suffix => h w earlier (suffix.trans (List.suffix_cons _ _))⟩
    rintro w rfl
    exact h w history (List.suffix_refl _)
  · rintro ⟨now, before⟩ w earlier suffix
    rcases List.suffix_cons_iff.mp suffix with same | suffix
    · obtain ⟨rfl, rfl⟩ := List.cons.inj same
      exact now w rfl
    · exact before w earlier suffix

/-- Of the inputs, only windows that change to other sources can leave lines behind. -/
theorem NothingLeft.after {i : Input} (h : NothingLeft d) (coherent : d.sources.Coherent)
    (now : ∀ w, i = .updating w → d.waitingFor w.source = none) : NothingLeft (d.after i) := by
  cases i using Input.sourceCases with
  | opening w =>
    refine h.bind coherent (w := w) (sources_openWindow d w) ?_ fun path reference none => ?_
    · exact (deferred_openWindow d w).symm ▸ Deferred.newest?_settle_self _ _ _
    · exact (deferred_openWindow d w).symm ▸ Deferred.newest?_settle_eq_none _ _ _ _ _ none
  | updating w => exact h.bind coherent (w := w) rfl (now w rfl) fun _ _ none => none
  | closing r =>
    intro window reference path shows known
    have unbound : (d.after (.closing r)).sources = d.sources.unbind r.win :=
      sources_closeWindow d r.win
    have kept : (d.after (.closing r)).deferred = d.deferred := deferred_closeWindow d r.win
    rw [unbound, Sources.shownBy?_unbind] at shows
    rw [unbound, Sources.path?_unbind] at known
    rw [kept]
    split at shows
    case isTrue => cases shows
    case isFalse => exact h window reference path shows known
  | request source lines => exact h.request coherent source lines
  | other i same =>
    intro window reference path shows known
    rw [(same d).sources] at shows known
    rw [(same d).deferred]
    exact h window reference path shows known

/-- A window that changed to a source has left lines for it behind, if any waited. -/
theorem waitingFor_of_nothingLeft {w : Command.Window} (coherent : d.sources.Coherent)
    (h : NothingLeft (d.after (.updating w))) : d.waitingFor w.source = none :=
  h w.token (d.sources.referenceFor w.source) w.source
    (d.sources.shownBy?_bind_self w.token w.source) (coherent.path?_bind_self w.token w.source)

theorem nothingLeft_ofHistory (punctual : Punctual history) : NothingLeft (ofHistory history) := by
  induction history with
  | nil => exact fun _ _ _ shows => nomatch shows
  | cons i earlier ih =>
    obtain ⟨now, before⟩ := punctual_cons.mp punctual
    exact (ih before).after (coherent_ofHistory earlier) now

theorem punctual_iff_nothingLeft (history : List Input) :
    Punctual history ↔ ∀ earlier, earlier <:+ history → NothingLeft (ofHistory earlier) := by
  constructor
  · intro punctual earlier suffix
    exact nothingLeft_ofHistory fun w before inner => punctual w before (inner.trans suffix)
  · intro always w earlier suffix
    exact waitingFor_of_nothingLeft (coherent_ofHistory earlier) (always _ suffix)

end nothingLeft

/-! ## Lines as they were last requested -/

section upToDate
variable {history : List Input} {path : String} {reference : Int} {lines : List Int64}

/-- If nothing was left behind, what waits for a source was requested last. -/
theorem requested_of_awaited (punctual : Punctual history)
    (fits : (ofHistory history).sources.Fits path reference)
    (waits : awaited path reference history = some lines) :
    requested path reference history = some lines := by
  induction history with
  | nil => cases waits
  | cons i earlier ih =>
    have before := (punctual_cons.mp punctual).2
    have fitted := fits_before (coherent_ofHistory earlier) i fits
    rw [awaited] at waits
    rw [requested, List.findSome?_cons]
    split at waits
    case isTrue => cases waits
    case isFalse =>
      split at waits
      case isTrue unshown =>
        cases asked : i.requested? path reference with
        | some lines' =>
          rw [asked, Option.some_or] at waits
          exact waits
        | none =>
          rw [asked, Option.none_or] at waits
          exact ih before fitted waits
      case isFalse shown =>
        -- the source is shown, so nothing waits for it
        obtain ⟨window, shown⟩ := Option.ne_none_iff_exists'.mp shown
        have shows := (coherent_ofHistory earlier).inverse.mpr shown
        obtain ⟨other, known⟩ := (coherent_ofHistory earlier).known shows
        have same := (fitted reference other known).mp rfl
        have nothing := nothingLeft_ofHistory before _ _ _ shows known
        rw [same, newest?_ofHistory fitted, waits] at nothing
        cases nothing

/-- Lines are set when a window opens or when they are requested. -/
theorem opening_or_request_of_setLineAttributes {d : Desktop} {i : Input}
    {a : Command.SetLineAttributes} (sent : .setLineAttributes a ∈ d.commands i) :
    (∃ w, i = .opening w) ∨ ∃ source lines, i = .request source lines := by
  cases i with
  | message m =>
    cases m with
    | raw => cases sent
    | command c =>
      cases c with
      | openWindow w => exact .inl ⟨w, rfl⟩
      | setHighlightLine h => simp [commands, hear, hearCommand, highlight, stop] at sent
      | hadError e => simp [commands, hear, hearCommand, stop] at sent
      | appendSessionOutput o =>
        have none : d.commands (.message (.command (.appendSessionOutput o))) = [] := by
          unfold commands hear hearCommand
          dsimp only
          split <;> rfl
        rw [none] at sent
        cases sent
      | _ => cases sent
  | request source lines => exact .inr ⟨source, lines, rfl⟩
  | awaited | givenUp | reordered => cases sent

theorem upToDate_opening (punctual : Punctual history) (w : Command.Window) :
    UpToDate history (.opening w) := by
  intro a sent
  have fits := (coherent_ofHistory history).fits w.source
  rw [commands_opening] at sent
  cases waits : awaited w.source ((ofHistory history).sources.referenceFor w.source) history with
  | none =>
    rw [waits] at sent
    by_cases debugger : w.debugger <;> simp [debugger] at sent
  | some lines =>
    have same : .setLineAttributes a = Command.stopsAt w.token lines := by
      rw [waits] at sent
      by_cases debugger : w.debugger <;> simpa [debugger] using sent
    cases same
    refine ⟨w.source, _, lines, ?_, path?_opening history w, ?_, rfl⟩
    · rw [sources_opening]
      exact Sources.shownBy?_bind_self _ w.token w.source
    · have before := requested_of_awaited punctual fits waits
      exact before

theorem upToDate_request (history : List Input) (source : Source) (lines : List Int64) :
    UpToDate history (.request source lines) := by
  intro a sent
  obtain ⟨deferred, after⟩ := (ofHistory history).after_request source lines
  have coherent := coherent_ofHistory history
  rw [ofHistory, after]
  dsimp only
  cases named : SourceName.ofSource? source with
  | none =>
    obtain ⟨f, failed⟩ := (ofHistory history).planBreakpoints_unnamed named lines
    simp [commands, failed] at sent
  | some name =>
    cases shown : (ofHistory history).sources.windowNamed? name with
    | none => simp [commands, planBreakpoints_unshown _ named shown] at sent
    | some window =>
      have same : .setLineAttributes a = Command.stopsAt window (validLines lines) := by
        simpa [commands, planBreakpoints_shown _ named shown] using sent
      cases same
      obtain ⟨path, reference, names, shows, known⟩ := coherent.of_windowNamed? shown
      refine ⟨path, reference, _, shows, known, ?_, rfl⟩
      simp [requested, Input.requested?, named, names]

theorem upToDate_of_punctual (punctual : Punctual history) (i : Input) : UpToDate history i := by
  intro a sent
  obtain ⟨w, rfl⟩ | ⟨source, lines, rfl⟩ := opening_or_request_of_setLineAttributes sent
  · exact upToDate_opening punctual w a sent
  · exact upToDate_request history source lines a sent

end upToDate

/-! ## Lines that are left behind -/

/-- When a window changes to a source for which lines wait, they are left behind: a request that
follows is sent at once, but the next window that opens on the source sets the lines of before. -/
structure LeavesBehind (history : List Input) (w : Command.Window) (lines : List Int64) :
    Prop where
  unsent : (ofHistory history).commands (.updating w) = []
  left : ¬ NothingLeft (ofHistory (.updating w :: history))
  return_over_request : ∀ source name newer (o : Command.Window),
    SourceName.ofSource? source = some name →
    name.Names w.source ((ofHistory history).sources.referenceFor w.source) →
    o.source = w.source →
    (ofHistory (.updating w :: history)).commands (.request source newer) =
      [settingStops w.token newer] ∧
    .stopsAt o.token lines ∈
      (ofHistory (.request source newer :: .updating w :: history)).commands (.opening o)

section leftBehind
variable {history : List Input} {w : Command.Window} {lines : List Int64}

theorem stopsAt_mem_commands_opening {d : Desktop} (waits : d.waitingFor w.source = some lines) :
    .stopsAt w.token lines ∈ d.commands (.opening w) := by
  have opened : d.commands (.opening w) = (d.appear w).2.commands ++
      ((d.waitingFor w.source).map (.stopsAt w.token)).toList := d.commands_openWindow w
  rw [opened, waits]
  exact List.mem_append_right _ (List.mem_singleton_self _)

theorem leavesBehind_of_waitingFor (waits : (ofHistory history).waitingFor w.source = some lines) :
    LeavesBehind history w lines where
  unsent := rfl
  left := by
    intro nothing
    rw [waitingFor_of_nothingLeft (coherent_ofHistory history) nothing] at waits
    cases waits
  return_over_request := by
    intro source name newer o named names same
    have bound : (ofHistory (.updating w :: history)).sources =
      ((ofHistory history).sources.bind w.token w.source).2 := rfl
    have known : (ofHistory (.updating w :: history)).sources.path?
        ((ofHistory history).sources.referenceFor w.source) = some w.source :=
      (coherent_ofHistory history).path?_bind_self w.token _
    have coherent := coherent_ofHistory (.updating w :: history)
    have shown : (ofHistory (.updating w :: history)).sources.windowNamed? name = some w.token := by
      rw [coherent.windowNamed?_eq (coherent.fits_of_path? known) names, bound]
      exact Sources.windowOf?_bind_self _ _ _
    constructor
    · simp only [commands, planBreakpoints_shown _ named shown]
      rfl
    · have kept : ofHistory (.request source newer :: .updating w :: history) =
          ofHistory (.updating w :: history) := by
        rw [ofHistory, after, planBreakpoints_shown _ named shown]
      rw [kept]
      refine stopsAt_mem_commands_opening ?_
      rw [waitingFor, same, ← coherent.eq_referenceFor known]
      exact waits

/-- Behind every history: no window has changed to a source for which lines waited exactly if at
no time lines waited for a source that was shown; and then lines were only ever set as they were
last requested. A window that opens sets what waits for its source at once and leaves nothing
behind; a window that changes to a source leaves behind what waits for it. -/
theorem punctual_keeps_lines_current (history : List Input) :
    (Punctual history ↔ ∀ earlier, earlier <:+ history → NothingLeft (ofHistory earlier)) ∧
    (Punctual history → ∀ i earlier, i :: earlier <:+ history → UpToDate earlier i) ∧
    (∀ (w : Command.Window) lines, (ofHistory history).waitingFor w.source = some lines →
      .stopsAt w.token lines ∈ (ofHistory history).commands (.opening w) ∧
      (ofHistory (.opening w :: history)).waitingFor w.source = none) ∧
    ∀ (w : Command.Window) lines, (ofHistory history).waitingFor w.source = some lines →
      LeavesBehind history w lines := by
  refine ⟨punctual_iff_nothingLeft history, ?upToDate, ?opening,
    fun _ _ => leavesBehind_of_waitingFor⟩
  case upToDate =>
    intro punctual i earlier suffix
    refine upToDate_of_punctual (fun w before inner => punctual w before ?_) i
    exact inner.trans ((List.suffix_cons i earlier).trans suffix)
  case opening =>
    intro w lines waits
    refine ⟨stopsAt_mem_commands_opening waits, ?_⟩
    have coherent := coherent_ofHistory (.opening w :: history)
    rw [waitingFor, ← coherent.eq_referenceFor (path?_opening history w)]
    exact (deferred_openWindow _ w).symm ▸ Deferred.newest?_settle_self _ _ _

end leftBehind

/-- Lines one and two wait for a file, and window five changes to it. -/
def changedWhileWaiting : List Input :=
  [.updating (showing 5 "/f.aplf"), .request ⟨none, some "/f.aplf", none⟩ [1, 2]]

/-- Lines one and two are not set when window five changes to the file, and are left behind. Then
line nine is requested and set, and when the file opens in window six, one and two are set. -/
theorem lines_left_behind :
    ¬ NothingLeft (ofHistory changedWhileWaiting) ∧
      ¬ UpToDate (.request ⟨none, some "/f.aplf", none⟩ [9] :: changedWhileWaiting)
        (.opening (showing 6 "/f.aplf")) := by
  constructor
  · intro nothing
    have waits := nothing 5 1 "/f.aplf" (by decide) (by decide)
    exact absurd waits (by decide)
  · intro upToDate
    have sent := @stopsAt_mem_commands_opening (showing 6 "/f.aplf") [1, 2]
      (ofHistory (.request ⟨none, some "/f.aplf", none⟩ [9] :: changedWhileWaiting)) (by decide)
    obtain ⟨path, reference, lines, shown, known, last, same⟩ := upToDate _ sent
    obtain rfl : 1 = reference := Option.some.inj (Eq.trans (by decide) shown)
    obtain rfl : "/f.aplf" = path := Option.some.inj (Eq.trans (by decide) known)
    obtain rfl : [9] = lines := Option.some.inj (Eq.trans (by decide) last)
    exact absurd (Command.setLineAttributes.inj same) (by decide)

end DebugBridge.Desktop
