import Mathlib
import DebugBridge.Proofs.Desktop.Deferrals
import DebugBridge.Proofs.Desktop.Stacks

/-!
# The sources of frames

A frame that names a source names the one that its window shows. Lines requested for exactly that
source are set in the window of the frame, and a text that is fetched by the source's reference is
the one with which the interpreter last described the window. No other window can come between,
whatever windows open, change and close.
-/

namespace DebugBridge.Desktop

open Host (Frame Source)

/-- The window as the interpreter last described it, when it opened or when it changed. -/
def described (window : Int64) : List Input → Option Command.Window
  | [] => none
  | i :: earlier =>
    match i.news with
    | .opened w | .updated w => if w.token = window then some w else described window earlier
    | .closed _ | .highlighted _ | .retyped _ | .nothing => described window earlier

/-- Lines requested for the source are set at once in the window, all that there can be. -/
structure LeadsTo (d : Desktop) (source : Source) (window : Int64) (lines : List Int64)
    (plan : BreakpointPlan) : Prop where
  planned : d.planBreakpoints source lines = .ok (plan, d)
  set : plan.command = some (settingStops window lines)
  each_line : plan.breakpoints.map Host.Breakpoint.line = lines
  verified : ∀ b ∈ plan.breakpoints, b.isVerified ↔ 1 ≤ b.line

/-! ## Sources and texts behind an input -/

section after
variable (d : Desktop)

theorem texts_appear (w : Command.Window) :
    (d.appear w).1.texts = d.texts.insert (d.sources.referenceFor w.source) w.text := by
  have same : (d.note w).1 = d.sources.referenceFor w.source := d.sources.bind_fst w.token w.source
  rw [← same]
  unfold appear
  split <;> rfl

theorem texts_openWindow (w : Command.Window) :
    (d.openWindow w).1.texts = d.texts.insert (d.sources.referenceFor w.source) w.text := by
  rw [openWindow_eq, ← texts_appear]
  split <;> rfl

theorem texts_updateWindow (w : Command.Window) :
    (d.updateWindow w).texts = d.texts.insert (d.sources.referenceFor w.source) w.text := by
  have same : (d.note w).1 = d.sources.referenceFor w.source := d.sources.bind_fst w.token w.source
  rw [← same]
  rfl

@[simp] theorem texts_reselect (gone : Int64) : (d.reselect gone).texts = d.texts := by
  unfold reselect
  split <;> rfl

theorem texts_closeWindow (window : Int64) : (d.closeWindow window).texts = d.texts :=
  texts_reselect _ window

theorem texts_highlight (h : Command.SetHighlightLine) : (d.highlight h).1.texts = d.texts := by
  unfold highlight
  split <;> rfl

theorem texts_startTracing (window : Int64) : (d.startTracing window).texts = d.texts := by
  unfold startTracing
  split <;> rfl

theorem texts_stopTracing (window : Int64) : (d.stopTracing window).texts = d.texts := by
  unfold stopTracing
  split
  · rfl
  · exact texts_reselect _ window

theorem texts_of_nothing {i : Input} (h : i.news = .nothing) : (d.after i).texts = d.texts := by
  cases i with
  | message m =>
    cases m with
    | raw => rfl
    | command c =>
      cases c with
      | openWindow | updateWindow | closeWindow | setHighlightLine | windowTypeChanged => cases h
      | _ => rfl
  | request source lines =>
    obtain ⟨deferred, same⟩ := d.after_request source lines
    rw [same]
  | awaited | givenUp => rfl
  | reordered order =>
    obtain ⟨tracers, -, same⟩ := d.after_reordered order
    rw [same]

/-- A window that is described has its text noted; no other news says anything of texts. -/
theorem texts_after (i : Input) :
    (d.after i).texts =
      match i.news with
      | .opened w | .updated w => d.texts.insert (d.sources.referenceFor w.source) w.text
      | .closed _ | .highlighted _ | .retyped _ | .nothing => d.texts := by
  cases i using Input.newsCases with
  | opening w => exact d.texts_openWindow w
  | updating w => exact d.texts_updateWindow w
  | closing r => exact d.texts_closeWindow r.win
  | highlighting h => exact d.texts_highlight h
  | retyping c =>
    have same : (if c.tracer then d.startTracing c.win else d.stopTracing c.win).texts =
        d.texts := by
      split
      · exact d.texts_startTracing c.win
      · exact d.texts_stopTracing c.win
    exact same
  | nothing i h => rw [d.texts_of_nothing h, h]

/-- A window that is described is bound to its source, and one that closes to none. -/
theorem sources_eq_after (i : Input) :
    (d.after i).sources =
      match i.news with
      | .opened w | .updated w => (d.sources.bind w.token w.source).2
      | .closed window => d.sources.unbind window
      | .highlighted _ | .retyped _ | .nothing => d.sources := by
  cases i using Input.newsCases with
  | opening w => exact d.sources_openWindow w
  | updating w => rfl
  | closing r => exact d.sources_closeWindow r.win
  | highlighting h => exact (sameSources_highlight d h).sources
  | retyping c =>
    have same : (if c.tracer then d.startTracing c.win else d.stopTracing c.win).sources =
        d.sources := by
      split
      · exact (sameSources_startTracing d c.win).sources
      · exact (sameSources_stopTracing d c.win).sources
    exact same
  | nothing i h => rw [(d.after_of_nothing h).sources, h]

end after

/-! ## The desktop agrees with the last description -/

/-- A window that shows something shows the source and the text of its last description. -/
def ShowsDescribed (d : Desktop) (history : List Input) : Prop :=
  ∀ window reference, d.sources.shownBy? window = some reference →
    ∃ w, described window history = some w ∧
      d.sources.path? reference = some w.source ∧ d.texts.get? reference = some w.text

/-- A window that is described comes to show its source, and all others keep what they show unless
it is taken from them. -/
theorem ShowsDescribed.bind {d d' : Desktop} {history history' : List Input} {w : Command.Window}
    (h : ShowsDescribed d history) (coherent : d.sources.Coherent)
    (sources : d'.sources = (d.sources.bind w.token w.source).2)
    (texts : d'.texts = d.texts.insert (d.sources.referenceFor w.source) w.text)
    (last : ∀ window, described window history' =
      if w.token = window then some w else described window history) :
    ShowsDescribed d' history' := by
  intro window reference shows
  rw [sources] at shows
  rw [sources, texts, last, Table.get?_insert]
  rcases coherent.shownBy?_bind_eq_some_iff.mp shows with ⟨rfl, rfl⟩ | ⟨apart, unlike, old⟩
  · exact ⟨w, if_pos rfl, coherent.path?_bind_self _ _, if_pos rfl⟩
  · obtain ⟨v, seen, known, text⟩ := h window reference old
    refine ⟨v, ?_, coherent.path?_bind_of_path? known _ _, ?_⟩
    · rw [if_neg apart, seen]
    · rw [if_neg unlike, text]

theorem showsDescribed_ofHistory (history : List Input) :
    ShowsDescribed (ofHistory history) history := by
  induction history with
  | nil => exact fun _ _ shows => nomatch shows
  | cons i earlier ih =>
    have sources := (ofHistory earlier).sources_eq_after i
    have texts := (ofHistory earlier).texts_after i
    cases news : i.news with
    | opened w | updated w =>
      rw [news] at sources texts
      exact ih.bind (coherent_ofHistory earlier) sources texts fun window => by rw [described, news]
    | closed gone =>
      rw [news] at sources texts
      intro window reference shows
      rw [ofHistory, sources, Sources.shownBy?_unbind] at shows
      rw [ofHistory, sources, Sources.path?_unbind, texts, described, news]
      split at shows
      case isTrue => cases shows
      case isFalse => exact ih window reference shows
    | highlighted _ | retyped _ | nothing =>
      rw [news] at sources texts
      intro window reference shows
      rw [ofHistory, sources] at shows
      rw [ofHistory, sources, texts, described, news]
      exact ih window reference shows

/-! ## From the frame back to the window -/

section frame
variable {d : Desktop} {source : Source} {window : Int64} {reference : Int} {path : String}

/-- Lines requested by one of the two names of what a window shows are set in the window. -/
theorem leadsTo_of_shown (coherent : d.sources.Coherent)
    (shows : d.sources.shownBy? window = some reference)
    (known : d.sources.path? reference = some path) {name : SourceName}
    (named : SourceName.ofSource? source = some name) (names : name.Names path reference)
    (lines : List Int64) : ∃ plan, LeadsTo d source window lines plan := by
  have shown : d.sources.windowNamed? name = some window := by
    rw [coherent.windowNamed?_eq (coherent.fits_of_path? known) names, coherent.inverse.mp shows]
  refine ⟨_, d.planBreakpoints_shown named shown lines, rfl, ?_, ?_⟩
  · rw [List.map_map]
    exact List.map_id lines
  · intro b mem
    obtain ⟨line, -, rfl⟩ := List.mem_map.mp mem
    rw [Host.Breakpoint.isVerified, breakpoint]
    by_cases low : line < 1
    · simp [low]
    · simpa [low] using Int64.not_lt.mp low

/-- The frames that are listed belong to tracers. -/
theorem exists_tracer_of_frames {thread : Option Int64} {frames : List Frame} {f : Frame}
    (listed : d.frames thread = .ok frames) (mem : f ∈ frames) :
    ∃ t : Tracer, f.id = t.window ∧ f.source = d.frameSource t := by
  obtain ⟨known, listed⟩ : ∃ known, d.frames (some known) = .ok frames := by
    cases thread with
    | some known => exact ⟨known, listed⟩
    | none =>
      cases active : d.activeThread with
      | none => simp [Desktop.frames, active] at listed
      | some known => exact ⟨known, by simpa [Desktop.frames, active] using listed⟩
  rw [frames_eq_ok listed] at mem
  obtain ⟨depth, bound, rfl⟩ := List.mem_mapIdx.mp mem
  exact ⟨_, rfl, rfl⟩

/-- The source of a tracer is what its window shows, named by its path, or if that is the tracer's
own name, by its reference. -/
theorem frameSource_eq_some (t : Tracer) (h : d.frameSource t = some source) :
    ∃ reference path,
      d.sources.shownBy? t.window = some reference ∧ d.sources.path? reference = some path ∧
      source = if path = t.name then ⟨some t.name, none, some (Int64.ofInt reference)⟩
        else ⟨some t.name, some path, none⟩ := by
  obtain ⟨reference, shown, h⟩ := Option.bind_eq_some_iff.mp h
  obtain ⟨path, known, h⟩ := Option.bind_eq_some_iff.mp h
  exact ⟨reference, path, shown, known, (Option.some.inj h).symm⟩

/-- As long as there are few enough paths, a reference that has one fits sixty-four bits. -/
theorem toInt_ofInt_of_path? (coherent : d.sources.Coherent)
    (known : d.sources.path? reference = some path)
    (few : d.sources.paths.length < 0x8000000000000000) :
    (Int64.ofInt reference).toInt = reference := by
  have bounds := coherent.le_length known
  rw [Int64.toInt_ofInt_of_le] <;> omega

end frame

/-- Behind every history, the source of a frame leads back to the frame's window: lines requested
for it are set there. A reference in it is that of the text with which the interpreter last
described the window. References are told to the host in sixty-four bits, and where the source has
one, these must suffice. -/
theorem frame_sources_lead_back {history : List Input} {thread : Option Int64}
    {frames : List Frame} (listed : (ofHistory history).frames thread = .ok frames) {f : Frame}
    (mem : f ∈ frames) {source : Source} (named : f.source = some source)
    (few : source.reference.isSome →
      (ofHistory history).sources.paths.length < 0x8000000000000000) :
    (∀ lines, ∃ plan, LeadsTo (ofHistory history) source f.id lines plan) ∧
    ∀ reference, source.reference = some reference → ∃ w, described f.id history = some w ∧
      (ofHistory history).sourceText reference.toInt = .ok ("\n".intercalate w.text) := by
  obtain ⟨t, id, same⟩ := exists_tracer_of_frames listed mem
  obtain ⟨reference, path, shows, known, rfl⟩ := frameSource_eq_some t (same.symm.trans named)
  have coherent := coherent_ofHistory history
  rw [← id] at shows
  by_cases own : path = t.name
  case pos =>
    rw [if_pos own] at few ⊢
    have same := toInt_ofInt_of_path? coherent known (few rfl)
    have positive : 0 < Int64.ofInt reference := by
      rw [Int64.lt_iff_toInt_lt, same]
      exact (coherent.bounds known).1
    have name : SourceName.ofSource? ⟨some t.name, none, some (Int64.ofInt reference)⟩ =
        some (.reference reference) := by
      simp only [SourceName.ofSource?, if_pos positive, same]
    refine ⟨leadsTo_of_shown coherent shows known name (.inr rfl), ?_⟩
    rintro _ ⟨⟩
    obtain ⟨w, last, -, text⟩ := showsDescribed_ofHistory history f.id reference shows
    exact ⟨w, last, by rw [sourceText, same, text]⟩
  case neg =>
    rw [if_neg own]
    refine ⟨leadsTo_of_shown coherent shows known rfl (.inl rfl), ?_⟩
    rintro _ ⟨⟩

/-- Window seven comes to trace a function that window eight was opened on before. -/
def tracedTwice : List Input :=
  [.opening { showing 7 "" with text := ["f", "2"], debugger := true },
    .opening { showing 8 "" with text := ["f", "1"], debugger := true }]

/-- Of the two windows on one function only the one described last has a frame with a source, and
its reference is that of the last text. -/
theorem traced_twice_leads_to_seven :
    let source : Source := ⟨some "f", none, some 1⟩
    (ofHistory tracedTwice).frames none =
      .ok [⟨7, "f", some source, 1, 1⟩, ⟨8, "f", none, 1, 1⟩] ∧
    (ofHistory tracedTwice).sources.paths.length < 0x8000000000000000 ∧
    (∃ plan, LeadsTo (ofHistory tracedTwice) source 7 [2, 0] plan) ∧
    (ofHistory tracedTwice).sourceText 1 = .ok "f\n2" := by
  intro source
  have listed : (ofHistory tracedTwice).frames none =
    .ok [⟨7, "f", some source, 1, 1⟩, ⟨8, "f", none, 1, 1⟩] := by cbv
  have few : (ofHistory tracedTwice).sources.paths.length < 0x8000000000000000 := by decide
  obtain ⟨leads, text⟩ := frame_sources_lead_back listed List.mem_cons_self rfl fun _ => few
  obtain ⟨w, last, same⟩ := text 1 rfl
  cases last
  exact ⟨listed, few, leads [2, 0], same⟩

end DebugBridge.Desktop
