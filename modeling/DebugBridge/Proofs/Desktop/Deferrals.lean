import DebugBridge.Proofs.Desktop.History

/-!
# Lines that wait for a source

Lines requested for a source that no window shows wait until a window opens on it, whether they
were requested by its path or by its reference, and whatever else happens in between. Only the
latest request counts, and it counts once. A reference may be requested before any source has it;
what counts is the reference that the source has when a window opens on it.
-/

namespace DebugBridge

open Host (Source)

namespace Sources
variable {s : Sources} {path : String} {reference : Int}

/-- Both names of a source lead to the window that shows it. -/
theorem Coherent.windowNamed?_eq (h : s.Coherent) (fits : s.Fits path reference)
    {name : SourceName} (names : name.Names path reference) :
    s.windowNamed? name = s.windowOf? reference := by
  rcases names with rfl | rfl
  case inr => rfl
  case inl =>
    cases known : s.reference? path with
    | some r =>
      rw [windowNamed?, windowOfPath?, known, Option.bind_some,
        (fits r path (h.referenced.mp known)).mpr rfl]
    | none =>
      rw [windowNamed?, windowOfPath?, known, Option.bind_none]
      cases shown : s.windowOf? reference with
      | none => rfl
      | some window =>
        obtain ⟨other, here⟩ := h.known (h.inverse.mpr shown)
        cases (fits reference other here).mp rfl
        rw [h.referenced.mpr here] at known
        cases known

/-- A name that leads to a window is one of the two of the source in it. -/
theorem Coherent.of_windowNamed? (h : s.Coherent) {name : SourceName} {window : Int64}
    (shown : s.windowNamed? name = some window) :
    ∃ path reference, name.Names path reference ∧ s.shownBy? window = some reference ∧
      s.path? reference = some path := by
  cases name with
  | path path =>
    obtain ⟨reference, known, here⟩ := Option.bind_eq_some_iff.mp shown
    exact ⟨path, reference, .inl rfl, h.inverse.mpr here, h.referenced.mp known⟩
  | reference reference =>
    have shows := h.inverse.mpr shown
    obtain ⟨path, known⟩ := h.known shows
    exact ⟨path, reference, .inr rfl, shows, known⟩

end Sources

namespace Desktop

/-- Whether an input opens a window on the source with a path. -/
def Input.opens (path : String) (i : Input) : Bool :=
  match i.news with
  | .opened w => w.source = path
  | .updated _ | .closed _ | .highlighted _ | .retyped _ | .nothing => false

/-- The lines to be set that an input requests for a source, by its path or its reference. -/
def Input.requested? (path : String) (reference : Int) : Input → Option (List Int64)
  | request source lines =>
    match SourceName.ofSource? source with
    | some name => if name.Names path reference then some (validLines lines) else none
    | none => none
  | message _ | awaited | givenUp | reordered _ => none

/-- The lines that were last requested for a source while no window showed it, if no window was
opened on it since. -/
def awaited (path : String) (reference : Int) : List Input → Option (List Int64)
  | [] => none
  | i :: earlier =>
    if i.opens path then none
    else if (ofHistory earlier).sources.windowOf? reference = none then
      (i.requested? path reference).or (awaited path reference earlier)
    else awaited path reference earlier

@[simp] theorem Input.opens_opening (path : String) (w : Command.Window) :
    (Input.opening w).opens path = decide (w.source = path) := rfl

/-- An input that neither opens a window on a source nor requests lines for it leaves what waits
for it. -/
theorem awaited_of_neither {path : String} {reference : Int} {i : Input} {earlier : List Input}
    (opens : i.opens path = false) (requested : i.requested? path reference = none) :
    awaited path reference (i :: earlier) = awaited path reference earlier := by
  simp [awaited, opens, requested]

/-! ## Sources and waiting lines behind an input -/

/-- Nothing changes about sources and the lines that wait for them. -/
structure SameSources (before after : Desktop) : Prop where
  sources : after.sources = before.sources
  deferred : after.deferred = before.deferred

section after
variable (d : Desktop) (w : Command.Window)

theorem sources_openWindow :
    (d.openWindow w).1.sources = (d.sources.bind w.token w.source).2 := by
  rw [(d.windows_openWindow w).sources, appear]
  split <;> rfl

theorem sameSources_reselect (gone : Int64) : SameSources d (d.reselect gone) := by
  unfold reselect
  split <;> exact ⟨rfl, rfl⟩

theorem sources_closeWindow (window : Int64) :
    (d.closeWindow window).sources = d.sources.unbind window :=
  (sameSources_reselect _ window).sources

theorem deferred_closeWindow (window : Int64) : (d.closeWindow window).deferred = d.deferred :=
  (sameSources_reselect _ window).deferred

theorem sameSources_highlight (h : Command.SetHighlightLine) :
    SameSources d (d.highlight h).1 := by
  unfold highlight
  split <;> exact ⟨rfl, rfl⟩

theorem sameSources_startTracing (window : Int64) : SameSources d (d.startTracing window) := by
  unfold startTracing
  split <;> exact ⟨rfl, rfl⟩

theorem sameSources_stopTracing (window : Int64) : SameSources d (d.stopTracing window) := by
  unfold stopTracing
  split
  · exact ⟨rfl, rfl⟩
  · have same := sameSources_reselect (d.dropTracer window) window
    exact ⟨same.sources, same.deferred⟩

/-- A request for a source that is shown leaves no lines behind. -/
theorem deferred_request (source : Source) (lines : List Int64) :
    (d.after (.request source lines)).deferred =
      match SourceName.ofSource? source with
      | some name =>
        if d.sources.windowNamed? name = none then d.deferred.defer name (validLines lines)
        else d.deferred
      | none => d.deferred := by
  cases named : SourceName.ofSource? source with
  | none =>
    obtain ⟨f, failed⟩ := d.planBreakpoints_unnamed named lines
    simp only [Desktop.after, failed]
  | some name =>
    cases shown : d.sources.windowNamed? name with
    | none => simp [Desktop.after, d.planBreakpoints_unshown named shown, shown]
    | some window => simp [Desktop.after, d.planBreakpoints_shown named shown, shown]

end after

/-- Windows that open, change or close and requests are all that can matter for sources and the
lines that wait for them. -/
@[elab_as_elim]
theorem Input.sourceCases {motive : Input → Prop} (opening : ∀ w, motive (.opening w))
    (updating : ∀ w, motive (.updating w)) (closing : ∀ r, motive (.closing r))
    (request : ∀ source lines, motive (.request source lines))
    (other : ∀ i : Input, (∀ d : Desktop, SameSources d (d.after i)) →
      (∀ path, i.opens path = false) → (∀ path reference, i.requested? path reference = none) →
      motive i) (i : Input) : motive i := by
  cases i with
  | message m =>
    cases m with
    | raw => exact other _ (fun _ => ⟨rfl, rfl⟩) (fun _ => rfl) fun _ _ => rfl
    | command c =>
      cases c with
      | openWindow w => exact opening w
      | updateWindow w => exact updating w
      | closeWindow r => exact closing r
      | setHighlightLine h =>
        exact other _ (sameSources_highlight · h) (fun _ => rfl) fun _ _ => rfl
      | windowTypeChanged c =>
        refine other _ (fun d => ?_) (fun _ => rfl) fun _ _ => rfl
        have same : SameSources d
            (if c.tracer then d.startTracing c.win else d.stopTracing c.win) := by
          split
          · exact sameSources_startTracing d c.win
          · exact sameSources_stopTracing d c.win
        exact same
      | _ => exact other _ (fun _ => ⟨rfl, rfl⟩) (fun _ => rfl) fun _ _ => rfl
  | request source lines => exact request source lines
  | awaited | givenUp => exact other _ (fun _ => ⟨rfl, rfl⟩) (fun _ => rfl) fun _ _ => rfl
  | reordered order =>
    refine other _ (fun d => ?_) (fun _ => rfl) fun _ _ => rfl
    obtain ⟨tracers, -, same⟩ := d.after_reordered order
    exact same ▸ ⟨rfl, rfl⟩

/-- What binding and unbinding a window keep, every input keeps. -/
theorem sources_after {P : Sources → Prop} (bind : ∀ s window path, P s → P (s.bind window path).2)
    (unbind : ∀ s window, P s → P (s.unbind window)) (d : Desktop) (i : Input)
    (h : P d.sources) : P (d.after i).sources := by
  cases i using Input.sourceCases with
  | opening w => exact (d.sources_openWindow w).symm ▸ bind _ _ _ h
  | updating w => exact bind _ _ _ h
  | closing r => exact (d.sources_closeWindow r.win).symm ▸ unbind _ _ h
  | request source lines =>
    obtain ⟨deferred, same⟩ := d.after_request source lines
    exact same.symm ▸ h
  | other i same => exact (same d).sources.symm ▸ h

theorem coherent_ofHistory (history : List Input) : (ofHistory history).sources.Coherent := by
  induction history with
  | nil => exact Sources.coherent_empty
  | cons i earlier ih =>
    exact sources_after (fun _ window path h => h.bind window path)
      (fun _ window h => h.unbind window) _ i ih

/-- A reference keeps its path. -/
theorem path?_after {reference : Int} {path : String} {d : Desktop}
    (coherent : d.sources.Coherent) (i : Input) (h : d.sources.path? reference = some path) :
    (d.after i).sources.path? reference = some path := by
  cases i using Input.sourceCases with
  | opening w =>
    rw [after, hear]
    exact (d.sources_openWindow w).symm ▸ coherent.path?_bind_of_path? h w.token w.source
  | updating w => exact coherent.path?_bind_of_path? h w.token w.source
  | closing r => exact (d.sources_closeWindow r.win).symm ▸ (d.sources.path?_unbind _ _).trans h
  | request source lines =>
    obtain ⟨deferred, same⟩ := d.after_request source lines
    rw [same]
    exact h
  | other i same =>
    rw [(same d).sources]
    exact h

section waiting
variable {path : String} {reference : Int} {history : List Input}

theorem fits_before {d : Desktop} (coherent : d.sources.Coherent) (i : Input)
    (h : (d.after i).sources.Fits path reference) : d.sources.Fits path reference :=
  fun number other known => h number other (path?_after coherent i known)

/-- A request counts for a source if it names the source and no window shows it. -/
theorem newest?_request {d : Desktop} (coherent : d.sources.Coherent)
    (fits : d.sources.Fits path reference) (source : Source) (lines : List Int64) :
    (d.after (.request source lines)).deferred.newest? path reference =
      if d.sources.windowOf? reference = none then
        ((Input.request source lines).requested? path reference).or
          (d.deferred.newest? path reference)
      else d.deferred.newest? path reference := by
  rw [deferred_request, Input.requested?]
  cases named : SourceName.ofSource? source with
  | none => simp
  | some name =>
    dsimp only
    by_cases here : name.Names path reference
    · rw [← coherent.windowNamed?_eq fits here, if_pos here]
      by_cases unshown : d.sources.windowNamed? name = none
      · rw [if_pos unshown, if_pos unshown, Deferred.newest?_defer, if_pos here, Option.some_or]
      · rw [if_neg unshown, if_neg unshown]
    · rw [if_neg here, Option.none_or, ite_self]
      by_cases unshown : d.sources.windowNamed? name = none
      · rw [if_pos unshown, Deferred.newest?_defer, if_neg here]
      · rw [if_neg unshown]

theorem fits_append (later : List Input)
    (h : (ofHistory (later ++ history)).sources.Fits path reference) :
    (ofHistory history).sources.Fits path reference := by
  induction later with
  | nil => exact h
  | cons i later ih => exact ih (fits_before (coherent_ofHistory _) i h)

theorem path?_append (later : List Input)
    (h : (ofHistory history).sources.path? reference = some path) :
    (ofHistory (later ++ history)).sources.path? reference = some path := by
  induction later with
  | nil => exact h
  | cons i later ih => exact path?_after (coherent_ofHistory _) i ih

theorem sources_opening (history : List Input) (w : Command.Window) :
    (ofHistory (.opening w :: history)).sources =
      ((ofHistory history).sources.bind w.token w.source).2 :=
  sources_openWindow _ w

/-- The source of an opened window has the reference that it had before or was to get. -/
theorem path?_opening (history : List Input) (w : Command.Window) :
    (ofHistory (.opening w :: history)).sources.path?
      ((ofHistory history).sources.referenceFor w.source) = some w.source := by
  rw [sources_opening]
  exact (coherent_ofHistory history).path?_bind_self w.token w.source

/-- What waits for a source is what the history tells of. -/
theorem newest?_ofHistory (fits : (ofHistory history).sources.Fits path reference) :
    (ofHistory history).deferred.newest? path reference = awaited path reference history := by
  induction history with
  | nil => rfl
  | cons i earlier ih =>
    have fitted := fits_before (coherent_ofHistory earlier) i fits
    specialize ih fitted
    cases i using Input.sourceCases with
    | opening w =>
      -- since they fit, the reference that is settled is this one exactly if the path is
      have here := fits ((ofHistory earlier).sources.referenceFor w.source) w.source
        (path?_opening earlier w)
      have settled : (ofHistory (.opening w :: earlier)).deferred =
          (ofHistory earlier).deferred.settle w.source
            ((ofHistory earlier).sources.referenceFor w.source) := deferred_openWindow _ w
      have unasked : (Input.opening w).requested? path reference = none := rfl
      rw [settled, awaited, Input.opens_opening, unasked, Option.none_or, ite_self]
      by_cases same : w.source = path
      · rw [here.mpr same, same, Deferred.newest?_settle_self]
        simp
      · rw [Deferred.newest?_settle_of_ne _ _ _ _ _ (Ne.symm same) (mt here.mp same ∘ Eq.symm), ih]
        simp [same]
    | updating w => exact ih.trans (awaited_of_neither rfl rfl).symm
    | closing r =>
      refine Eq.trans ?_ (awaited_of_neither rfl rfl).symm
      rw [← ih]
      exact congrArg (·.newest? path reference) (deferred_closeWindow _ r.win)
    | request source lines =>
      have opens : (Input.request source lines).opens path = false := rfl
      rw [ofHistory, newest?_request (coherent_ofHistory earlier) fitted, ih, awaited,
        opens]
      rfl
    | other i same opens requests =>
      rw [ofHistory, (same _).deferred, ih,
        awaited_of_neither (opens path) (requests path reference)]

/-- Inputs that neither open a window on a source nor request lines for it leave what waits. -/
theorem awaited_append {later : List Input}
    (quiet : ∀ i ∈ later, i.opens path = false ∧ i.requested? path reference = none) :
    awaited path reference (later ++ history) = awaited path reference history := by
  induction later with
  | nil => rfl
  | cons i later ih =>
    rw [List.forall_mem_cons] at quiet
    rw [List.cons_append, awaited_of_neither quiet.1.1 quiet.1.2, ih quiet.2]

/-- Where nothing waits, nothing does until lines are requested. -/
theorem awaited_append_eq_none {again : List Input}
    (unasked : ∀ i ∈ again, i.requested? path reference = none)
    (none : awaited path reference history = none) :
    awaited path reference (again ++ history) = .none := by
  induction again with
  | nil => exact none
  | cons i again ih =>
    rw [List.forall_mem_cons] at unasked
    simp [awaited, unasked.1, ih unasked.2]

/-- What is sent when a window opens: stops are set if lines wait for its source. -/
theorem commands_opening (o : Command.Window) :
    (ofHistory history).commands (.opening o) =
      (if o.debugger then [.getStack] else []) ++
        ((awaited o.source ((ofHistory history).sources.referenceFor o.source) history).map
          (.stopsAt o.token)).toList := by
  have appeared : ((ofHistory history).appear o).2.commands =
      if o.debugger then [.getStack] else [] := by
    unfold appear
    split <;> rfl
  have fits := (coherent_ofHistory history).fits o.source
  rw [← newest?_ofHistory fits, ← appeared]
  exact commands_openWindow _ o

end waiting

/-! ## A request that waits -/

/-- The command that sets stops at those lines that there can be. Its lines count from zero. -/
def settingStops (window : Int64) (lines : List Int64) : Command :=
  .setLineAttributes ⟨window, (lines.filter (1 ≤ ·)).map (· - 1), none, none⟩

/-- The lines of a request are left to wait: no window is told, the interpreter is to say which
windows are open, and the host is told for each line that it is not set. -/
structure Defers (lines : List Int64) (plan : BreakpointPlan) : Prop where
  no_command : plan.command = none
  resync : plan.resync = true
  each_line : plan.breakpoints.map Host.Breakpoint.line = lines
  unverified : ∀ b ∈ plan.breakpoints, b.isVerified = false

theorem defers_of_unshown (source : Source) (lines : List Int64) :
    Defers lines ⟨none, true, lines.map (breakpoint source false)⟩ where
  no_command := rfl
  resync := rfl
  each_line := by
    rw [List.map_map]
    exact List.map_id lines
  unverified := by
    intro b mem
    obtain ⟨line, -, rfl⟩ := List.mem_map.mp mem
    by_cases positive : line < 1 <;> simp [breakpoint, Host.Breakpoint.isVerified, positive]

/-- Lines requested for a source that no window shows are set in the window that opens on it next,
and only there. They are the same lines that would have been set at once in a window that showed
the source. -/
theorem deferred_lines_set_once {history : List Input} {source : Source} {name : SourceName}
    (lines : List Int64) (named : SourceName.ofSource? source = some name)
    (unshown : (ofHistory history).sources.windowNamed? name = none) :
    let asked := .request source lines :: history
    (∃ plan, (ofHistory history).planBreakpoints source lines = .ok (plan, ofHistory asked) ∧
      Defers lines plan) ∧
    (∀ later (o : Command.Window),
      let reference := (ofHistory (later ++ asked)).sources.referenceFor o.source
      name.Names o.source reference →
      (∀ i ∈ later, i.opens o.source = false ∧ i.requested? o.source reference = none) →
      (ofHistory (later ++ asked)).commands (.opening o) =
        (if o.debugger then [.getStack] else []) ++ [settingStops o.token lines] ∧
      ∀ again (o' : Command.Window), o'.source = o.source →
        (∀ i ∈ again, i.requested? o.source reference = none) →
        (ofHistory (again ++ .opening o :: (later ++ asked))).commands (.opening o') =
          if o'.debugger then [.getStack] else []) ∧
    ∀ (d : Desktop) window, d.sources.windowNamed? name = some window →
      d.commands (.request source lines) = [settingStops window lines] := by
  intro asked
  refine ⟨?deferred, ?once, ?direct⟩
  case deferred =>
    refine ⟨_, ?_, defers_of_unshown source lines⟩
    rw [ofHistory, after]
    simp only [planBreakpoints_unshown _ named unshown]
  case direct =>
    intro d window shown
    simp only [commands, planBreakpoints_shown _ named shown]
    rfl
  case once =>
    intro later o reference names quiet
    have fits := (coherent_ofHistory (later ++ asked)).fits o.source
    have fitted : (ofHistory history).sources.Fits o.source reference := fits_append (later ++ [_])
      (by rwa [List.append_assoc, List.singleton_append])
    have free := (coherent_ofHistory history).windowNamed?_eq fitted names ▸ unshown
    have waits : awaited o.source reference (later ++ asked) = some (validLines lines) := by
      rw [awaited_append quiet, awaited, if_pos free, Input.requested?, named]
      simp only [if_pos names, Option.some_or]
      rfl
    refine ⟨by rw [commands_opening, waits]; rfl, ?_⟩
    intro again o' same unasked
    have kept := path?_append again (path?_opening (later ++ asked) o)
    have here := (coherent_ofHistory _).eq_referenceFor kept
    have nothing : awaited o.source reference (.opening o :: (later ++ asked)) = none := by
      simp [awaited]
    rw [commands_opening, same, ← here, awaited_append_eq_none unasked nothing]
    simp

/-- A window on a file, with nothing but what tells which file it is. -/
def showing (token : Int64) (path : String) : Command.Window where
  token := token
  name := "f"
  fileName := path
  text := []
  currentRow := 0
  currentColumn := 0
  debugger := false
  entityType := 1
  offset := 0
  readOnly := false
  stop := []
  trace := []
  monitor := []
  tid := none
  tname := ""

/-- Of the lines three, zero and five, three and five are set when the file opens, not before, and
not when it opens again. -/
theorem three_and_five_set_once :
    let source : Source := ⟨none, some "/f.aplf", none⟩
    let asked := [Input.request source [3, 0, 5]]
    SourceName.ofSource? source = some (.path "/f.aplf") ∧
    (ofHistory []).sources.windowNamed? (.path "/f.aplf") = none ∧
    (ofHistory asked).commands (.opening (showing 7 "/f.aplf")) = [settingStops 7 [3, 0, 5]] ∧
    (ofHistory (.opening (showing 7 "/f.aplf") :: asked)).commands
      (.opening (showing 8 "/f.aplf")) = [] := by
  intro source asked
  have once := (@deferred_lines_set_once [] source _ [3, 0, 5] rfl rfl).2.1 []
    (showing 7 "/f.aplf") (.inl rfl) (by simp)
  exact ⟨rfl, rfl, once.1, once.2 [] (showing 8 "/f.aplf") rfl (by simp)⟩

end Desktop
end DebugBridge
