import DebugBridge.Proofs.Adapter.Lifetime

/-!
# Requests that fail

A request that does not fit the state of the session, or speaks of what the desktop does not know,
is refused and leaves no trace. Any other failing request has sent something, or tried to. Unless
it was told something by the interpreter meanwhile, it leaves the session and the desktop as they
were, or the stream of the link ended while it waited, and then the session has ended with it.
-/

namespace DebugBridge

open Host (Request RequestMessage)

/-- The desktop has what a request speaks of: a window to step in, suspended functions of the
thread, a name for the source, the frame, or the text. -/
def Desktop.Knows (d : Desktop) : Request → Prop
  | .continue | .next | .stepIn | .stepOut => d.activeWindow.isSome
  | .stackTrace thread => ∃ t ∈ d.tracers, thread.or d.activeThread = some t.thread
  | .setBreakpoints source _ => (SourceName.ofSource? source).isSome
  | .scopes frame | .variablesOf frame => (d.tracer? frame).isSome
  | .source reference => (d.texts.get? reference.toInt).isSome
  | .setUp | .launch _ | .attach _ | .configurationDone | .disconnect | .terminate | .pause
  | .threads | .evaluate _ => True

/-- The line of code whose result the answer to a request depends on. -/
def Host.Request.code? : Request → Option String
  | .evaluate expression => some expression
  | .variablesOf _ => some Adapter.listing
  | _ => none

/-- The stream that a wire reads from is found to have ended, or fails. -/
def Wire.Ends (w : Wire) : Prop := (w.poll true).1 = .ok .closed ∨ ∃ f, (w.poll true).1 = .error f

/-- One of the things that happen on a wire is the end of its stream. The wire is read after each,
and no frame comes before the end. -/
def Wire.BreaksOff : Wire → List Happening → Prop
  | _, [] => False
  | w, h :: rest =>
    (w.after h).Ends ∨
      ((w.after h).poll true).1 = .ok .timeout ∧ ((w.after h).poll true).2.BreaksOff rest

theorem Wire.not_ends_of_timeout {w : Wire} (idle : (w.poll true).1 = .ok .timeout) :
    ¬ w.Ends := by
  rintro (closed | ⟨f, fails⟩)
  · cases idle.symm.trans closed
  · cases idle.symm.trans fails

theorem Quiet.IsFresh.giveUp_start {q : Quiet} (h : q.IsFresh) : q.start.giveUp = q := by
  by_cases idle : q.pending = 0
  · rw [h idle]
    rfl
  · simp [start, giveUp, idle]

namespace Adapter

/-- A message asks for something that the session and the desktop allow. -/
def Admits (a : Adapter) (m : RequestMessage) : Prop :=
  ∃ r, Request.ofMessage m = .ok r ∧ r.fits a.lifecycle ∧ a.desktop.Knows r

/-! ## Refusals -/

theorem frames_of_unsuspended {d : Desktop} {thread : Option Int64}
    (unsuspended : ¬ ∃ t ∈ d.tracers, thread.or d.activeThread = some t.thread) :
    ∃ f, d.frames thread = .error f := by
  unfold Desktop.frames
  split
  case h_1 => exact ⟨_, rfl⟩
  case h_2 id asked =>
    have none : (d.suspended id).isEmpty := by
      rw [List.isEmpty_iff, List.eq_nil_iff_forall_not_mem]
      intro t mem
      obtain ⟨inside, same⟩ := List.mem_filter.mp (List.mem_mergeSort.mp mem)
      exact unsuspended ⟨t, inside, by rw [asked, of_decide_eq_true same]⟩
    exact ⟨_, if_pos none⟩

/-- A request that speaks of what the desktop does not know is refused, and nothing else is done. -/
theorem handle_of_unknown {a : Adapter} {r : Request} (fits : r.fits a.lifecycle)
    (unknown : ¬ a.desktop.Knows r) : ∃ f, a.handle r = (.error f, a) := by
  cases r with
  | «continue» | next | stepIn | stepOut =>
    have inactive : a.desktop.activeWindow = none := Option.not_isSome_iff_eq_none.mp unknown
    rw [handle, step, inactive]
    split
    case h_1 | h_2 => exact ⟨_, rfl⟩
    case h_3 active => cases active
  | stackTrace thread =>
    have running : a.lifecycle.isRunning := fits
    obtain ⟨f, refused⟩ := frames_of_unsuspended unknown
    exact ⟨f, by rw [handle, stackTrace, if_pos running, refused]; rfl⟩
  | setBreakpoints source lines =>
    have due : a.lifecycle = .initialized ∨ a.lifecycle.isRunning := of_decide_eq_true fits
    obtain ⟨f, refused⟩ :=
      a.desktop.planBreakpoints_unnamed (Option.not_isSome_iff_eq_none.mp unknown) lines
    exact ⟨f, by rw [handle, setBreakpoints, if_pos due, refused]; rfl⟩
  | scopes frame =>
    have running : a.lifecycle.isRunning := fits
    have untraced : a.desktop.tracer? frame = none := Option.not_isSome_iff_eq_none.mp unknown
    exact ⟨_, by rw [handle, scopes, if_pos running, untraced]; rfl⟩
  | variablesOf reference =>
    have running : a.lifecycle.isRunning := fits
    have untraced : a.desktop.tracer? reference = none := Option.not_isSome_iff_eq_none.mp unknown
    exact ⟨_, by rw [handle, variablesOf, running, untraced]; rfl⟩
  | source reference =>
    have alive : a.lifecycle ≠ .terminated := of_decide_eq_true fits
    have untold : a.desktop.texts.get? reference.toInt = none :=
      Option.not_isSome_iff_eq_none.mp unknown
    exact ⟨_, by rw [handle, source, if_neg alive, Desktop.sourceText, untold]; rfl⟩
  | _ => exact absurd trivial unknown

theorem answer_of_not_admits {a : Adapter} {m : RequestMessage} (refused : ¬ a.Admits m) :
    ∃ f, a.answer m = (.error f, a) := by
  unfold answer
  split
  case h_1 f _ => exact ⟨f, rfl⟩
  case h_2 r asked =>
    cases fits : r.fits a.lifecycle with
    | false => exact handle_of_unfit fits
    | true => exact handle_of_unknown fits fun known => refused ⟨r, asked, fits, known⟩

/-! ## Failures at the link -/

/-- A message comes in over the link of the session. -/
def Hears (a b : Adapter) : Prop :=
  a.link.isSome ∧
    ∃ p ∈ b.journal.traffic.drop a.journal.traffic.length, p.direction = .inbound

/-- The session ends with its link. What is known of the interpreter stays. -/
structure Loses (a b : Adapter) : Prop where
  running : a.lifecycle.isRunning
  lifecycle : b.lifecycle = .terminated
  link : b.link = none
  desktop : b.desktop = a.desktop
  events : b.journal.events = a.journal.events ++
    [.output .stderr "lost connection to interpreter\n", .terminated]

/-- A line of code is sent over a link, and the stream of the link breaks off while the result is
awaited. -/
def CutsOff (a : Adapter) (l : Link) (code : String) : Prop :=
  ∃ sent gate, l.gate.send (Evaluation.command code) = (.ok sent, gate) ∧
    gate.wire.BreaksOff (a.forthcoming (sent = .written))

/-- The stream of the link ends while a message is answered. Only a line of code is waited for. -/
def LinkEnds (a : Adapter) (m : RequestMessage) : Prop :=
  ∃ r code l, Request.ofMessage m = .ok r ∧ r.fits a.lifecycle ∧ a.desktop.Knows r ∧
    r.code? = some code ∧ a.link = some l ∧ a.CutsOff l code

/-- The session goes on unless its link ends, and ends with it. -/
structure Spares (ends : Prop) (a b : Adapter) : Prop where
  loses : ends → Loses a b
  stays : ¬ ends → Stays a b

section relations
variable {a b c : Adapter}

theorem Hears.mono (h : Hears a b) (grows : b.journal.traffic <+: c.journal.traffic) :
    Hears a c := by
  obtain ⟨linked, p, mem, inbound⟩ := h
  obtain ⟨rest, same⟩ := grows
  refine ⟨linked, p, ?_, inbound⟩
  rw [← same, List.drop_append]
  exact List.mem_append_left _ mem

theorem Hears.later (h : Hears b c) (linked : a.link.isSome)
    (grows : a.journal.traffic <+: b.journal.traffic) : Hears a c := by
  obtain ⟨-, p, mem, inbound⟩ := h
  refine ⟨linked, p, ?_, inbound⟩
  have split := List.drop_drop (l := c.journal.traffic)
    (i := b.journal.traffic.length - a.journal.traffic.length) (j := a.journal.traffic.length)
  rw [Nat.add_sub_cancel' grows.length_le] at split
  rw [← split] at mem
  exact List.mem_of_mem_drop mem

theorem Stays.loses (h : Stays a b) (h' : Loses b c) : Loses a c :=
  ⟨h.lifecycle ▸ h'.running, h'.lifecycle, h'.link, h'.desktop.trans h.desktop,
    h.events ▸ h'.events⟩

theorem Stays.spares {ends : Prop} (h : Stays a b) (h' : Spares ends b c) : Spares ends a c :=
  ⟨fun ended => h.loses (h'.loses ended), fun going => h.trans (h'.stays going)⟩

theorem Spares.of_loses {ends : Prop} (ended : ends) (h : Loses a b) : Spares ends a b :=
  ⟨fun _ => h, fun going => absurd ended going⟩

theorem Spares.of_stays {ends : Prop} (going : ¬ ends) (h : Stays a b) : Spares ends a b :=
  ⟨fun ended => absurd ended going, fun _ => h⟩

/-- The quiet wait aside, an adapter that gives a line of code up is as it was before. -/
theorem Spares.giveUp {ends : Prop} (h : Spares ends (a.withQuiet Quiet.start) b)
    (fresh : a.desktop.quiet.IsFresh) : Spares ends a (b.withQuiet Quiet.giveUp) := by
  have desktop (same : b.desktop = (a.withQuiet Quiet.start).desktop) :
      (b.withQuiet Quiet.giveUp).desktop = a.desktop := by
    simp only [withQuiet, same, fresh.giveUp_start]
  refine ⟨fun ended => ?_, fun going => ?_⟩
  · have lost := h.loses ended
    exact ⟨lost.running, lost.lifecycle, lost.link, desktop lost.desktop, lost.events⟩
  · have stays := h.stays going
    exact ⟨stays.link, stays.lifecycle, desktop stays.desktop, stays.events⟩

end relations

theorem loses_lose {a : Adapter} (running : a.lifecycle.isRunning) : Loses a a.lose := by
  unfold lose
  rw [if_pos running]
  refine ⟨running, lifecycle_dropLink _, link_dropLink _, desktop_dropLink _, ?_⟩
  rw [journal_dropLink]
  simp [publish]

/-! ## Waiting for nothing -/

section waiting
variable {a : Adapter} {l : Link}

theorem hears_of_frame {payload : String} {wire : Wire} (linked : a.link = some l)
    (polled : l.gate.wire.poll true = (.ok (.frame payload), wire)) :
    Hears a ((a.putGate l { l.gate with wire }).hear { l with gate := { l.gate with wire } }
      (.ofPayload payload)) := by
  have crossed : wire.traffic = l.gate.wire.traffic ++ [⟨.inbound, payload⟩] := by
    unfold Wire.poll at polled
    obtain ⟨result, same⟩ := Prod.ext_iff.mp polled
    dsimp only at result same
    rw [← same, result]
  have read : Hears a (a.putGate l { l.gate with wire }) := by
    refine ⟨linked ▸ rfl, ⟨.inbound, payload⟩, ?_, rfl⟩
    simp [putGate, Journal.crossed, crossed]
  exact read.mono (KeepsLink.hear rfl _).journal.traffic

/-- The wire was read and is at its end, or has no frame yet. -/
inductive Unheard (a : Adapter) (l : Link) : Adapter → Prop
  | lose {b : Adapter} (ends : l.gate.wire.Ends) (loses : Loses a b) : Unheard a l b
  | wait {b : Adapter} (idle : (l.gate.wire.poll true).1 = .ok .timeout) (stays : Stays a b)
      (linked : b.link =
        some { l with gate := { l.gate with wire := (l.gate.wire.poll true).2 } }) :
      Unheard a l b

theorem unheard_takeIn (linked : a.link = some l) (running : a.lifecycle.isRunning)
    (unheard : ¬ Hears a a.takeIn.2) : a.takeIn.1 = [] ∧ Unheard a l a.takeIn.2 := by
  have lost (wire : Wire) : Loses a (a.putGate l { l.gate with wire }).lose :=
    (a.stays_putGate (linked ▸ rfl) l _).loses (loses_lose running)
  rw [takeIn, linked] at unheard ⊢
  dsimp only at unheard ⊢
  rw [takeFrames, linked] at unheard ⊢
  dsimp only at unheard ⊢
  cases polled : l.gate.wire.poll true with
  | mk result wire =>
    rw [polled] at unheard
    rcases result with f | payload | _ | _
    case error => exact ⟨rfl, .lose (.inr ⟨f, by rw [polled]⟩) (lost wire)⟩
    case ok.frame =>
      have heard := (hears_of_frame linked polled).mono
        (acts_takeFrames l.gate.wire.inlet.size _).works.keepsLink.journal.traffic
      exact absurd heard unheard
    case ok.closed => exact ⟨rfl, .lose (.inl (by rw [polled])) (lost wire)⟩
    case ok.timeout =>
      exact ⟨rfl, .wait (by rw [polled]) (a.stays_putGate (linked ▸ rfl) l _) (by rw [polled]; rfl)⟩

/-- What comes in first has come in when the wait is over. -/
theorem hears_await_of_happen {number : Nat} (e : Evaluation) {h : Happening}
    (hs : List Happening) (heard : Hears a (a.happen number h).2) :
    Hears a (await number e (h :: hs) a).2.2 := by
  unfold await
  dsimp only
  split
  case h_1 => exact heard
  case h_2 =>
    split
    case isTrue => exact heard
    case isFalse => exact heard.mono (acts_await number _ hs _).works.keepsLink.journal.traffic

theorem unheard_happen (linked : a.link = some l) (running : a.lifecycle.isRunning)
    (h : Happening) (unheard : ¬ Hears a (a.happen l.number h).2) :
    let stirred := { l with gate := { l.gate with wire := l.gate.wire.after h } }
    (a.happen l.number h).1 = [] ∧ Unheard a stirred (a.happen l.number h).2 := by
  intro stirred
  have stays : Stays a { a with link := some stirred } := ⟨by rw [linked]; rfl, rfl, rfl, rfl⟩
  have happened : a.happen l.number h = { a with link := some stirred }.takeIn := by
    rw [happen, linked]
    exact if_pos rfl
  rw [happened] at unheard ⊢
  have read := unheard_takeIn (a := { a with link := some stirred }) rfl running
    fun heard => unheard ⟨linked ▸ rfl, heard.2⟩
  refine ⟨read.1, ?_⟩
  cases read.2 with
  | lose ends loses => exact .lose ends (stays.loses loses)
  | wait idle stays' linked' => exact .wait idle (stays.trans stays') linked'

/-- A wait in which no frame comes lasts until the stream breaks off, or to its end. -/
theorem spares_await (linked : a.link = some l) (running : a.lifecycle.isRunning) (e : Evaluation)
    (hs : List Happening) (unheard : ¬ Hears a (await l.number e hs a).2.2) :
    Spares (l.gate.wire.BreaksOff hs) a (await l.number e hs a).2.2 ∧
      ((await l.number e hs a).2.2.link = none ∨ (await l.number e hs a).2.1 = []) := by
  induction hs generalizing a l with
  | nil => exact ⟨.of_stays id (.refl a), .inr rfl⟩
  | cons h hs ih =>
    obtain ⟨silent, read⟩ := unheard_happen linked running h
      fun heard => unheard (hears_await_of_happen e hs heard)
    rw [await] at unheard ⊢
    have grows := (acts_happen a l.number h).works.keepsLink.journal.traffic
    generalize a.happen l.number h = outcome at unheard silent read grows ⊢
    obtain ⟨messages, b⟩ := outcome
    dsimp only at silent read grows
    subst silent
    cases read with
    | lose ends loses =>
      dsimp only [Evaluation.hearAll]
      rw [loses.link]
      exact ⟨.of_loses (.inl ends) loses, .inl loses.link⟩
    | wait idle stays linked' =>
      dsimp only [Evaluation.hearAll] at unheard ⊢
      rw [linked'] at unheard ⊢
      have running' : b.lifecycle.isRunning := stays.lifecycle ▸ running
      have rest := ih linked' running' fun heard => unheard (heard.later (linked ▸ rfl) grows)
      refine ⟨?_, rest.2⟩
      have same : l.gate.wire.BreaksOff (h :: hs) ↔
          ((l.gate.wire.after h).poll true).2.BreaksOff hs :=
        (or_iff_right (Wire.not_ends_of_timeout idle)).trans (and_iff_right idle)
      rw [same]
      exact stays.spares rest.1

theorem spares_awaitResult (linked : a.link = some l) (running : a.lifecycle.isRunning)
    (written : Bool) (unheard : ¬ Hears a (a.awaitResult written).2.2) :
    Spares (l.gate.wire.BreaksOff (a.forthcoming written)) a (a.awaitResult written).2.2 ∧
      ((a.awaitResult written).2.2.link = none ∨ (a.awaitResult written).2.1 = []) := by
  have turned : Stays a (a.turnPage written) ∧ (a.turnPage written).link = some l ∧
      (a.turnPage written).journal = a.journal := by
    cases written <;> exact ⟨⟨rfl, rfl, rfl, rfl⟩, linked, rfl⟩
  obtain ⟨stays, linked', same⟩ := turned
  rw [awaitResult, linked] at unheard ⊢
  have waited := spares_await linked' (stays.lifecycle ▸ running) .start (a.forthcoming written)
    fun heard => unheard (heard.later (linked ▸ rfl) (same ▸ List.prefix_rfl))
  exact ⟨stays.spares waited.1, waited.2⟩

/-- Nothing more happens on a link that has ended. -/
theorem settle_eq_self {hs : List Happening} (silent : a.link = none ∨ hs = []) :
    settle hs a = a := by
  rcases silent with unlinked | rfl
  · rw [settle, unlinked]
  · unfold settle
    split <;> rfl

end waiting

/-! ## One request after the other -/

section requests
variable {a b : Adapter} {f : Failure}

theorem cutsOff_iff {l : Link} {code : String} {sent : Sent} {gate : Gate}
    (sending : l.gate.send (Evaluation.command code) = (.ok sent, gate)) :
    a.CutsOff l code ↔ gate.wire.BreaksOff (a.forthcoming (sent = .written)) := by
  constructor
  · rintro ⟨sent', gate', sending', breaks⟩
    rw [sending] at sending'
    cases sending'
    exact breaks
  · exact fun breaks => ⟨sent, gate, sending, breaks⟩

/-- A failed run of code is given up: its quiet wait is struck out again. -/
theorem spares_of_quietly {l : Link} {code : String} (sound : a.Sound)
    (fresh : a.desktop.quiet.IsFresh) (linked : a.link = some l)
    (failed : a.quietly l code = (.error f, b)) (unheard : ¬ Hears a b) :
    Spares (a.CutsOff l code) a b := by
  have linked' : (a.withQuiet Quiet.start).link = some l := linked
  have running : a.lifecycle.isRunning := sound.running_of_linked (linked ▸ rfl)
  obtain ⟨outcome, gate, sending⟩ :
      ∃ outcome gate, l.gate.send (Evaluation.command code) = (outcome, gate) := ⟨_, _, rfl⟩
  have begun := (a.withQuiet Quiet.start).stays_putGate (linked ▸ rfl) l gate
  have grows := (Journal.Extends.crossed a.journal l.number l.gate.wire gate.wire).traffic
  simp only [quietly, sendFor, linked', sendOver, sending] at failed
  cases outcome with
  | error f' =>
    cases failed
    refine Spares.giveUp (.of_stays ?_ begun) fresh
    rintro ⟨sent, gate', taken, -⟩
    rw [sending] at taken
    cases taken
  | ok sent =>
    have waited := spares_awaitResult (a := (a.withQuiet Quiet.start).putGate l gate) rfl running
      (sent = .written)
    dsimp only at failed
    split at failed
    case h_2 => cases failed
    case h_1 f' rest c result =>
      rw [result] at waited
      cases failed
      have settled := (acts_settle rest (c.withQuiet Quiet.giveUp)).works.keepsLink.journal.traffic
      obtain ⟨spares, silent⟩ := waited fun heard =>
        unheard ((heard.later (linked ▸ rfl) grows).mono settled)
      have silent : (c.withQuiet Quiet.giveUp).link = none ∨ rest = [] := silent
      rw [settle_eq_self silent, cutsOff_iff sending]
      exact (begun.spares spares).giveUp fresh

theorem stays_of_start {mode : RunMode} {t : Host.Target}
    (failed : a.start mode t = (.error f, b)) : Stays a b := by
  unfold start at failed
  split at failed
  case isFalse =>
    cases failed
    exact .refl a
  case isTrue =>
    have connected : Stays a (a.connect t).2 := by
      rw [connect_eq]
      split
      case h_1 => exact a.stays_seeking _ _
      case h_2 w rest _ => exact (a.stays_seeking _ rest).trans (stays_openLink _ w)
    split at failed
    case h_1 f' c same =>
      rw [same] at connected
      cases failed
      exact connected
    case h_2 => cases failed

/-- Lines are deferred only when there is nothing to be sent, and then the request does not fail. -/
theorem stays_of_setBreakpoints {source : Host.Source} {lines : List Int64}
    (failed : a.setBreakpoints source lines = (.error f, b)) : Stays a b := by
  unfold setBreakpoints at failed
  split at failed
  case isFalse =>
    cases failed
    exact .refl a
  case isTrue =>
    cases named : SourceName.ofSource? source with
    | none =>
      obtain ⟨f', refused⟩ := a.desktop.planBreakpoints_unnamed named lines
      rw [refused] at failed
      cases failed
      exact .refl a
    | some name =>
      cases shown : a.desktop.sources.windowNamed? name with
      | none =>
        rw [a.desktop.planBreakpoints_unshown named shown] at failed
        cases failed
      | some window =>
        rw [a.desktop.planBreakpoints_shown named shown] at failed
        have sent := (a.writes_sendPlanned
          (some (.stopsAt window (Desktop.validLines lines)))).stays
        dsimp only at failed
        split at failed
        case h_1 f' c same =>
          have same : a.sendPlanned _ = _ := same
          rw [same] at sent
          cases failed
          exact sent
        case h_2 => cases failed

theorem runningLink_of_linked {l : Link} {request : String} (sound : a.Sound)
    (linked : a.link = some l) : a.runningLink request = .ok l := by
  have running : a.lifecycle.isRunning := sound.running_of_linked (linked ▸ rfl)
  rw [runningLink, if_pos running, linked]

theorem running_of_code? {r : Request} {code : String} {state : Lifecycle} (fits : r.fits state)
    (waits : r.code? = some code) : state.isRunning = true := by
  cases r with
  | evaluate | variablesOf => exact fits
  | _ => cases waits

theorem spares_of_evaluate {expression : String} {l : Link} (sound : a.Sound)
    (fresh : a.desktop.quiet.IsFresh) (linked : a.link = some l)
    (failed : a.evaluate expression = (.error f, b)) (unheard : ¬ Hears a b) :
    Spares (a.CutsOff l expression) a b := by
  unfold evaluate at failed
  rw [runningLink_of_linked sound linked] at failed
  dsimp only at failed
  cases run : a.quietly l expression with
  | mk result c =>
    rw [run] at failed
    cases result with
    | ok output => cases failed
    | error f' =>
      cases failed
      exact spares_of_quietly sound fresh linked run unheard

theorem spares_of_variablesOf {reference : Int64} {l : Link} (sound : a.Sound)
    (fresh : a.desktop.quiet.IsFresh) (linked : a.link = some l)
    (known : (a.desktop.tracer? reference).isSome)
    (failed : a.variablesOf reference = (.error f, b)) (unheard : ¬ Hears a b) :
    Spares (a.CutsOff l listing) a b := by
  have running : a.lifecycle.isRunning := sound.running_of_linked (linked ▸ rfl)
  have traced : ¬ (a.desktop.tracer? reference).isNone := by
    simp [Option.isSome_iff_ne_none.mp known]
  rw [variablesOf, if_neg (by simp [running]), if_neg traced,
    runningLink_of_linked sound linked] at failed
  dsimp only at failed
  split at failed
  case h_1 f' c run =>
    cases failed
    exact spares_of_quietly sound fresh linked run unheard
  case h_2 => cases failed

theorem stays_of_starting {mode : RunMode} {t : Host.Target}
    (failed : handle.starting a mode t = (.error f, b)) : Stays a b := by
  unfold handle.starting at failed
  cases started : a.start mode t with
  | mk result c =>
    rw [started] at failed
    cases result with
    | ok => cases failed
    | error f' =>
      cases failed
      exact stays_of_start started

theorem eq_of_bodiless {x : Except Failure Unit × Adapter}
    (failed : bodiless x = (.error f, b)) : x = (.error f, b) := by
  obtain ⟨result, c⟩ := x
  cases result with
  | ok => cases failed
  | error f' =>
    cases failed
    rfl

theorem eq_of_embodied {α : Type} {body : α → Json.Value} {x : Except Failure α × Adapter}
    (failed : embodied body x = (.error f, b)) : x = (.error f, b) := by
  obtain ⟨result, c⟩ := x
  cases result with
  | ok => cases failed
  | error f' =>
    cases failed
    rfl

/-- A request that does not wait for a line of code stays with what there is when it fails. -/
theorem stays_of_handle {r : Request} (fits : r.fits a.lifecycle) (plain : r.code? = none)
    (failed : a.handle r = (.error f, b)) : Stays a b := by
  have left : (a.handle r).2 = b := congrArg Prod.snd failed
  cases r with
  | evaluate | variablesOf => cases plain
  | setBreakpoints source lines => exact stays_of_setBreakpoints (eq_of_embodied failed)
  | launch t | attach t => exact stays_of_starting (eq_of_bodiless failed)
  | setUp =>
    have created : a.lifecycle = .created := of_decide_eq_true fits
    rw [handle, setUp, if_pos created] at failed
    cases failed
  | disconnect =>
    have out : a.disconnect = (.error f, b) := eq_of_bodiless failed
    unfold disconnect at out
    split at out
    case isTrue => cases out
    case isFalse alive =>
      rw [finish_of_alive a alive] at out
      cases out
  | terminate =>
    have alive : a.lifecycle ≠ .terminated := of_decide_eq_true fits
    have out : a.terminate = (.error f, b) := eq_of_bodiless failed
    rw [terminate, finish_of_alive a alive] at out
    cases out
  | «continue» => exact left ▸ (a.writes_step "continue" .continue).stays
  | next => exact left ▸ (a.writes_step "next" .runCurrentLine).stays
  | stepIn => exact left ▸ (a.writes_step "stepIn" .stepInto).stays
  | stepOut => exact left ▸ (a.writes_step "stepOut" .continueTrace).stays
  | pause => exact left ▸ a.writes_pause.stays
  | threads => exact left ▸ a.writes_threads.stays
  | configurationDone | stackTrace | scopes | source => exact left ▸ .refl a

/-- A request that waits for a line of code and fails takes the session along if its link ends. -/
theorem spares_of_handle {r : Request} {code : String} {l : Link} (sound : a.Sound)
    (fresh : a.desktop.quiet.IsFresh) (known : a.desktop.Knows r) (waits : r.code? = some code)
    (linked : a.link = some l) (failed : a.handle r = (.error f, b)) (unheard : ¬ Hears a b) :
    Spares (a.CutsOff l code) a b := by
  cases r with
  | evaluate expression =>
    cases waits
    exact spares_of_evaluate sound fresh linked (eq_of_embodied failed) unheard
  | variablesOf reference =>
    cases waits
    exact spares_of_variablesOf sound fresh linked known (eq_of_embodied failed) unheard
  | _ => cases waits

theorem spares_of_answer {m : RequestMessage} (sound : a.Sound) (fresh : a.desktop.quiet.IsFresh)
    (failed : a.answer m = (.error f, b)) (unheard : ¬ Hears a b) :
    Spares (a.LinkEnds m) a b := by
  by_cases admitted : a.Admits m
  case neg =>
    obtain ⟨f', refused⟩ := answer_of_not_admits admitted
    rw [refused] at failed
    cases failed
    refine .of_stays ?_ (.refl a)
    rintro ⟨r, _, _, asked, fits, known, -⟩
    exact admitted ⟨r, asked, fits, known⟩
  obtain ⟨r, asked, fits, known⟩ := admitted
  have handled : a.handle r = (.error f, b) := by rwa [answer, asked] at failed
  cases waits : r.code? with
  | none =>
    refine .of_stays ?_ (stays_of_handle fits waits handled)
    rintro ⟨r', code, _, asked', -, -, waits', -⟩
    rw [asked] at asked'
    cases asked'
    rw [waits] at waits'
    cases waits'
  | some code =>
    obtain ⟨l, linked⟩ := Option.isSome_iff_exists.mp
      (sound.linked.trans (running_of_code? fits waits))
    have same : a.LinkEnds m ↔ a.CutsOff l code := by
      constructor
      · rintro ⟨r', code', l', asked', -, -, waits', linked', cut⟩
        rw [asked] at asked'
        cases asked'
        rw [waits] at waits'
        cases waits'
        rw [linked] at linked'
        cases linked'
        exact cut
      · exact fun cut => ⟨r, code, l, asked, fits, known, waits, linked, cut⟩
    rw [same]
    exact spares_of_handle sound fresh known waits linked handled unheard

end requests

/-! ## Every run -/

theorem Response.fresh {relinks : Bool} {a b : Adapter} (response : Response relinks a b)
    (fresh : a.desktop.quiet.IsFresh) : b.desktop.quiet.IsFresh := by
  have installed (opened : Adapter) (l : Link) (same : opened.desktop = a.desktop) :
      (opened.install l).desktop.quiet.IsFresh := by
    refine (acts_takeIn { opened with link := some l }).works.fresh ?_
    dsimp only
    rwa [same]
  cases response with
  | works works => exact works.fresh fresh
  | setUp | seek | «open» | refuse => exact fresh
  | @start opened l targets offers w ready mode opens =>
    have same := (stays_openLink (a.seeking targets offers) w).desktop
    rw [opens] at same
    exact installed { opened with lifecycle := .running mode } l same
  | @rebind opened l w asked running opens =>
    have same := (a.stays_openLink w).desktop
    rw [opens] at same
    exact installed opened l same
  | disconnect alive =>
    rw [desktop_dropLink]
    exact fresh
  | terminate alive =>
    have same : ({ a with lifecycle := .terminated }.dropLink.publish .terminated).desktop =
        a.desktop := desktop_dropLink _
    rwa [same]

theorem fresh_run (s : Surroundings) (stimuli : List Stimulus) :
    (run s stimuli).desktop.quiet.IsFresh :=
  always_run s (fun _ => rfl) (fun _ _ _ _ response => response.fresh) stimuli

/-- In every run, a message that is no request, does not fit the state of the session or speaks of
what the desktop does not know is refused and changes nothing at all. Any other request that fails
before a message comes in leaves the session and the desktop as they were and tells the host
nothing, unless the stream of the link ends while it waits for a line of code: then, and only then,
the session has ended with it. -/
theorem failed_request_spares_session (s : Surroundings) (stimuli : List Stimulus)
    (m : RequestMessage) :
    let a := run s stimuli
    (¬ a.Admits m → ∃ f, a.answer m = (.error f, a)) ∧
    ∀ f b, a.answer m = (.error f, b) → ¬ Hears a b →
      (a.LinkEnds m → Loses a b) ∧ (¬ a.LinkEnds m → Stays a b) := by
  intro a
  refine ⟨answer_of_not_admits, fun f b failed unheard => ?_⟩
  have spares := spares_of_answer (sound_run s stimuli) (fresh_run s stimuli) failed unheard
  exact ⟨spares.loses, spares.stays⟩

instance (a b : Adapter) : Decidable (Hears a b) := inferInstanceAs (Decidable (_ ∧ _))

/-- The host wants to know the value of a sum. -/
def askSum : RequestMessage := ⟨3, "evaluate", .record [("expression", .text "1+1")]⟩

theorem exists_error_of_isOk {α : Type} {x : Except Failure α} (h : x.isOk = false) :
    ∃ f, x = .error f := by
  cases x with
  | ok => cases h
  | error f => exact ⟨f, rfl⟩

/-- An evaluation that nobody answers times out and leaves the session running. -/
theorem silence_spares_session :
    let a := run (oneLink []) launching
    ∃ f b, a.answer askSum = (.error f, b) ∧ ¬ Hears a b ∧ a.lifecycle = .running .launched ∧
      Stays a b := by
  intro a
  have running : a.lifecycle = .running .launched := by decide +kernel
  have fails : (a.answer askSum).1.isOk = false := by decide +kernel
  have unheard : ¬ Hears a (a.answer askSum).2 := by decide +kernel
  have spared := (failed_request_spares_session (oneLink []) launching askSum).2
  generalize answered : a.answer askSum = outcome at fails unheard
  obtain ⟨result, b⟩ := outcome
  obtain ⟨f, rfl⟩ := exists_error_of_isOk fails
  refine ⟨f, b, rfl, unheard, running, ?_⟩
  refine (spared f b answered unheard).2 ?_
  rintro ⟨r, code, l, -, -, -, -, -, sent, gate, -, breaks⟩
  have silence : a.forthcoming (sent = .written) = [] := by
    cases sent <;> decide +kernel
  rw [silence] at breaks
  exact breaks

/-- An evaluation during which the interpreter hangs up fails without a message, and the session
has ended with its link. -/
theorem hang_up_ends_session :
    let a := run (oneLink [[.hangUp []]]) launching
    ∃ f b, a.answer askSum = (.error f, b) ∧ ¬ Hears a b ∧ a.lifecycle = .running .launched ∧
      b.lifecycle = .terminated ∧ a.LinkEnds askSum := by
  intro a
  have before : a.lifecycle = .running .launched := by decide +kernel
  have fails : (a.answer askSum).1.isOk = false := by decide +kernel
  have unheard : ¬ Hears a (a.answer askSum).2 := by decide +kernel
  have after : (a.answer askSum).2.lifecycle = .terminated := by decide +kernel
  generalize answered : a.answer askSum = outcome at fails unheard after
  obtain ⟨result, b⟩ := outcome
  obtain ⟨f, rfl⟩ := exists_error_of_isOk fails
  refine ⟨f, b, rfl, unheard, before, after, ?_⟩
  by_contra going
  have stays := (spares_of_answer (sound_run _ launching) (fresh_run _ launching) answered
    unheard).stays going
  have still : b.lifecycle = .running .launched := stays.lifecycle.trans before
  rw [after] at still
  cases still

end Adapter
end DebugBridge
