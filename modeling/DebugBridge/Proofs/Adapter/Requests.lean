import DebugBridge.Proofs.Adapter.Acts

/-!
# What requests do to a session

Most requests come down to work at the link and leave a session in its state, unless what the
interpreter does meanwhile ends it. The rest is listed here: a session is readied, started, given
another link or ended, and a link may be looked for or opened in vain. A session that has ended
refuses everything but another disconnection.
-/

namespace DebugBridge

open Host (Request RequestMessage)

/-- Only one command asks for disconnection. -/
theorem Host.Request.command_of_disconnect {m : RequestMessage}
    (asked : Request.ofMessage m = .ok .disconnect) : m.command = "disconnect" := by
  have other {α : Type} (read : Except Failure α) (build : α → Request)
      (apart : ∀ x, build x ≠ .disconnect) : read.map build ≠ .ok .disconnect := by
    cases read with
    | error f => exact nofun
    | ok x => exact fun same => apart x (Except.ok.inj same)
  unfold Request.ofMessage at asked
  split at asked
  case h_5 same => exact same
  case h_2 | h_3 | h_13 | h_14 | h_15 | h_16 | h_17 =>
    exact absurd asked (other _ _ fun _ => nofun)
  case h_18 =>
    cases read : Request.arguments m "SourceArguments" Request.referenceForm with
    | error f =>
      rw [read] at asked
      cases asked
    | ok reference =>
      rw [read] at asked
      cases reference with
      | none => cases asked
      | some r =>
        dsimp only [bind, Except.bind] at asked
        split at asked <;> cases asked
  all_goals cases asked

/-- The state of a session lets a request be handled. -/
def Host.Request.fits : Request → Lifecycle → Bool
  | .setUp, state => state = .created
  | .launch _, state | .attach _, state => state = .initialized
  | .disconnect, _ => true
  | .terminate, state | .source _, state => state ≠ .terminated
  | .setBreakpoints .., state => state = .initialized ∨ state.isRunning
  | .configurationDone, state | .continue, state | .next, state | .stepIn, state
  | .stepOut, state | .pause, state | .threads, state | .stackTrace _, state | .scopes _, state
  | .variablesOf _, state | .evaluate _, state => state.isRunning

/-- Requests with which the host begins or ends a session. -/
def Host.Request.framesSession : Request → Bool
  | .setUp | .launch _ | .attach _ | .disconnect | .terminate => true
  | _ => false

namespace Adapter

/-! ## What comes of a request -/

/-- What the host asks within a session comes down to work at its link. -/
theorem works_handle (a : Adapter) {r : Request} (within : r.framesSession = false) :
    Works a (a.handle r).2 := by
  cases r with
  | setUp | launch | attach | disconnect | terminate => cases within
  | configurationDone | stackTrace | scopes | source => exact .refl
  | «continue» => exact (a.writes_step "continue" .continue).works
  | next => exact (a.writes_step "next" .runCurrentLine).works
  | stepIn => exact (a.writes_step "stepIn" .stepInto).works
  | stepOut => exact (a.writes_step "stepOut" .continueTrace).works
  | pause => exact a.writes_pause.works
  | threads => exact a.writes_threads.works
  | setBreakpoints source lines => exact a.works_setBreakpoints source lines
  | variablesOf reference => exact a.works_variablesOf reference
  | evaluate expression => exact a.works_evaluate expression

/-- The adapter once it has looked for a link. -/
def seeking (a : Adapter) (targets : List Host.Target) (offers : List Wire) : Adapter :=
  { a with journal := { a.journal with targets }, offers }

/-- How an adapter comes out of what it is asked, which may be to take another link. -/
inductive Response (relinks : Bool) : Adapter → Adapter → Prop
  | works {a b : Adapter} (works : Works a b) : Response relinks a b
  | setUp {a : Adapter} (created : a.lifecycle = .created) :
      Response relinks a ({ a with lifecycle := .initialized }.publish .initialized)
  /-- No link is found. -/
  | seek {a : Adapter} (ready : a.lifecycle = .initialized) (targets : List Host.Target)
      (offers : List Wire) : Response relinks a (a.seeking targets offers)
  /-- A link is found but fails to open. -/
  | open {a : Adapter} (ready : a.lifecycle = .initialized) (targets : List Host.Target)
      (offers : List Wire) (w : Wire) : Response relinks a ((a.seeking targets offers).openLink w).2
  | start {a opened : Adapter} {l : Link} {targets : List Host.Target} {offers : List Wire}
      {w : Wire} (ready : a.lifecycle = .initialized) (mode : RunMode)
      (opens : (a.seeking targets offers).openLink w = (.ok l, opened)) :
      Response relinks a ({ opened with lifecycle := .running mode }.install l)
  /-- Another link fails to open, or the session does not take it. -/
  | refuse {a : Adapter} (asked : relinks) (w : Wire) : Response relinks a (a.openLink w).2
  | rebind {a opened : Adapter} {l : Link} {w : Wire} (asked : relinks)
      (running : a.lifecycle.isRunning) (opens : a.openLink w = (.ok l, opened)) :
      Response relinks a (opened.install l)
  | disconnect {a : Adapter} (alive : a.lifecycle ≠ .terminated) :
      Response relinks a { a with lifecycle := .terminated }.dropLink
  | terminate {a : Adapter} (alive : a.lifecycle ≠ .terminated) :
      Response relinks a ({ a with lifecycle := .terminated }.dropLink.publish .terminated)

section session
variable (a : Adapter)

theorem stays_openLink (w : Wire) : Stays a (a.openLink w).2 := ⟨rfl, rfl, rfl, rfl⟩

theorem stays_seeking (targets : List Host.Target) (offers : List Wire) :
    Stays a (a.seeking targets offers) := ⟨rfl, rfl, rfl, rfl⟩

theorem connect_eq (t : Host.Target) :
    a.connect t =
      match a.offers with
      | [] => (.error (a.unreachable t), a.seeking (a.journal.targets ++ [t]) a.offers)
      | w :: rest => (a.seeking (a.journal.targets ++ [t]) rest).openLink w := rfl

theorem finish_of_alive (alive : a.lifecycle ≠ .terminated) (request : String) :
    a.finish request = (.ok (), { a with lifecycle := .terminated }.dropLink) :=
  if_neg alive

theorem finish_of_terminated (ended : a.lifecycle = .terminated) (request : String) :
    a.finish request =
      (.error (.plain s!"cannot handle {request}: session already terminated"), a) :=
  if_pos ended

end session

namespace Response
variable {relinks : Bool} (a : Adapter)

theorem refl : Response relinks a a := .works .refl

theorem ofStart (mode : RunMode) (t : Host.Target) : Response relinks a (a.start mode t).2 := by
  unfold Adapter.start
  split
  case isFalse => exact refl a
  case isTrue ready =>
    rw [connect_eq]
    cases a.offers with
    | nil => exact .seek ready _ _
    | cons w rest =>
      dsimp only
      have opened : Response relinks a _ := .open ready (a.journal.targets ++ [t]) rest w
      split
      case h_1 f b same =>
        rw [same] at opened
        exact opened
      case h_2 l b same => exact .start ready mode same

theorem ofRebind (w : Wire) : Response true a (a.rebind w).2 := by
  have opened : Response true a (a.openLink w).2 := .refuse rfl w
  unfold Adapter.rebind
  split
  case h_1 f b same =>
    rw [same] at opened
    exact opened
  case h_2 l b same =>
    have lifecycle := (a.stays_openLink w).lifecycle
    rw [same] at opened lifecycle
    split
    case isFalse => exact opened
    case isTrue running =>
      rw [lifecycle] at running
      exact .rebind rfl running same

theorem ofDisconnect : Response relinks a a.disconnect.2 := by
  unfold Adapter.disconnect
  split
  case isTrue => exact refl a
  case isFalse alive =>
    rw [finish_of_alive a alive]
    exact .disconnect alive

theorem ofTerminate : Response relinks a a.terminate.2 := by
  unfold Adapter.terminate
  by_cases ended : a.lifecycle = .terminated
  · rw [finish_of_terminated a ended]
    exact refl a
  · rw [finish_of_alive a ended]
    exact .terminate ended

theorem ofHandle (r : Request) : Response relinks a (a.handle r).2 := by
  cases within : r.framesSession with
  | false => exact .works (a.works_handle within)
  | true =>
    cases r with
    | setUp =>
      have readied : (a.handle .setUp).2 = a.setUp.2 := rfl
      rw [readied, Adapter.setUp]
      split
      case isTrue created => exact .setUp created
      case isFalse => exact refl a
    | launch t => exact ofStart a .launched t
    | attach t => exact ofStart a .attached t
    | disconnect => exact ofDisconnect a
    | terminate => exact ofTerminate a
    | _ => cases within

end Response

/-- A session that has its link and is running goes on with whatever comes first. -/
theorem continues_install {a : Adapter} (running : a.lifecycle.isRunning) (l : Link) :
    Continues a (a.install l) := by
  have linked : Continues a { a with link := some l } :=
    ⟨.inl rfl, fun h => ⟨running.symm, h.ended⟩⟩
  exact linked.trans (acts_takeIn _).works.continues

theorem Response.proceeds {relinks : Bool} {a b : Adapter} (response : Response relinks a b) :
    Proceeds a b := by
  cases response with
  | works works => exact works.continues.proceeds
  | setUp created =>
    refine ⟨created ▸ .setUp, fun h => ⟨?_, ?_⟩⟩
    · have linked := h.linked
      rw [created] at linked
      exact linked
    · have none := h.ends_eq_zero (by rw [created]; decide)
      exact Nat.le_of_eq (none ▸ ends_publish _ _)
  | seek ready targets offers => exact (a.stays_seeking targets offers).continues.proceeds
  | refuse asked w => exact (a.stays_openLink w).continues.proceeds
  | «open» ready targets offers w =>
    exact ((a.stays_seeking targets offers).trans (stays_openLink _ w)).continues.proceeds
  | @start opened l targets offers w ready mode opens =>
    have same := (a.stays_seeking targets offers).trans (stays_openLink _ w)
    rw [opens] at same
    have running := (acts_takeIn { opened with lifecycle := .running mode, link := some l }).works
    refine ⟨?_, fun h => running.continues.sound ⟨rfl, ?_⟩⟩
    · rw [ready]
      rcases running.continues.lifecycle with still | ended
      · exact still ▸ .start mode
      · exact ended ▸ .stop _
    · have none := h.ends_eq_zero (by rw [ready]; decide)
      exact Nat.le_of_eq (same.ends.trans none)
  | @rebind opened l w asked running opens =>
    have same := a.stays_openLink w
    rw [opens] at same
    rw [← same.lifecycle] at running
    exact (same.continues.trans (continues_install running l)).proceeds
  | disconnect alive =>
    refine ⟨?_, fun h => h.ended_once alive (lifecycle_dropLink _) (link_dropLink _) ?_⟩
    · rw [lifecycle_dropLink]
      exact .stop _
    · rw [ends, journal_dropLink]
      exact Nat.le_succ _
  | terminate alive =>
    refine ⟨?_, fun h => h.ended_once alive (lifecycle_dropLink _) (link_dropLink _) ?_⟩
    · exact (lifecycle_dropLink _).symm ▸ .stop _
    · rw [ends_publish, if_pos rfl, ends, journal_dropLink]
      exact Nat.le_refl _

/-! ## Refusals -/

/-- A request that does not fit the state of the session is refused, and nothing else is done. -/
theorem handle_of_unfit {a : Adapter} {r : Request} (unfit : r.fits a.lifecycle = false) :
    ∃ f, a.handle r = (.error f, a) := by
  have stopped (idle : a.lifecycle.isRunning = false) (request : String) :
      a.runningLink request = .error (a.lifecycle.refusalUnlessRunning request) := by
    rw [runningLink, idle]
    rfl
  cases r with
  | setUp =>
    have later : a.lifecycle ≠ .created := of_decide_eq_false unfit
    exact ⟨_, by rw [handle, setUp, if_neg later]; rfl⟩
  | launch t | attach t =>
    have unready : a.lifecycle ≠ .initialized := of_decide_eq_false unfit
    exact ⟨_, by rw [handle, handle.starting, start, if_neg unready]; rfl⟩
  | disconnect => cases unfit
  | terminate =>
    have ended : a.lifecycle = .terminated := not_not.mp (of_decide_eq_false unfit)
    exact ⟨_, by rw [handle, terminate, finish_of_terminated a ended]; rfl⟩
  | source reference =>
    have ended : a.lifecycle = .terminated := not_not.mp (of_decide_eq_false unfit)
    exact ⟨_, by rw [handle, source, if_pos ended]; rfl⟩
  | setBreakpoints source lines =>
    have idle : ¬ (a.lifecycle = .initialized ∨ a.lifecycle.isRunning) := of_decide_eq_false unfit
    exact ⟨_, by rw [handle, setBreakpoints, if_neg idle]; rfl⟩
  | «continue» | next | stepIn | stepOut => exact ⟨_, by rw [handle, step, stopped unfit]; rfl⟩
  | pause => exact ⟨_, by rw [handle, pause, stopped unfit]; rfl⟩
  | threads => exact ⟨_, by rw [handle, threads, stopped unfit]; rfl⟩
  | evaluate expression => exact ⟨_, by rw [handle, evaluate, stopped unfit]; rfl⟩
  | configurationDone =>
    have idle : a.lifecycle.isRunning = false := unfit
    exact ⟨_, by rw [handle, configurationDone, idle]; rfl⟩
  | stackTrace thread =>
    have idle : a.lifecycle.isRunning = false := unfit
    exact ⟨_, by rw [handle, stackTrace, idle]; rfl⟩
  | scopes frame =>
    have idle : a.lifecycle.isRunning = false := unfit
    exact ⟨_, by rw [handle, scopes, idle]; rfl⟩
  | variablesOf reference =>
    have idle : a.lifecycle.isRunning = false := unfit
    exact ⟨_, by rw [handle, variablesOf, idle]; rfl⟩

/-- A session that has ended lets itself be disconnected again, and refuses all else. -/
theorem handle_of_terminated {a : Adapter} (ended : a.lifecycle = .terminated) (r : Request) :
    (a.handle r).2 = a ∧ ((∃ f, (a.handle r).1 = .error f) ∨ r = .disconnect) := by
  cases fits : r.fits a.lifecycle with
  | false =>
    obtain ⟨f, refused⟩ := handle_of_unfit fits
    rw [refused]
    exact ⟨rfl, .inl ⟨f, rfl⟩⟩
  | true =>
    rw [ended] at fits
    cases r with
    | disconnect => exact ⟨by rw [handle, disconnect, if_pos ended]; rfl, .inr rfl⟩
    | _ => cases fits

end Adapter
end DebugBridge
