import DebugBridge.Proofs.Adapter.Requests
import Mathlib.Data.List.Induction

/-!
# The lifetime of a session

Whatever the host asks, whatever happens on the links and however often they are replaced, a
session is created, initialized, running and terminated in this order, has a link exactly while it
runs, and its end is told once at most. Once it has ended, nothing changes it any more.
-/

namespace DebugBridge.Adapter

open Host (Request RequestMessage)

/-- What an adapter has to deal with. -/
inductive Stimulus where
  /-- The host asks for something. -/
  | request (m : RequestMessage)
  /-- Something happens on the link with a number. -/
  | happening (number : Nat) (h : Happening)
  /-- The link is to be replaced by one on another wire. -/
  | rebind (w : Wire)

/-- The adapter when it has dealt with a stimulus. -/
def respond (a : Adapter) : Stimulus → Adapter
  | .request m => (a.answer m).2
  | .happening number h => (a.happen number h).2
  | .rebind w => (a.rebind w).2

/-- What a run starts with: how the adapter is set up, and what its surroundings will do. -/
structure Surroundings where
  settings : Settings
  fallback : Option (Option String)
  offers : List Wire
  unreachable : Host.Target → Failure
  answers : List (List Happening)
  delays : List (List Happening)

/-- The adapter before a run. -/
def ofSurroundings (s : Surroundings) : Adapter :=
  { ofSettings s.settings with
    fallback := s.fallback
    offers := s.offers
    unreachable := s.unreachable
    answers := s.answers
    delays := s.delays }

/-- The adapter behind a run. -/
def run (s : Surroundings) (stimuli : List Stimulus) : Adapter :=
  stimuli.foldl respond (ofSurroundings s)

theorem run_append (s : Surroundings) (stimuli later : List Stimulus) :
    run s (stimuli ++ later) = later.foldl respond (run s stimuli) := by
  rw [run, List.foldl_append, run]

/-- The adapter is to take another link. -/
def Stimulus.relinks : Stimulus → Bool
  | .request _ | .happening _ _ => false
  | .rebind _ => true

theorem response (a : Adapter) (i : Stimulus) : Response i.relinks a (a.respond i) := by
  cases i with
  | request m =>
    rw [respond, answer]
    split
    case h_1 => exact .refl a
    case h_2 r asked => exact .ofHandle a r
  | happening number h => exact .works (acts_happen a number h).works
  | rebind w => exact .ofRebind a w

theorem sound_foldl_respond {a : Adapter} (h : a.Sound) (stimuli : List Stimulus) :
    (stimuli.foldl respond a).Sound := by
  induction stimuli generalizing a with
  | nil => exact h
  | cons i rest ih => exact ih ((a.response i).proceeds.sound h)

theorem sound_run (s : Surroundings) (stimuli : List Stimulus) : (run s stimuli).Sound := by
  refine sound_foldl_respond ⟨rfl, ?_⟩ stimuli
  have alive : (ofSurroundings s).lifecycle ≠ .terminated := nofun
  rw [if_neg alive]
  exact Nat.le_refl 0

/-- What every response keeps holds throughout a run. -/
theorem always_run {P : Adapter → Prop} (s : Surroundings) (first : P (ofSurroundings s))
    (kept : ∀ relinks a b, a.Sound → Response relinks a b → P a → P b) (stimuli : List Stimulus) :
    P (run s stimuli) := by
  induction stimuli using List.reverseRecOn with
  | nil => exact first
  | append_singleton earlier i ih =>
    rw [run_append]
    exact kept _ _ _ (sound_run s earlier) (response _ i) ih

/-! ## An interpreter that greets -/

/-- What the interpreter sends while a link opens. -/
def greetings : List Read :=
  ["SupportedProtocols=2", "UsingProtocol=2"].map fun text =>
    .bytes (Frame.lengthBytes (Frame.headerLength + (Text.bytes text).length) ++ LinkFault.tag
      ++ Text.bytes text)

/-- A wire with an interpreter that greets and then is silent. -/
def greetingWire : Wire :=
  .ofSides (.ofReads greetings .silent Frame.defaultLimit) (.ofSink .reliable Frame.defaultLimit)

/-- Surroundings with one silent interpreter, and what happens as it takes lines of code. -/
def oneLink (answers : List (List Happening)) : Surroundings :=
  ⟨⟨2, 1000, 1000, 100⟩, none, [greetingWire], fun _ => .plain "interpreter unreachable", answers,
    []⟩

/-- A session is set up and launched. -/
def launching : List Stimulus :=
  [.request ⟨1, "initialize", .null⟩, .request ⟨2, "launch", .null⟩]

/-! ## After the end -/

/-- The session has ended. -/
structure Over (a : Adapter) : Prop where
  lifecycle : a.lifecycle = .terminated
  unlinked : a.link = none

/-- Nothing comes about but that links are opened which nobody takes: the session and all that is
known stay as they are, the host is told nothing, and what is written goes to the new links. -/
structure OnlyOpens (a b : Adapter) : Prop where
  lifecycle : b.lifecycle = a.lifecycle
  link : b.link = a.link
  retired : b.retired = a.retired
  desktop : b.desktop = a.desktop
  events : b.journal.events = a.journal.events
  opened : a.opened ≤ b.opened
  sent : ∃ further, b.journal.sent = a.journal.sent ++ further ∧ ∀ x ∈ further, a.opened < x.link

namespace OnlyOpens
variable {a b c : Adapter}

theorem refl (a : Adapter) : OnlyOpens a a :=
  ⟨rfl, rfl, rfl, rfl, rfl, Nat.le_refl _, [], (List.append_nil _).symm, nofun⟩

theorem trans (h : OnlyOpens a b) (h' : OnlyOpens b c) : OnlyOpens a c := by
  obtain ⟨first, sent, new⟩ := h.sent
  obtain ⟨second, sent', new'⟩ := h'.sent
  refine ⟨h'.lifecycle.trans h.lifecycle, h'.link.trans h.link, h'.retired.trans h.retired,
    h'.desktop.trans h.desktop, h'.events.trans h.events, Nat.le_trans h.opened h'.opened,
    first ++ second, by rw [sent', sent, List.append_assoc], fun x mem => ?_⟩
  rcases List.mem_append.mp mem with mem | mem
  · exact new x mem
  · exact Nat.lt_of_le_of_lt h.opened (new' x mem)

theorem openLink (a : Adapter) (w : Wire) : OnlyOpens a (a.openLink w).2 where
  lifecycle := rfl
  link := rfl
  retired := rfl
  desktop := rfl
  events := rfl
  opened := Nat.le_succ _
  sent := by
    refine ⟨_, rfl, fun x mem => ?_⟩
    obtain ⟨payload, -, rfl⟩ := List.mem_map.mp mem
    exact Nat.lt_succ_self _

end OnlyOpens

theorem Sound.hasEnded {a : Adapter} (h : a.Sound) (ended : a.lifecycle = .terminated) :
    Over a where
  lifecycle := ended
  unlinked := by
    have linked := h.linked
    rw [ended] at linked
    exact Option.isSome_eq_false_iff.mp linked |> Option.isNone_iff_eq_none.mp

namespace Over
variable {a : Adapter}

theorem answer (h : Over a) (m : RequestMessage) :
    (a.answer m).2 = a ∧ ((∃ f, (a.answer m).1 = .error f) ∨ m.command = "disconnect") := by
  unfold Adapter.answer
  split
  case h_1 f _ => exact ⟨rfl, .inl ⟨f, rfl⟩⟩
  case h_2 r asked =>
    obtain ⟨same, refused | rfl⟩ := handle_of_terminated h.lifecycle r
    · exact ⟨same, .inl refused⟩
    · exact ⟨same, .inr (Request.command_of_disconnect asked)⟩

theorem happen (h : Over a) (number : Nat) (x : Happening) : a.happen number x = ([], a) := by
  rw [Adapter.happen, h.unlinked]

/-- A new link is refused. It was opened before the adapter was asked to take it. -/
theorem rebind (h : Over a) (w : Wire) :
    (∃ f, (a.rebind w).1 = .error f) ∧ (a.rebind w).2 = (a.openLink w).2 := by
  have idle : (a.openLink w).2.lifecycle.isRunning = false := by
    rw [(a.stays_openLink w).lifecycle, h.lifecycle]
    rfl
  unfold Adapter.rebind
  split
  case h_1 f b same => exact ⟨⟨f, rfl⟩, by rw [same]⟩
  case h_2 l b same =>
    rw [same] at idle ⊢
    rw [if_neg (by simp [idle])]
    exact ⟨⟨_, rfl⟩, rfl⟩

theorem of_onlyOpens {b : Adapter} (h : Over a) (opens : OnlyOpens a b) : Over b :=
  ⟨opens.lifecycle.trans h.lifecycle, opens.link.trans h.unlinked⟩

theorem respond (h : Over a) (i : Stimulus) : OnlyOpens a (a.respond i) := by
  cases i with
  | request m =>
    rw [Adapter.respond, (h.answer m).1]
    exact .refl a
  | happening number x =>
    rw [Adapter.respond, h.happen number x]
    exact .refl a
  | rebind w =>
    rw [Adapter.respond, (h.rebind w).2]
    exact .openLink a w

theorem foldl_respond (h : Over a) (later : List Stimulus) :
    OnlyOpens a (later.foldl Adapter.respond a) := by
  induction later generalizing a with
  | nil => exact .refl a
  | cons i rest ih =>
    have now := h.respond i
    exact now.trans (ih (h.of_onlyOpens now))

end Over

/-- In every run, a session has a link exactly while it runs, its state only advances, and the host
is told of its end once at most. After its end every request but a disconnection fails, whatever
happens on a link concerns nobody, and a new link, which has to be opened before the adapter is
asked to take it, is refused. Nothing that comes later changes the session, tells the host anything
or writes to a link that there was. -/
theorem session_lifetime (s : Surroundings) (stimuli : List Stimulus) :
    let a := run s stimuli
    (a.link.isSome ↔ a.lifecycle.isRunning) ∧
    (∀ i, a.lifecycle.Advances (a.respond i).lifecycle) ∧
    a.journal.events.count .terminated ≤ 1 ∧
    (a.lifecycle = .terminated →
      (∀ m, (a.answer m).2 = a ∧
        ((∃ f, (a.answer m).1 = .error f) ∨ m.command = "disconnect")) ∧
      (∀ number h, a.happen number h = ([], a)) ∧
      (∀ w, (∃ f, (a.rebind w).1 = .error f) ∧ (a.rebind w).2 = (a.openLink w).2) ∧
      ∀ later, OnlyOpens a (run s (stimuli ++ later))) := by
  intro a
  have sound := sound_run s stimuli
  refine ⟨by rw [sound.linked], fun i => (a.response i).proceeds.lifecycle, ?told,
    fun ended => ?after⟩
  case told =>
    refine Nat.le_trans sound.ended ?_
    split <;> decide
  case after =>
    have finished := sound.hasEnded ended
    refine ⟨finished.answer, finished.happen, finished.rebind, fun later => ?_⟩
    rw [run_append]
    exact finished.foldl_respond later

end DebugBridge.Adapter
