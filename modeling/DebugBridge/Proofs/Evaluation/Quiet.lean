import DebugBridge.Proofs.Desktop.History
import DebugBridge.Proofs.Evaluation.Pace
import DebugBridge.Proofs.Gate.Transcript

/-!
# The quiet wait of an evaluation

While the adapter awaits an evaluation of its own, the desktop keeps output from the host. It does
not ask the evaluation when that ends: it watches the prompts itself. An evaluation and a quiet wait
that begin together are in step at every message (`quietFor_hear`), so all output goes either into
the result or to the host (`output_split`).
-/

namespace DebugBridge

/-- The text that an event adds to the standard output of the host. -/
def Host.Event.stdout : Host.Event → String
  | .output .stdout text => text
  | .output .console _ | .output .stderr _ | .initialized | .stopped .. | .terminated => ""

/-- The text that events add to the standard output of the host. -/
def Host.stdout : List Host.Event → String
  | [] => ""
  | e :: rest => e.stdout ++ stdout rest

@[simp] theorem Host.stdout_append (a b : List Host.Event) :
    stdout (a ++ b) = stdout a ++ stdout b := by
  induction a with
  | nil => simp [stdout]
  | cons e a ih => simp [stdout, ih, String.append_assoc]

namespace Quiet

/-- What a notice does to a quiet wait: prompts alone matter. -/
def hear (q : Quiet) : Notice → Quiet
  | .prompt p => q.prompt p
  | .saved _ | .error | .ended | .other => q

theorem hear_none (n : Notice) : none.hear n = none := by
  cases n <;> rfl

/-- When nothing is awaited, nothing has been seen of it either. -/
def IsFresh (q : Quiet) : Prop := q.pending = 0 → q = none

variable {q : Quiet}

theorem isFresh_giveUp (q : Quiet) : q.giveUp.IsFresh := by
  intro idle
  simp only [giveUp] at idle ⊢
  simp [idle, none]

theorem IsFresh.hear (h : q.IsFresh) (n : Notice) : (q.hear n).IsFresh := by
  cases n with
  | prompt p =>
    rw [Quiet.hear, prompt]
    split
    case isTrue => exact h
    case isFalse awaits =>
      split
      case isTrue => exact fun idle => absurd idle awaits
      case isFalse =>
        split
        case isTrue => exact fun idle => congrArg (Quiet.mk · false) idle
        case isFalse => exact h
  | saved | error | ended | other => exact h

end Quiet

namespace Desktop

/-- Hears messages, one after another. -/
def hearAll (d : Desktop) (messages : List Message) : Desktop :=
  messages.foldl (fun d m => (d.hear m).1) d

/-- What the host is told because of messages. -/
def told : Desktop → List Message → List Host.Event
  | _, [] => []
  | d, m :: rest => (d.hear m).2.events ++ told (d.hear m).1 rest

variable (d : Desktop)

theorem hearAll_append (a b : List Message) : d.hearAll (a ++ b) = (d.hearAll a).hearAll b :=
  List.foldl_append

theorem told_append (a b : List Message) : d.told (a ++ b) = d.told a ++ (d.hearAll a).told b := by
  induction a generalizing d with
  | nil => rfl
  | cons m a ih =>
    rw [List.cons_append, told, ih, told, List.append_assoc]
    rfl

/-! ## One message -/

theorem quiet_openWindow (w : Command.Window) : (d.openWindow w).1.quiet = d.quiet := by
  have appears : (d.appear w).1.quiet = d.quiet := by
    unfold appear
    split <;> rfl
  rw [openWindow_eq]
  split <;> exact appears

theorem stdout_openWindow (w : Command.Window) : Host.stdout (d.openWindow w).2.events = "" := by
  rw [events_openWindow, appear]
  split <;> rfl

theorem quiet_reselect (window : Int64) : (d.reselect window).quiet = d.quiet := by
  unfold reselect
  split <;> rfl

theorem quiet_startTracing (window : Int64) : (d.startTracing window).quiet = d.quiet := by
  unfold startTracing
  split <;> rfl

theorem quiet_stopTracing (window : Int64) : (d.stopTracing window).quiet = d.quiet := by
  unfold stopTracing
  split
  case h_1 => rfl
  case h_2 => exact quiet_reselect _ _

theorem quiet_highlight (h : Command.SetHighlightLine) : (d.highlight h).1.quiet = d.quiet := by
  unfold highlight
  split <;> rfl

/-- Only prompts change a quiet wait. -/
theorem quiet_hear (m : Message) : (d.hear m).1.quiet = d.quiet.hear m.notice := by
  cases m with
  | raw => rfl
  | command c =>
    cases c with
    | openWindow w => exact d.quiet_openWindow w
    | closeWindow r => exact quiet_reselect _ _
    | setHighlightLine h => exact d.quiet_highlight h
    | windowTypeChanged c =>
      rw [hear, hearCommand]
      split
      · exact d.quiet_startTracing c.win
      · exact d.quiet_stopTracing c.win
    | _ => rfl

/-- The host sees the output of a message unless it is kept from it. -/
theorem stdout_hear (m : Message) :
    Host.stdout (d.hear m).2.events = if d.quiet.hides then "" else m.output := by
  cases m with
  | raw => simp [hear, Effects.none, Host.stdout, Message.output]
  | command c =>
    cases c with
    | openWindow w =>
      refine (d.stdout_openWindow w).trans ?_
      simp [Message.output]
    | windowTypeChanged c =>
      rw [hear, hearCommand]
      split <;> simp [Effects.none, Host.stdout, Message.output]
    | appendSessionOutput o =>
      cases echo : o.isEcho <;> cases hidden : d.quiet.hides <;>
        simp [hear, hearCommand, Effects.none, Effects.ofEvent, Host.stdout, Host.Event.stdout,
          Message.output_appended, echo, hidden]
    | _ =>
      simp [hear, hearCommand, highlight, stop, Effects.none, Effects.ofEvent, Effects.ending,
        Host.stdout, Host.Event.stdout, Message.output]

/-! ## In step -/

/-- The quiet wait that belongs to an evaluation under way. -/
def quietFor (e : Evaluation) : Quiet := ⟨1, e.seenBusy⟩

/-- An evaluation and its quiet wait hear a message alike. Only a failure is not noticed by the
quiet wait; it is given up then. -/
theorem quietFor_hear (e : Evaluation) (m : Message) :
    (quietFor e).hear m.notice =
      match e.hear m with
      | .waiting e' => quietFor e'
      | .done (.ok _) => .none
      | .done (.error _) => quietFor e := by
  rw [Evaluation.hear_eq]
  cases m.notice with
  | prompt p =>
    by_cases busy : Command.isBusyPrompt p
    · simp [Quiet.hear, Quiet.prompt, quietFor, busy]
    · by_cases seen : e.seenBusy
      · simp [Quiet.hear, Quiet.prompt, quietFor, busy, seen, Quiet.none]
      · simp [Quiet.hear, Quiet.prompt, quietFor, busy, seen]
  | error | ended | saved | other => rfl

/-! ## Message after message -/

variable {d : Desktop}

/-- While the evaluation goes on, its quiet wait does so and nothing is printed. -/
theorem quiet_of_waiting {e e' : Evaluation} {messages : List Message}
    (together : d.quiet = quietFor e) (waits : e.hearAll messages = .waiting e') :
    (d.hearAll messages).quiet = quietFor e' ∧ Host.stdout (d.told messages) = "" := by
  induction messages generalizing d e with
  | nil =>
    cases waits
    exact ⟨together, rfl⟩
  | cons m rest ih =>
    rw [Evaluation.hearAll_cons] at waits
    have step := quietFor_hear e m
    cases now : e.hear m with
    | done result =>
      rw [now] at waits
      cases waits
    | waiting next =>
      rw [now] at waits step
      obtain ⟨quiet, silent⟩ := ih (by rw [quiet_hear, together, step]) waits
      refine ⟨quiet, ?_⟩
      rw [told, Host.stdout_append, silent, stdout_hear, together]
      rfl

/-- While no evaluation is awaited, everything is printed. -/
theorem quiet_of_none (idle : d.quiet = .none) (messages : List Message) :
    (d.hearAll messages).quiet = .none ∧
      Host.stdout (d.told messages) = Message.outputs messages := by
  induction messages generalizing d with
  | nil => exact ⟨idle, rfl⟩
  | cons m rest ih =>
    have still : (d.hear m).1.quiet = .none := by rw [quiet_hear, idle, Quiet.hear_none]
    obtain ⟨quiet, printed⟩ := ih still
    refine ⟨quiet, ?_⟩
    rw [told, Host.stdout_append, printed, stdout_hear, idle]
    rfl

theorem isFresh_ofHistory (history : List Input) : (ofHistory history).quiet.IsFresh := by
  induction history with
  | nil => exact fun _ => rfl
  | cons i earlier ih =>
    cases i with
    | message m =>
      rw [ofHistory, after, quiet_hear]
      exact ih.hear m.notice
    | request source lines =>
      obtain ⟨deferred, same⟩ := (ofHistory earlier).after_request source lines
      rw [ofHistory, same]
      exact ih
    | awaited => exact fun idle => absurd idle (Nat.succ_ne_zero _)
    | givenUp => exact Quiet.isFresh_giveUp _
    | reordered order =>
      obtain ⟨tracers, -, same⟩ := (ofHistory earlier).after_reordered order
      rw [ofHistory, same]
      exact ih

/-- The wait for a result and the quiet wait that begins with it end at the same message. Up to
there all output goes into the result and none to the host, and from there on all goes to the host;
so in the end each piece of output has reached one of them. -/
theorem output_split {history : List Input} (idle : (ofHistory history).quiet.pending = 0)
    {c : Conversation} {text out : String} {patience : Nat} {beats : List Beat}
    (kept : (c.attend text).2.keepsUp beats)
    (result : (c.evaluateAlong text patience beats).1 = .ok out) :
    let d := ofHistory (.awaited :: history)
    let messages := Beat.incoming beats
    out ++ Host.stdout (d.told messages) = Message.outputs messages ∧
    ∃ heard ended after, messages = heard ++ ended :: after ∧
      Evaluation.start.hearAll (heard ++ [ended]) = .done (.ok out) ∧
      (∀ part, part <+: heard →
        (∃ e, Evaluation.start.hearAll part = .waiting e) ∧ (d.hearAll part).quiet.pending = 1) ∧
      (∀ part, part <+: after → (d.hearAll (heard ++ ended :: part)).quiet.pending = 0) ∧
      out = Message.outputs heard ∧ Host.stdout (d.told messages) = Message.outputs after := by
  intro d messages
  have came := Conversation.hearAll_incoming kept result
  obtain ⟨heard, ended, after, same, waits, ready, rfl⟩ := Evaluation.exists_end came
  change messages = heard ++ ended :: after at same
  have decides : (⟨true, Message.outputs heard⟩ : Evaluation).hear ended =
      .done (.ok (Message.outputs heard)) := Evaluation.hear_ready _ ready
  have mute : ended.output = "" := Message.output_of_turns true ready
  have together : d.quiet = quietFor .start := congrArg Quiet.start (isFresh_ofHistory history idle)
  obtain ⟨quiet, silent⟩ := quiet_of_waiting together waits
  have finished : ((d.hearAll heard).hear ended).1.quiet = .none := by
    rw [quiet_hear, quiet, quietFor_hear, decides]
  have last : Host.stdout ((d.hearAll heard).hear ended).2.events = "" := by
    rw [stdout_hear, quiet]
    rfl
  have printed : Host.stdout (d.told messages) = Message.outputs after := by
    rw [same, told_append, told, Host.stdout_append, Host.stdout_append, silent, last,
      (quiet_of_none finished after).2, String.empty_append, String.empty_append]
  refine ⟨?_, heard, ended, after, same, ?_, ?_, ?_, rfl, printed⟩
  · rw [printed, same, Message.outputs_append, Message.outputs_cons, mute, String.empty_append]
  · rw [Evaluation.hearAll_append, waits, Evaluation.Progress.hearAll, Evaluation.hearAll_cons,
      decides]
    rfl
  · intro part early
    obtain ⟨e, still⟩ := Evaluation.waiting_of_prefix early waits
    exact ⟨⟨e, still⟩, congrArg Quiet.pending (quiet_of_waiting together still).1⟩
  · intro part _
    rw [hearAll_append]
    exact congrArg Quiet.pending (quiet_of_none finished part).1

/-- A line of code and what it prints, with more output behind it. -/
theorem output_split_behind_result :
    let d := ofHistory [.awaited]
    let beats := [.arrive (.payload busyPrompt), .take, .arrive (.payload (printed "2")),
      .arrive (.payload readyPrompt), .arrive (.payload (printed "later"))]
    (ofHistory []).quiet.pending = 0 ∧
      ((Conversation.ofWire .sound).attend "1+1").2.keepsUp beats ∧
      ((Conversation.ofWire .sound).evaluateAlong "1+1" 1000 beats).1 = .ok "2" ∧
      "2" ++ Host.stdout (d.told (Beat.incoming beats)) =
        Message.outputs (Beat.incoming beats) ∧
      Message.outputs (Beat.incoming beats) = "2later" := by
  intro d beats
  have kept : ((Conversation.ofWire .sound).attend "1+1").2.keepsUp beats := by decide +kernel
  have result : ((Conversation.ofWire .sound).evaluateAlong "1+1" 1000 beats).1 = .ok "2" := by
    decide +kernel
  exact ⟨rfl, kept, result, (output_split rfl kept result).1, by decide +kernel⟩

end Desktop
end DebugBridge
