import DebugBridge.Link.Evaluation
import DebugBridge.Proofs.Gate.Step

/-!
# The course of an evaluation

To a wait a message is a busy prompt, a ready prompt, output, or the end with a failure; one that
was lost to it is nothing. A wait that has a result has come through three stretches of messages:
those before the first busy prompt, those from there to the next ready prompt, and those behind it,
which it no longer hears. The result is the output of the first two stretches, as far as it was
heard.
-/

namespace DebugBridge

namespace Notice

/-- A prompt at which the interpreter is running code. -/
def isBusy : Notice → Bool
  | .prompt p => Command.isBusyPrompt p
  | .saved _ | .error | .ended | .other => false

/-- A prompt at which the interpreter is ready. -/
def isReady : Notice → Bool
  | .prompt p => !Command.isBusyPrompt p
  | .saved _ | .error | .ended | .other => false

/-- The prompt that a wait needs next: a ready one if it has seen a busy one. -/
def turns (seenBusy : Bool) (n : Notice) : Bool := if seenBusy then n.isReady else n.isBusy

/-- An error or the end of the session. With these a wait fails. -/
def isFatal : Notice → Bool
  | .error | .ended => true
  | .prompt _ | .saved _ | .other => false

variable {n : Notice}

theorem isReady_of_isBusy (h : n.isBusy) : n.isReady = false := by
  cases n with
  | prompt => exact congrArg not h
  | saved | error | ended | other => rfl

/-- What turns a wait is a prompt. -/
theorem exists_prompt_of_turns (seen : Bool) (h : n.turns seen) : ∃ p, n = .prompt p := by
  cases n with
  | prompt p => exact ⟨p, rfl⟩
  | saved | error | ended | other => cases seen <;> cases h

end Notice

namespace Message

/-- The output that a message brings. Output of kind 14 repeats the input and counts as none. -/
def output : Message → String
  | .command (.appendSessionOutput o) => if o.kind = 14 then "" else o.result
  | _ => ""

theorem output_appended (o : Command.AppendSessionOutput) :
    (Message.command (.appendSessionOutput o)).output = if o.isEcho then "" else o.result := by
  simp [output, Command.AppendSessionOutput.isEcho]

/-- The text of an error of the code. -/
def complaint : Message → String
  | .command (.hadError h) => h.text
  | _ => ""

/-- The output of messages, in order. -/
def outputs : List Message → String
  | [] => ""
  | m :: rest => m.output ++ outputs rest

@[simp] theorem outputs_nil : outputs [] = "" := rfl

@[simp] theorem outputs_cons (m : Message) (rest : List Message) :
    outputs (m :: rest) = m.output ++ outputs rest := rfl

@[simp] theorem outputs_append (a b : List Message) :
    outputs (a ++ b) = outputs a ++ outputs b := by
  induction a with
  | nil => simp
  | cons m a ih => simp [ih, String.append_assoc]

theorem outputs_eq_empty {messages : List Message} :
    outputs messages = "" ↔ ∀ m ∈ messages, m.output = "" := by
  induction messages with
  | nil => simp
  | cons m rest ih => simp [ih]

/-- Only what is no notice brings output. -/
theorem output_of_notice {m : Message} (h : m.notice ≠ .other) : m.output = "" := by
  cases m with
  | raw => rfl
  | command c =>
    cases c with
    | appendSessionOutput => exact absurd rfl h
    | _ => rfl

theorem output_of_turns {m : Message} (seen : Bool) (h : m.notice.turns seen) :
    m.output = "" := by
  obtain ⟨p, found⟩ := Notice.exists_prompt_of_turns seen h
  exact output_of_notice (by simp [found])

end Message

namespace Evaluation

/-- What one message does to a wait. -/
theorem hear_eq (e : Evaluation) (m : Message) :
    e.hear m =
      match m.notice with
      | .prompt p =>
        if Command.isBusyPrompt p then .waiting { e with seenBusy := true }
        else if e.seenBusy then .done (.ok e.output)
        else .waiting e
      | .error => .done (.error (.plain (e.output ++ m.complaint)))
      | .ended => .done (.error (.plain "interpreter failed while evaluating"))
      | .saved _ | .other => .waiting { e with output := e.output ++ m.output } := by
  cases m with
  | raw => simp [hear, Message.notice, Message.output]
  | command c =>
    cases c with
    | appendSessionOutput o =>
      by_cases echo : o.isEcho <;> simp [hear, Message.notice, Message.output_appended, echo]
    | _ => simp [hear, Message.notice, Message.output, Message.complaint]

section hear
variable {m : Message} {seen : Bool} (output : String)

/-- The first busy prompt is noted. -/
theorem hear_busy (h : m.notice.isBusy) :
    (⟨false, output⟩ : Evaluation).hear m = .waiting ⟨true, output⟩ := by
  rw [hear_eq]
  cases found : m.notice with
  | prompt p =>
    rw [found] at h
    exact if_pos h
  | _ => simp [found, Notice.isBusy] at h

/-- The next ready prompt gives the result. -/
theorem hear_ready (h : m.notice.isReady) :
    (⟨true, output⟩ : Evaluation).hear m = .done (.ok output) := by
  rw [hear_eq]
  cases found : m.notice with
  | prompt p =>
    rw [found, Notice.isReady, Bool.not_eq_true'] at h
    simp [h]
  | _ => simp [found, Notice.isReady] at h

/-- Whatever else a wait survives brings output at most. -/
theorem hear_calm (calm : m.notice.isFatal = false ∧ m.notice.turns seen = false) :
    (⟨seen, output⟩ : Evaluation).hear m = .waiting ⟨seen, output ++ m.output⟩ := by
  obtain ⟨calm, same⟩ := calm
  rw [hear_eq]
  cases found : m.notice with
  | prompt p =>
    have none : m.output = "" := Message.output_of_notice (by simp [found])
    rw [found] at same
    cases seen <;> cases busy : Command.isBusyPrompt p <;>
      simp_all [Notice.turns, Notice.isBusy, Notice.isReady]
  | error | ended => simp [found, Notice.isFatal] at calm
  | saved | other => rfl

theorem hear_fatal (h : m.notice.isFatal) :
    ∃ f, (⟨seen, output⟩ : Evaluation).hear m = .done (.error f) := by
  rw [hear_eq]
  cases found : m.notice with
  | error | ended => exact ⟨_, rfl⟩
  | prompt | saved | other => simp [found, Notice.isFatal] at h

end hear

@[simp] theorem Progress.hearAll_nil (p : Progress) : p.hearAll [] = p := by
  cases p <;> rfl

theorem hearAll_cons (e : Evaluation) (m : Message) (rest : List Message) :
    e.hearAll (m :: rest) = (e.hear m).hearAll rest := by
  rw [hearAll]
  cases e.hear m <;> rfl

theorem hearAll_append (e : Evaluation) (a b : List Message) :
    e.hearAll (a ++ b) = (e.hearAll a).hearAll b := by
  induction a generalizing e with
  | nil => rfl
  | cons m a ih =>
    rw [List.cons_append, hearAll_cons, hearAll_cons]
    cases e.hear m with
    | waiting e => exact ih e
    | done => rfl

theorem Progress.hearAll_append (p : Progress) (a b : List Message) :
    p.hearAll (a ++ b) = (p.hearAll a).hearAll b := by
  cases p with
  | waiting e => exact e.hearAll_append a b
  | done => rfl

/-- A wait that goes on after some messages went on before. -/
theorem waiting_of_prefix {e e' : Evaluation} {part messages : List Message}
    (h : part <+: messages) (waits : e.hearAll messages = .waiting e') :
    ∃ before, e.hearAll part = .waiting before := by
  obtain ⟨rest, rfl⟩ := h
  rw [hearAll_append] at waits
  cases now : e.hearAll part with
  | waiting before => exact ⟨before, rfl⟩
  | done =>
    rw [now] at waits
    cases waits

/-- As long as nothing turns it, a wait collects the output. -/
theorem hearAll_calm {seen : Bool} {messages : List Message} (output : String)
    (calm : ∀ m ∈ messages, m.notice.isFatal = false ∧ m.notice.turns seen = false) :
    hearAll ⟨seen, output⟩ messages = .waiting ⟨seen, output ++ Message.outputs messages⟩ := by
  induction messages generalizing output with
  | nil => simp [hearAll]
  | cons m rest ih =>
    rw [List.forall_mem_cons] at calm
    rw [hearAll_cons, hear_calm output calm.1]
    exact (ih _ calm.2).trans (by rw [Message.outputs_cons, String.append_assoc])

end Evaluation

/-! ## Deliveries -/

/-- A message that comes in while an evaluation waits. -/
structure Delivery where
  message : Message
  /-- It finds room in the subscription of the evaluation. One that does not is lost to it. -/
  kept : Bool

namespace Delivery

/-- What the evaluation notices of the message. -/
def notice (d : Delivery) : Notice := if d.kept then d.message.notice else .other

def messages (ds : List Delivery) : List Message := ds.map message

/-- The messages that the evaluation hears. -/
def heard (ds : List Delivery) : List Message := messages (ds.filter kept)

variable {d : Delivery} {ds : List Delivery}

@[simp] theorem messages_append (a b : List Delivery) :
    messages (a ++ b) = messages a ++ messages b := List.map_append

@[simp] theorem heard_nil : heard [] = [] := rfl

theorem heard_cons (d : Delivery) (ds : List Delivery) :
    heard (d :: ds) = if d.kept then d.message :: heard ds else heard ds := by
  cases kept : d.kept <;> simp [heard, messages, kept]

@[simp] theorem heard_append (a b : List Delivery) : heard (a ++ b) = heard a ++ heard b := by
  simp [heard, messages]

/-- Where nothing is lost, everything is heard. -/
theorem heard_of_kept (kept : ∀ d ∈ ds, d.kept) : heard ds = messages ds := by
  rw [heard, List.filter_eq_self.mpr kept]

theorem eq_map_of_kept (kept : ∀ d ∈ ds, d.kept) : ds = (messages ds).map (⟨·, true⟩) := by
  induction ds with
  | nil => rfl
  | cons d ds ih =>
    rw [List.forall_mem_cons] at kept
    have same : d = ⟨d.message, true⟩ := congrArg (mk d.message) kept.1
    exact List.cons_eq_cons.mpr ⟨same, ih kept.2⟩

/-- What turns a wait was not lost to it. -/
theorem kept_of_turns (seen : Bool) (turns : d.notice.turns seen) : d.kept := by
  cases kept : d.kept with
  | true => rfl
  | false =>
    rw [notice, kept] at turns
    cases seen <;> cases turns

theorem notice_of_kept (kept : d.kept) : d.notice = d.message.notice := if_pos kept

end Delivery

namespace Evaluation

open Delivery (heard)

/-- As long as nothing turns it, a wait collects the output that it hears. -/
theorem hearAll_heard_calm {seen : Bool} {ds : List Delivery} (output : String)
    (calm : ∀ d ∈ ds, d.notice.isFatal = false ∧ d.notice.turns seen = false) :
    hearAll ⟨seen, output⟩ (heard ds) =
      .waiting ⟨seen, output ++ Message.outputs (heard ds)⟩ := by
  refine hearAll_calm output fun m mem => ?_
  obtain ⟨d, inside, rfl⟩ := List.mem_map.mp mem
  obtain ⟨among, kept⟩ := List.mem_filter.mp inside
  exact Delivery.notice_of_kept kept ▸ calm d among

/-- A wait comes to a result only over the prompt that it needs next. -/
theorem exists_turn {seen : Bool} {output result : String} {ds : List Delivery}
    (h : hearAll ⟨seen, output⟩ (heard ds) = .done (.ok result)) :
    ∃ calm d rest, ds = calm ++ d :: rest ∧
      (∀ x ∈ calm, x.notice.isFatal = false ∧ x.notice.turns seen = false) ∧
      d.notice.turns seen ∧
      (hear ⟨seen, output ++ Message.outputs (heard calm)⟩ d.message).hearAll (heard rest) =
        .done (.ok result) := by
  induction ds generalizing output with
  | nil => cases h
  | cons d rest ih =>
    rw [Delivery.heard_cons] at h
    by_cases kept : d.kept
    case neg =>
      rw [if_neg kept] at h
      obtain ⟨more, last, after, rfl, calm, turned, found⟩ := ih h
      have nothing : d.notice = .other := if_neg kept
      refine ⟨d :: more, last, after, rfl, List.forall_mem_cons.mpr ⟨?_, calm⟩, turned, ?_⟩
      · rw [nothing]
        exact ⟨rfl, by cases seen <;> rfl⟩
      · rwa [Delivery.heard_cons, if_neg kept]
    case pos =>
      rw [if_pos kept, hearAll_cons] at h
      have same := Delivery.notice_of_kept kept
      -- The first message that is not calm turns the wait, or it would have failed.
      by_cases fatal : d.message.notice.isFatal
      · obtain ⟨f, failed⟩ : ∃ f, (⟨seen, output⟩ : Evaluation).hear d.message = .done (.error f) :=
          hear_fatal output fatal
        rw [failed] at h
        cases h
      by_cases turn : d.message.notice.turns seen
      · exact ⟨[], d, rest, rfl, by simp, same ▸ turn, by simpa [heard, Delivery.messages] using h⟩
      · have calm : d.message.notice.isFatal = false ∧ d.message.notice.turns seen = false := by
          simpa using And.intro fatal turn
        rw [hear_calm output calm] at h
        obtain ⟨more, last, after, rfl, allCalm, turned, found⟩ := ih h
        refine ⟨d :: more, last, after, rfl, ?_, turned, ?_⟩
        · exact List.forall_mem_cons.mpr ⟨same ▸ calm, allCalm⟩
        · rwa [Delivery.heard_cons, if_pos kept, Message.outputs_cons, ← String.append_assoc]

end Evaluation

/-- What comes in during a wait that has a result, with the two prompts that decide it. -/
structure Course where
  /-- What comes before the interpreter is seen running code. -/
  before : List Delivery
  began : Delivery
  during : List Delivery
  ended : Delivery
  /-- What comes when there is a result. -/
  after : List Delivery

namespace Course

open Delivery (heard messages)

/-- What comes in before the message that ends the wait. -/
def early (c : Course) : List Delivery := c.before ++ c.began :: c.during

def deliveries (c : Course) : List Delivery := c.early ++ c.ended :: c.after

/-- The wait runs through the course: from the first busy prompt that it hears to the next ready
one. -/
structure Runs (c : Course) : Prop where
  before : ∀ d ∈ c.before, d.notice.isFatal = false ∧ d.notice.turns false = false
  began : c.began.notice.isBusy
  during : ∀ d ∈ c.during, d.notice.isFatal = false ∧ d.notice.turns true = false
  ended : c.ended.notice.isReady

variable {c : Course}

theorem Runs.kept_began (h : c.Runs) : c.began.kept := Delivery.kept_of_turns false h.began

theorem Runs.kept_ended (h : c.Runs) : c.ended.kept := Delivery.kept_of_turns true h.ended

theorem Runs.outputs_early (h : c.Runs) :
    Message.outputs (heard c.early) =
      Message.outputs (heard c.before) ++ Message.outputs (heard c.during) := by
  have none : c.began.message.output = "" :=
    Message.output_of_turns false (Delivery.notice_of_kept h.kept_began ▸ h.began)
  simp [early, Delivery.heard_cons, h.kept_began, none]

/-- At none of the messages up to the result the wait fails. -/
theorem Runs.calm (h : c.Runs) : ∀ d ∈ c.early ++ [c.ended], d.notice.isFatal = false := by
  have prompt {d : Delivery} (seen : Bool) (turn : d.notice.turns seen) :
      d.notice.isFatal = false := by
    obtain ⟨p, found⟩ := Notice.exists_prompt_of_turns seen turn
    rw [found]
    rfl
  simp only [early, List.forall_mem_append, List.forall_mem_cons]
  exact ⟨⟨fun d hd => (h.before d hd).1, prompt false h.began, fun d hd => (h.during d hd).1⟩,
    prompt true h.ended, by simp⟩

/-- Before the message that ends it, the wait goes on. -/
theorem Runs.hearAll_early (h : c.Runs) :
    Evaluation.start.hearAll (heard c.early) =
      .waiting ⟨true, Message.outputs (heard c.early)⟩ := by
  have began := Delivery.notice_of_kept h.kept_began ▸ h.began
  rw [h.outputs_early, early, Delivery.heard_append, Evaluation.hearAll_append, Evaluation.start,
    Evaluation.hearAll_heard_calm _ h.before, Evaluation.Progress.hearAll, Delivery.heard_cons,
    if_pos h.kept_began, Evaluation.hearAll_cons, Evaluation.hear_busy _ began,
    Evaluation.Progress.hearAll, Evaluation.hearAll_heard_calm _ h.during, String.empty_append]

theorem Runs.hear_ended (h : c.Runs) (output : String) :
    (⟨true, output⟩ : Evaluation).hear c.ended.message = .done (.ok output) :=
  Evaluation.hear_ready output (Delivery.notice_of_kept h.kept_ended ▸ h.ended)

theorem Runs.hearAll_deliveries (h : c.Runs) :
    Evaluation.start.hearAll (heard c.deliveries) =
      .done (.ok (Message.outputs (heard c.early))) := by
  rw [deliveries, Delivery.heard_append, Evaluation.hearAll_append, h.hearAll_early,
    Evaluation.Progress.hearAll, Delivery.heard_cons, if_pos h.kept_ended, Evaluation.hearAll_cons,
    h.hear_ended]
  rfl

/-- A wait has a result exactly if it runs through a course, and the result is the output of what it
hears. -/
theorem hearAll_eq_done_iff {ds : List Delivery} {result : String} :
    Evaluation.start.hearAll (heard ds) = .done (.ok result) ↔
      ∃ c : Course, c.deliveries = ds ∧ c.Runs ∧ result = Message.outputs (heard c.early) := by
  constructor
  · intro h
    obtain ⟨before, began, rest, rfl, calm, busy, found⟩ := Evaluation.exists_turn h
    have kept := Delivery.kept_of_turns false busy
    rw [Evaluation.hear_busy _ (Delivery.notice_of_kept kept ▸ busy)] at found
    obtain ⟨during, ended, after, rfl, calm', ready, found⟩ := Evaluation.exists_turn found
    have runs : Runs ⟨before, began, during, ended, after⟩ := ⟨calm, busy, calm', ready⟩
    have same : Course.deliveries ⟨before, began, during, ended, after⟩ =
        before ++ began :: (during ++ ended :: after) := by
      simp [Course.deliveries, early]
    refine ⟨⟨before, began, during, ended, after⟩, same, runs, ?_⟩
    rw [← same, runs.hearAll_deliveries] at h
    simpa using h.symm
  · rintro ⟨c, rfl, runs, rfl⟩
    exact runs.hearAll_deliveries

end Course

/-- Of messages that are all heard, a wait that has a result ends at a ready prompt, and the result
is the output of those before it. -/
theorem Evaluation.exists_end {ms : List Message} {result : String}
    (h : start.hearAll ms = .done (.ok result)) :
    ∃ early ended after, ms = early ++ ended :: after ∧
      start.hearAll early = .waiting ⟨true, Message.outputs early⟩ ∧ ended.notice.isReady ∧
      result = Message.outputs early := by
  have whole : Delivery.heard (ms.map (⟨·, true⟩)) = ms := by
    simp [Delivery.heard, Delivery.messages, List.filter_map, Function.comp_def]
  rw [← whole] at h
  obtain ⟨c, cut, runs, rfl⟩ := Course.hearAll_eq_done_iff.mp h
  have kept : ∀ d ∈ c.early, d.kept := by
    have all : ∀ d ∈ ms.map (Delivery.mk · true), d.kept := by simp
    rw [← cut] at all
    exact fun d mem => all d (List.mem_append_left _ mem)
  have waits := runs.hearAll_early
  have ready := Delivery.notice_of_kept runs.kept_ended ▸ runs.ended
  rw [Delivery.heard_of_kept kept] at waits ⊢
  refine ⟨_, c.ended.message, Delivery.messages c.after, ?_, waits, ready, rfl⟩
  have split := congrArg Delivery.messages cut
  simpa [Course.deliveries, Delivery.messages, Function.comp_def] using split.symm

end DebugBridge
