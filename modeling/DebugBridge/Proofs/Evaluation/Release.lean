import DebugBridge.Proofs.Evaluation.Pace
import DebugBridge.Proofs.Gate.Queue

/-!
# When the code of an evaluation goes out

A line of code that is sent while the interpreter is busy is queued. The wait for its result looks
for a busy prompt and the next ready one, and does not look whether the code has gone out by then.
It has exactly if the interpreter was ready when the code was sent, or if a ready prompt released it
before the busy prompt that is taken for its run (`counts_own_run_iff`). Otherwise, if the wait
misses nothing, the prompt that releases the code ends the wait, and the result is the output of
whatever ran before (`collects_foreign_output`).
-/

namespace DebugBridge

theorem Notice.voids_of_calm {n : Notice} (calm : n.isFatal = false) :
    n.voids = fun _ => false := by
  cases n with
  | error | ended => cases calm
  | prompt | saved | other => rfl

/-- Code is void after an error and after the end of the session. -/
theorem Notice.voids_of_runsCode {n : Notice} {c : Command} (fatal : n.isFatal)
    (code : c.runsCode) : n.voids c := by
  cases n with
  | error => exact code
  | ended => rfl
  | prompt | saved | other => cases fatal

theorem Notice.isReady_of_isFatal {n : Notice} (fatal : n.isFatal) : n.isReady = false := by
  cases n with
  | error | ended => rfl
  | prompt | saved | other => cases fatal

theorem Evaluation.isGated_command (text : String) : (command text).isGated := by
  change (!"Execute".startsWith "Reply") = true
  decide +kernel

namespace Gate
variable {g g' : Gate} {c : Command} {m : Message} {messages : List Message}

/-- The gated commands that are written or queued. -/
def accepted (g : Gate) : List Command := g.written.filter Command.isGated ++ g.queue

/-- A gated command sent at one gate has been written at a later one, behind all that was accepted
before it. -/
def HasWritten (g : Gate) (c : Command) (g' : Gate) : Prop :=
  g.accepted ++ [c] <+: g'.written.filter Command.isGated

/-- One of the messages is a ready prompt at which no write fails, and neither an error nor the end
of the session comes before it. -/
def Releases : Gate → List Message → Prop
  | _, [] => False
  | g, m :: rest =>
    m.notice.isReady ∧ (g.hear m).failed = g.failed ∨
      m.notice.isFatal = false ∧ Releases (g.hear m) rest

theorem releases_append {a b : List Message} (calm : ∀ m ∈ a, m.notice.isFatal = false) :
    g.Releases (a ++ b) ↔ g.Releases a ∨ (g.hearAll a).Releases b := by
  induction a generalizing g with
  | nil => simp [Releases, hearAll]
  | cons m a ih =>
    rw [List.forall_mem_cons] at calm
    rw [List.cons_append, Releases, Releases, ih calm.2, or_assoc]
    simp [calm.1, hearAll]

theorem not_releases (h : ∀ m ∈ messages, m.notice.isReady = false) : ¬ g.Releases messages := by
  induction messages generalizing g with
  | nil => exact id
  | cons m rest ih =>
    rw [List.forall_mem_cons] at h
    rintro (⟨ready, -⟩ | ⟨-, later⟩)
    · rw [h.1] at ready
      cases ready
    · exact ih h.2 later

namespace Step
variable {deed : Deed} {wrote failed : List Command}

theorem accepted_eq (step : Step g deed wrote failed g') (gated : g.QueueGated) :
    g'.accepted = g.written.filter Command.isGated ++ deed.enqueue g.queue := by
  rw [accepted, step.written_eq, List.filter_append, List.append_assoc, step.account gated]

/-- The queue gets empty only at a ready prompt at which no write fails. -/
theorem queue_eq_nil_iff (step : Step g (.heard m) wrote failed g')
    (calm : m.notice.isFatal = false) :
    g'.queue = [] ↔ g.queue = [] ∨ m.notice.isReady ∧ failed = [] := by
  cases step with
  | busy notice busy => simp [notice, Notice.isReady, busy]
  | ready notice ready => simp [notice, Notice.isReady, ready]
  | stall notice _ cut => simp [cut]
  | release notice w => simp [notice, Notice.isReady, w.queue]
  | fault notice | finish notice =>
    rw [notice] at calm
    cases calm
  | idle notice => simp [notice, Notice.isReady]

end Step

theorem queue_hear (g : Gate) (calm : m.notice.isFatal = false) :
    (g.hear m).queue = [] ↔ g.queue = [] ∨ m.notice.isReady ∧ (g.hear m).failed = g.failed := by
  obtain ⟨wrote, failed, step⟩ := g.step_hear m
  rw [step.queue_eq_nil_iff calm, step.failed_eq]
  simp

/-! ## What hearing leaves of what was accepted -/

theorem queueGated_hear (gated : g.QueueGated) (m : Message) : (g.hear m).QueueGated := by
  obtain ⟨wrote, failed, step⟩ := g.step_hear m
  exact step.queueGated gated

theorem queueGated_hearAll (gated : g.QueueGated) (messages : List Message) :
    (g.hearAll messages).QueueGated := by
  induction messages generalizing g with
  | nil => exact gated
  | cons m rest ih => exact ih (queueGated_hear gated m)

theorem accepted_hear (gated : g.QueueGated) (m : Message) :
    (g.hear m).accepted =
      g.written.filter Command.isGated ++ g.queue.filter (!m.notice.voids ·) := by
  obtain ⟨wrote, failed, step⟩ := g.step_hear m
  exact step.accepted_eq gated

/-- Nothing is accepted by hearing. -/
theorem accepted_hearAll_sublist (gated : g.QueueGated) (messages : List Message) :
    (g.hearAll messages).accepted.Sublist g.accepted := by
  induction messages generalizing g with
  | nil => exact List.Sublist.refl _
  | cons m rest ih =>
    have now : (g.hear m).accepted.Sublist g.accepted := by
      rw [accepted_hear gated]
      exact (List.Sublist.refl _).append List.filter_sublist
    exact (ih (queueGated_hear gated m)).trans now

theorem written_hearAll_prefix (g : Gate) (messages : List Message) :
    g.written <+: (g.hearAll messages).written := by
  induction messages generalizing g with
  | nil => exact List.prefix_rfl
  | cons m rest ih =>
    obtain ⟨wrote, failed, step⟩ := g.step_hear m
    exact (step.written_eq ▸ List.prefix_append _ _).trans (ih (g.hear m))

/-- What has been written stays written. -/
theorem HasWritten.hearAll (h : g.HasWritten c g') (messages : List Message) :
    g.HasWritten c (g'.hearAll messages) :=
  h.trans ((g'.written_hearAll_prefix messages).filter _)

/-! ## From the sending to the writing -/

/-- A gated command sent at one gate is, at a later one, the last that was accepted. -/
structure Accepts (g : Gate) (c : Command) (g' : Gate) : Prop where
  accepted : g'.accepted = g.accepted ++ [c]
  gated : g'.QueueGated

namespace Accepts

/-- The last command is written when nothing is queued any more. -/
theorem hasWritten_iff (h : Accepts g c g') : g.HasWritten c g' ↔ g'.queue = [] := by
  rw [HasWritten, ← h.accepted, Gate.accepted]
  constructor
  · intro whole
    have short := whole.length_le
    rw [List.length_append] at short
    exact List.eq_nil_of_length_eq_zero (by omega)
  · intro none
    simp [none]

theorem hear (h : Accepts g c g') (calm : m.notice.isFatal = false) :
    Accepts g c (g'.hear m) := by
  refine ⟨?_, queueGated_hear h.gated m⟩
  rw [accepted_hear h.gated, Notice.voids_of_calm calm, ← h.accepted]
  simp [Gate.accepted]

theorem hearAll (h : Accepts g c g') (calm : ∀ m ∈ messages, m.notice.isFatal = false) :
    Accepts g c (g'.hearAll messages) := by
  induction messages generalizing g' with
  | nil => exact h
  | cons m rest ih =>
    rw [List.forall_mem_cons] at calm
    exact ih (h.hear calm.1) calm.2

/-- As long as the command is queued, it is the last in the queue. -/
theorem mem_queue (h : Accepts g c g') (waits : g'.queue ≠ []) : c ∈ g'.queue := by
  have last := congrArg List.getLast? h.accepted
  rw [Gate.accepted, List.getLast?_append, List.getLast?_concat,
    List.getLast?_eq_some_getLast waits, Option.some_or] at last
  exact Option.some.inj last ▸ List.getLast_mem waits

/-- Code that is queued at an error or at the end of the session is never written. -/
theorem not_hasWritten_of_fatal (h : Accepts g c g') (code : c.runsCode) (waits : g'.queue ≠ [])
    (fatal : m.notice.isFatal) (rest : List Message) :
    ¬ g.HasWritten c ((g'.hear m).hearAll rest) := by
  intro whole
  have void := Notice.voids_of_runsCode fatal code
  have fewer : (g'.queue.filter (!m.notice.voids ·)).length < g'.queue.length :=
    List.length_filter_lt_length_iff_exists.mpr ⟨c, h.mem_queue waits, by simp [void]⟩
  have later := (accepted_hearAll_sublist (queueGated_hear h.gated m) rest).length_le
  have all := congrArg List.length h.accepted
  have short := whole.length_le
  rw [accepted_hear h.gated] at later
  simp only [Gate.accepted, List.length_append, List.length_singleton] at later all short
  omega

/-- When code that was accepted has been written. -/
theorem hasWritten_hearAll_iff (h : Accepts g c g') (code : c.runsCode) :
    g.HasWritten c (g'.hearAll messages) ↔ g'.queue = [] ∨ g'.Releases messages := by
  induction messages generalizing g' with
  | nil => exact h.hasWritten_iff.trans (by simp [Releases])
  | cons m rest ih =>
    rw [Releases]
    by_cases none : g'.queue = []
    · exact iff_of_true ((h.hasWritten_iff.mpr none).hearAll (m :: rest)) (.inl none)
    by_cases fatal : m.notice.isFatal
    · refine iff_of_false (h.not_hasWritten_of_fatal code none fatal rest) ?_
      simp [none, fatal, Notice.isReady_of_isFatal fatal]
    · rw [Bool.not_eq_true] at fatal
      refine (ih (h.hear fatal)).trans ?_
      rw [queue_hear g' fatal, or_assoc]
      simp [fatal]

end Accepts

/-- A gated command is queued if the interpreter is busy, and otherwise written with all that is
queued. -/
theorem accepts_send {s : Sent} (gated : g.QueueGated) (hc : c.isGated)
    (sent : (g.send c).1 = .ok s) :
    Accepts g c (g.send c).2 ∧ ((g.send c).2.queue = [] ↔ ¬ g.isBusy) := by
  obtain ⟨wrote, failed, step⟩ := g.step_send c
  rw [sent] at step
  constructor
  · refine ⟨?_, step.queueGated gated⟩
    rw [step.accepted_eq gated, Deed.enqueue, if_pos hc, ← List.append_assoc]
    rfl
  · have wait : ¬ c.isUrgent := by simpa [Command.isGated] using hc
    generalize (g.send c).2 = g' at step
    cases step with
    | wait _ busy => simp [busy]
    | drain _ ready => simp [ready]
    | hold => exact absurd rfl wait
    | save => exact absurd rfl wait
    | pass urgent => exact absurd urgent wait

/-- When a line of code that was accepted has been written. -/
theorem hasWritten_code_iff {text : String} {s : Sent} (gated : g.QueueGated)
    (sent : (g.send (Evaluation.command text)).1 = .ok s) (messages : List Message) :
    g.HasWritten (Evaluation.command text)
        ((g.send (Evaluation.command text)).2.hearAll messages) ↔
      ¬ g.isBusy ∨ (g.send (Evaluation.command text)).2.Releases messages := by
  obtain ⟨accepts, none⟩ := accepts_send gated (Evaluation.isGated_command text) sent
  rw [accepts.hasWritten_hearAll_iff rfl, none]

/-- Messages come in before the writing or after it. -/
theorem exists_split (g : Gate) (c : Command) (g' : Gate) (ds : List Delivery) :
    ∃ early late, ds = early ++ late ∧
      ∀ n < ds.length, n < early.length ↔
        ¬ g.HasWritten c (g'.hearAll (Delivery.messages (ds.take n))) := by
  induction ds generalizing g' with
  | nil => exact ⟨[], [], rfl, by simp⟩
  | cons d rest ih =>
    by_cases written : g.HasWritten c g'
    · -- What has been written stays so, and all that is left comes behind the writing.
      refine ⟨[], d :: rest, rfl, fun n _ => iff_of_false (Nat.not_lt_zero n) (not_not_intro ?_)⟩
      exact written.hearAll _
    · obtain ⟨early, late, rfl, split⟩ := ih (g'.hear d.message)
      refine ⟨d :: early, late, rfl, fun n hn => ?_⟩
      cases n with
      | zero => simpa [hearAll, Delivery.messages] using written
      | succ n =>
        rw [List.length_cons, Nat.add_lt_add_iff_right] at hn ⊢
        exact split n hn

end Gate

open Delivery (heard messages)

namespace Course
variable {course : Course}

/-- Where nothing is lost before the end of the wait, no message up to the end makes it fail. -/
theorem Runs.calm_messages (runs : course.Runs) (kept : ∀ d ∈ course.early, d.kept) :
    ∀ m ∈ messages (course.early ++ [course.ended]), m.notice.isFatal = false := by
  have all : ∀ d ∈ course.early ++ [course.ended], d.kept :=
    List.forall_mem_append.mpr ⟨kept, by simpa using runs.kept_ended⟩
  intro m mem
  obtain ⟨d, inside, rfl⟩ := List.mem_map.mp mem
  exact Delivery.notice_of_kept (all d inside) ▸ runs.calm d inside

/-- Then no ready prompt comes between the two prompts that decide the result. -/
theorem Runs.releases_early (runs : course.Runs) (kept : ∀ d ∈ course.early, d.kept) (g : Gate) :
    g.Releases (messages course.early) ↔ g.Releases (messages course.before) := by
  have calm := runs.calm_messages kept
  rw [early, Delivery.messages_append, Delivery.messages_append] at calm
  rw [early, Delivery.messages_append, Gate.releases_append fun m mem =>
    calm m (List.mem_append_left _ (List.mem_append_left _ mem)), or_iff_left]
  rw [early, List.forall_mem_append, List.forall_mem_cons] at kept
  refine Gate.not_releases (List.forall_mem_cons.mpr ⟨?_, fun m mem => ?_⟩)
  · exact Notice.isReady_of_isBusy (Delivery.notice_of_kept runs.kept_began ▸ runs.began)
  · obtain ⟨d, inside, rfl⟩ := List.mem_map.mp mem
    exact Delivery.notice_of_kept (kept.2.2 d inside) ▸ (runs.during d inside).2

/-- The ready prompt that ends the wait releases what no prompt before it has released, unless a
write fails. -/
theorem Runs.releases_ended (runs : course.Runs) (kept : ∀ d ∈ course.early, d.kept) (g : Gate) :
    g.Releases (messages (course.early ++ [course.ended])) ↔
      g.Releases (messages course.early) ∨
        (g.hearAll (messages (course.early ++ [course.ended]))).failed =
          (g.hearAll (messages course.early)).failed := by
  have calm := runs.calm_messages kept
  rw [Delivery.messages_append] at calm ⊢
  have ready := Delivery.notice_of_kept runs.kept_ended ▸ runs.ended
  rw [Gate.releases_append fun m mem => calm m (List.mem_append_left _ mem), Gate.hearAll_append]
  simp [Delivery.messages, Gate.Releases, Gate.hearAll, ready]

end Course

namespace Conversation
variable {wire : Wire} {turns : List Turn} {c : Conversation} {text out : String} {patience : Nat}
  {beats : List Beat}

/-- The interpreter is running code. -/
def atWork : Conversation := (Transcript.run .sound [.dispatch busyPrompt]).conversation

/-- A wait that has a result has run through a course. By the busy prompt that is taken for the
beginning of the run, the code has gone out exactly if the interpreter was ready when the code was
sent or if a ready prompt before that busy one released it. If nothing that comes before the end of
the wait is lost to it, the code goes out by no prompt in between; in the other case the prompt that
ends the wait is then the one that releases the code, unless a write fails. -/
theorem counts_own_run_iff (reached : Gate.Run wire turns c.gate)
    (result : (c.evaluateAlong text patience beats).1 = .ok out) :
    let code := Evaluation.command text
    let sent := (c.gate.send code).2
    let deliveries := (c.attend text).2.deliveries beats
    (c.evaluateAlong text patience beats).2.gate = sent.hearAll (Beat.incoming beats) ∧
    messages deliveries = Beat.incoming beats ∧
    (∃ course : Course, course.Runs ∧ course.deliveries = deliveries ∧
      out = Message.outputs (heard course.early)) ∧
    ∀ course : Course, course.Runs → course.deliveries = deliveries →
      (c.gate.HasWritten code (sent.hearAll (messages course.before)) ↔
        ¬ c.gate.isBusy ∨ sent.Releases (messages course.before)) ∧
      ((∀ d ∈ course.early, d.kept) →
        (c.gate.HasWritten code (sent.hearAll (messages course.early)) ↔
          c.gate.HasWritten code (sent.hearAll (messages course.before))) ∧
        (c.gate.HasWritten code (sent.hearAll (messages (course.early ++ [course.ended]))) ↔
          c.gate.HasWritten code (sent.hearAll (messages course.before)) ∨
            (sent.hearAll (messages (course.early ++ [course.ended]))).failed =
              (sent.hearAll (messages course.early)).failed)) := by
  intro code sent deliveries
  obtain ⟨⟨s, accepted⟩, course, same, runs, rfl⟩ := exists_course result
  have written (part : List Message) :=
    Gate.hasWritten_code_iff reached.queueGated (accepted : (c.gate.send code).1 = .ok s) part
  refine ⟨c.gate_evaluateAlong text patience beats, Attendance.messages_deliveries _ beats,
    ⟨course, runs, same, rfl⟩, fun course runs same => ⟨written _, fun kept => ⟨?_, ?_⟩⟩⟩
  · rw [written, written, runs.releases_early kept]
  · rw [written, written, runs.releases_ended kept, runs.releases_early kept, or_assoc]

/-- Code that a ready prompt releases before the next busy one is the code that is waited for. -/
theorem released_code_counts :
    let code := Evaluation.command "1+1"
    let sent := (atWork.gate.send code).2
    let beats := [.arrive (.payload readyPrompt), .take, .arrive (.payload busyPrompt),
      .arrive (.payload (printed "2")), .arrive (.payload readyPrompt)]
    let course : Course := ⟨[⟨.ofPayload readyPrompt, true⟩], ⟨.ofPayload busyPrompt, true⟩,
      [⟨.ofPayload (printed "2"), true⟩], ⟨.ofPayload readyPrompt, true⟩, []⟩
    (atWork.evaluateAlong "1+1" 1000 beats).1 = .ok "2" ∧
      course.Runs ∧ course.deliveries = (atWork.attend "1+1").2.deliveries beats ∧
      atWork.gate.HasWritten code (sent.hearAll (messages course.before)) := by
  intro code sent beats course
  have result : (atWork.evaluateAlong "1+1" 1000 beats).1 = .ok "2" := by decide +kernel
  have runs : course.Runs := by constructor <;> decide +kernel
  have kept : ∀ d ∈ (atWork.attend "1+1").2.deliveries beats, d.kept := by decide +kernel
  have same : course.deliveries = (atWork.attend "1+1").2.deliveries beats := by
    rw [Delivery.eq_map_of_kept kept, Attendance.messages_deliveries]
    rfl
  have ready : (Message.ofPayload readyPrompt).notice.isReady := by decide +kernel
  have fine : (sent.hear (.ofPayload readyPrompt)).failed.isEmpty ∧ sent.failed.isEmpty := by
    decide +kernel
  have unfailed := (List.isEmpty_iff.mp fine.1).trans (List.isEmpty_iff.mp fine.2).symm
  refine ⟨result, runs, same, ?_⟩
  exact ((counts_own_run_iff (Transcript.gate_run .sound [.dispatch busyPrompt]) result).2.2.2
    course runs same).1.mpr (.inr (.inl ⟨ready, unfailed⟩))

/-- Where the busy prompt is repeated first, the prompt that releases the code ends the wait, and
the code runs behind the result. -/
theorem release_ends_wait :
    let code := Evaluation.command "1+1"
    let sent := (atWork.gate.send code).2
    let arrivals := [busyPrompt, readyPrompt]
    let course : Course :=
      ⟨[], ⟨.ofPayload busyPrompt, true⟩, [], ⟨.ofPayload readyPrompt, true⟩, []⟩
    (atWork.evaluate "1+1" 1000 (arrivals.map .payload)).1 = .ok "" ∧
      course.Runs ∧ messages course.deliveries = arrivals.map .ofPayload ∧
      ¬ atWork.gate.HasWritten code (sent.hearAll (messages course.before)) ∧
      ¬ atWork.gate.HasWritten code (sent.hearAll (messages course.early)) := by
  refine ⟨by decide +kernel, by constructor <;> decide +kernel, rfl, ?_, ?_⟩
  · exact fun written => absurd written.length_le (by decide +kernel)
  · exact fun written => absurd written.length_le (by decide +kernel)

/-- The result is the output of the messages that the wait hears before the code goes out, if there
are any, and of those that it hears behind. It is the output of the latter alone exactly if the
former bring none, in particular if the interpreter was ready when the code was sent. -/
theorem collects_foreign_output (reached : Gate.Run wire turns c.gate)
    (result : (c.evaluateAlong text patience beats).1 = .ok out) :
    let code := Evaluation.command text
    let sent := (c.gate.send code).2
    let deliveries := (c.attend text).2.deliveries beats
    (c.evaluateAlong text patience beats).2.gate = sent.hearAll (Beat.incoming beats) ∧
    messages deliveries = Beat.incoming beats ∧
    ∃ course : Course, course.Runs ∧ course.deliveries = deliveries ∧
      ∃ early late, course.early = early ++ late ∧
        (∀ n < course.early.length, n < early.length ↔
          ¬ c.gate.HasWritten code (sent.hearAll (messages (course.early.take n)))) ∧
        out = Message.outputs (heard early) ++ Message.outputs (heard late) ∧
        (out = Message.outputs (heard late) ↔ ∀ m ∈ heard early, m.output = "") ∧
        (¬ c.gate.isBusy → early = []) := by
  intro code sent deliveries
  obtain ⟨⟨s, accepted⟩, course, same, runs, rfl⟩ := exists_course result
  obtain ⟨early, late, cut, split⟩ := c.gate.exists_split code sent course.early
  refine ⟨c.gate_evaluateAlong text patience beats, Attendance.messages_deliveries _ beats,
    course, runs, same, early, late, cut, split, ?_, ?_, ?_⟩
  · rw [cut, Delivery.heard_append, Message.outputs_append]
  · rw [cut, Delivery.heard_append, Message.outputs_append, ← Message.outputs_eq_empty]
    simp
  · intro ready
    have gone : c.gate.HasWritten code (sent.hearAll (messages (course.early.take 0))) :=
      (Gate.hasWritten_code_iff reached.queueGated accepted _).mpr (.inl ready)
    have first := split 0 (by rw [Course.early, List.length_append, List.length_cons]; omega)
    have none : ¬ 0 < early.length := fun some => first.mp some gone
    exact List.eq_nil_of_length_eq_zero (by omega)

/-- What other code prints before the code goes out comes first in the result. -/
theorem foreign_output_first :
    let code := Evaluation.command "1+1"
    let sent := (atWork.gate.send code).2
    let beats := [.arrive (.payload (printed "foreign")), .arrive (.payload readyPrompt), .take,
      .arrive (.payload busyPrompt), .arrive (.payload (printed "2")),
      .arrive (.payload readyPrompt)]
    (atWork.evaluateAlong "1+1" 1000 beats).1 = .ok "foreign2" ∧
      ∃ course : Course, course.Runs ∧
        course.deliveries = (atWork.attend "1+1").2.deliveries beats ∧
        ∃ early late, course.early = early ++ late ∧
          (∀ n < course.early.length, n < early.length ↔
            ¬ atWork.gate.HasWritten code (sent.hearAll (messages (course.early.take n)))) ∧
          "foreign2" = Message.outputs (heard early) ++ Message.outputs (heard late) := by
  intro code sent beats
  have result : (atWork.evaluateAlong "1+1" 1000 beats).1 = .ok "foreign2" := by decide +kernel
  obtain ⟨-, -, course, runs, same, early, late, cut, split, out, -⟩ := collects_foreign_output
    (Transcript.gate_run .sound [.dispatch busyPrompt]) result
  exact ⟨result, course, runs, same, early, late, cut, split, out⟩

/-- So the result of a line of code need not be its own. -/
theorem foreign_output_in_result :
    let code := Evaluation.command "1+1"
    let sent := (atWork.gate.send code).2
    let foreign := printed "foreign"
    (atWork.evaluate "1+1" 1000 [.payload foreign, .payload readyPrompt, .payload busyPrompt,
        .payload (printed "mine"), .payload readyPrompt]).1 = .ok "foreignmine" ∧
      (Message.ofPayload foreign).output = "foreign" ∧
      ¬ atWork.gate.HasWritten code (sent.hearAll [.ofPayload foreign]) := by
  refine ⟨by decide +kernel, by decide +kernel, ?_⟩
  exact fun written => absurd written.length_le (by decide +kernel)

end Conversation
end DebugBridge
