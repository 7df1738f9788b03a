import DebugBridge.Proofs.Evaluation.Release

/-!
# What a failed evaluation leaves behind

An evaluation that fails gives up its wait, but not its place in the queue. If its code was queued
and the wait runs out of time or loses its link, the code stays where it is until the next ready
prompt, or the next command that is sent while the interpreter is ready, takes it along
(`failed_code_left_iff`). In every other case nothing of it is left: a send that fails takes its
code back, and an error or the end of the session makes it void.
-/

namespace DebugBridge

/-- The gated command that is accepted by a deed, if there is one. -/
def Deed.taken : Deed → List Command
  | .sent c (.ok _) => if c.isGated then [c] else []
  | .sent _ (.error _) | .heard _ => []

theorem Deed.enqueue_sublist (deed : Deed) (queue : List Command) :
    (deed.enqueue queue).Sublist (queue ++ deed.taken) := by
  rcases deed with ⟨c, f | s⟩ | m
  · simp [enqueue, taken]
  · by_cases gated : c.isGated <;> simp [enqueue, taken, gated]
  · simp [enqueue, taken]

/-- The gated commands that are accepted in turns, in order. -/
def Turn.taken (turns : List Turn) : List Command := turns.reverse.flatMap fun t => t.deed.taken

namespace Gate
variable {g g' : Gate} {c : Command} {messages : List Message}

/-- A gated command sent at one gate is still queued at a later one, behind all that was accepted
before it. -/
def Leaves (g : Gate) (c : Command) (g' : Gate) : Prop :=
  ∃ waiting, g'.queue = waiting ++ [c] ∧
    g'.written.filter Command.isGated ++ waiting = g.accepted

/-- One of the messages is a ready prompt at which no write fails. -/
def Flushes : Gate → List Message → Prop
  | _, [] => False
  | g, m :: rest => m.notice.isReady ∧ (g.hear m).failed = g.failed ∨ Flushes (g.hear m) rest

/-- The turns by which one gate leads to another, the latest first. -/
inductive Leads (g : Gate) : List Turn → Gate → Prop
  | none : Leads g [] g
  | turn {turns h deed wrote failed h'} (before : Leads g turns h)
      (step : Step h deed wrote failed h') :
      Leads g (⟨deed, h.queue, wrote, failed⟩ :: turns) h'

/-! ## Later turns -/

/-- What goes out of the gated commands in later turns was queued before them, or is sent in
them. -/
theorem Leads.written_sublist {later : List Turn} (leads : g.Leads later g')
    (gated : g.QueueGated) :
    ((later.reverse.flatMap Turn.wrote).filter Command.isGated ++ g'.queue).Sublist
      (g.queue ++ Turn.taken later) ∧ g'.QueueGated := by
  induction leads with
  | none => exact ⟨by simp, gated⟩
  | @turn turns h deed wrote failed h' before step ih =>
    obtain ⟨earlier, gated'⟩ := ih
    refine ⟨?_, step.queueGated gated'⟩
    let done := (turns.reverse.flatMap Turn.wrote).filter Command.isGated
    have now : (done ++ deed.enqueue h.queue).Sublist (done ++ (h.queue ++ deed.taken)) :=
      (List.Sublist.refl done).append (deed.enqueue_sublist h.queue)
    have all := earlier.append (List.Sublist.refl deed.taken)
    simp only [List.append_assoc] at all
    simp only [Turn.taken, List.reverse_cons, List.flatMap_append, List.flatMap_singleton,
      List.filter_append, List.append_assoc, step.account gated']
    exact now.trans all

/-! ## Hearing shrinks the queue -/

theorem queue_hearAll (calm : ∀ m ∈ messages, m.notice.isFatal = false) :
    (g.hearAll messages).queue = [] ↔ g.queue = [] ∨ g.Flushes messages := by
  induction messages generalizing g with
  | nil => simp [hearAll, Flushes]
  | cons m rest ih =>
    rw [List.forall_mem_cons] at calm
    exact (ih calm.2).trans (by rw [queue_hear g calm.1, Flushes, or_assoc])

theorem queue_hear_sublist (gated : g.QueueGated) (m : Message) :
    (g.hear m).queue.Sublist (g.queue.filter (!m.notice.voids ·)) := by
  obtain ⟨wrote, failed, step⟩ := g.step_hear m
  have account := step.account gated
  rw [Deed.enqueue] at account
  rw [← account]
  exact List.sublist_append_right _ _

theorem queue_hearAll_sublist (gated : g.QueueGated) (messages : List Message) :
    (g.hearAll messages).queue.Sublist g.queue := by
  induction messages generalizing g with
  | nil => exact List.Sublist.refl _
  | cons m rest ih =>
    have now := (queue_hear_sublist gated m).trans List.filter_sublist
    exact (ih (queueGated_hear gated m)).trans now

/-- Behind an error or the end of the session no code is queued that was queued before. -/
theorem runsCode_of_fatal (gated : g.QueueGated) {m : Message} (hm : m ∈ messages)
    (fatal : m.notice.isFatal) : ∀ x ∈ (g.hearAll messages).queue, ¬ x.runsCode := by
  obtain ⟨before, rest, rfl⟩ := List.append_of_mem hm
  intro x hx code
  rw [hearAll_append] at hx
  have gated' := queueGated_hearAll gated before
  have here : x ∈ ((g.hearAll before).hear m).queue :=
    (queue_hearAll_sublist (queueGated_hear gated' m) rest).subset hx
  have kept := (List.mem_filter.mp ((queue_hear_sublist gated' m).subset here)).2
  simp [Notice.voids_of_runsCode fatal code] at kept

/-! ## Code that is left -/

theorem Accepts.leaves_iff (h : Accepts g c g') : g.Leaves c g' ↔ g'.queue ≠ [] := by
  have accepted := h.accepted
  rw [Gate.accepted] at accepted
  constructor
  · rintro ⟨waiting, queue, -⟩ none
    simp [queue] at none
  · intro some
    have split := List.dropLast_concat_getLast some
    rw [← split, ← List.append_assoc] at accepted
    obtain ⟨whole, last⟩ := List.append_inj' accepted rfl
    refine ⟨g'.queue.dropLast, ?_, whole⟩
    rw [← last]
    exact split.symm

theorem Leaves.accepted (h : g.Leaves c g') : g'.accepted = g.accepted ++ [c] := by
  obtain ⟨waiting, queue, account⟩ := h
  rw [Gate.accepted, queue, ← List.append_assoc, account]

theorem Leaves.mem_queue (h : g.Leaves c g') : c ∈ g'.queue := by
  obtain ⟨waiting, queue, -⟩ := h
  simp [queue]

/-- A gated command whose send fails is not taken, and the interpreter was ready. -/
theorem send_error {f : Failure} (gated : g.QueueGated) (hc : c.isGated)
    (failed : (g.send c).1 = .error f) :
    (g.send c).2.accepted = g.accepted ∧ (g.send c).2.queue.Sublist g.queue ∧
      (g.send c).2.QueueGated ∧ ¬ g.isBusy := by
  obtain ⟨wrote, lost, step⟩ := g.step_send c
  rw [failed] at step
  have account := step.account gated
  rw [Deed.enqueue] at account
  refine ⟨step.accepted_eq gated, ?_, step.queueGated gated, ?_⟩
  · rw [← account]
    exact List.sublist_append_right _ _
  · have wait : ¬ c.isUrgent := by simpa [Command.isGated] using hc
    generalize (g.send c).2 = g' at step
    cases step with
    | refuse urgent => exact absurd urgent wait
    | stop _ ready => exact ready

/-- While the interpreter is busy, a gated command is queued. -/
theorem send_of_busy (hc : c.isGated) (busy : g.isBusy) : (g.send c).1 = .ok .queued := by
  have wait : ¬ c.isUrgent := by simpa [Command.isGated] using hc
  obtain ⟨wrote, failed, step⟩ := g.step_send c
  generalize (g.send c).1 = outcome at step
  generalize (g.send c).2 = g' at step
  cases step with
  | wait => rfl
  | drain _ ready | stop _ ready => exact absurd busy ready
  | pass urgent | refuse urgent => exact absurd urgent wait
  | hold | save => exact absurd rfl wait

/-- Code that is left goes out at a ready prompt at which no write fails. -/
theorem Leaves.hasWritten_hear {m : Message} (h : g.Leaves c g') (gated : g'.QueueGated)
    (ready : m.notice.isReady) (fine : (g'.hear m).failed = g'.failed) :
    g.HasWritten c (g'.hear m) := by
  have calm : m.notice.isFatal = false := by
    cases found : m.notice with
    | prompt | saved | other => rfl
    | error | ended => simp [found, Notice.isReady] at ready
  have kept : Accepts g c (g'.hear m) := Accepts.hear ⟨h.accepted, gated⟩ calm
  exact kept.hasWritten_iff.mpr ((queue_hear g' calm).mpr (.inr ⟨ready, fine⟩))

/-- It goes out in front of a command that is sent while the interpreter is ready. -/
theorem Leaves.hasWritten_send {next : Command} {s : Sent} (h : g.Leaves c g')
    (gated : g'.QueueGated) (hn : next.isGated) (ready : ¬ g'.isBusy)
    (ok : (g'.send next).1 = .ok s) : g.HasWritten c (g'.send next).2 := by
  obtain ⟨accepts, none⟩ := accepts_send gated hn ok
  have written := accepts.accepted
  rw [h.accepted, Gate.accepted, none.mpr ready, List.append_nil] at written
  rw [HasWritten, written]
  exact List.prefix_append _ _

theorem queue_send_sublist (gated : g.QueueGated) :
    (g.send c).2.queue.Sublist (g.queue ++ [c]) := by
  obtain ⟨wrote, failed, step⟩ := g.step_send c
  have account := step.account gated
  have shrunk : (g.send c).2.queue.Sublist ((Deed.sent c (g.send c).1).enqueue g.queue) := by
    rw [← account]
    exact List.sublist_append_right _ _
  refine shrunk.trans ((Deed.enqueue_sublist _ g.queue).trans ?_)
  refine (List.Sublist.refl _).append ?_
  rcases (g.send c).1 with f | s
  · exact List.nil_sublist _
  · rw [Deed.taken]
    split
    · exact List.Sublist.refl _
    · exact List.nil_sublist _

/-- Code is left exactly if it was queued and neither released nor made void. Otherwise nothing is
queued that was not queued before the code was sent. -/
theorem leaves_hearAll_iff (gated : g.QueueGated) (hc : c.isGated) (code : c.runsCode)
    (messages : List Message) :
    let sent := (g.send c).2
    (g.Leaves c (sent.hearAll messages) ↔
      g.isBusy ∧ (∀ m ∈ messages, m.notice.isFatal = false) ∧ ¬ sent.Flushes messages) ∧
    (¬ g.Leaves c (sent.hearAll messages) → (sent.hearAll messages).queue.Sublist g.queue) := by
  intro sent
  cases outcome : (g.send c).1 with
  | error f =>
    obtain ⟨same, shrunk, gated', ready⟩ := send_error gated hc outcome
    have gone : ¬ g.Leaves c (sent.hearAll messages) := by
      intro left
      have short := (accepted_hearAll_sublist gated' messages).length_le
      rw [left.accepted, same, List.length_append, List.length_singleton] at short
      omega
    refine ⟨iff_of_false gone fun h => ready h.1, fun _ => ?_⟩
    exact (queue_hearAll_sublist gated' messages).trans shrunk
  | ok s =>
    obtain ⟨accepts, none⟩ := accepts_send gated hc outcome
    by_cases calm : ∀ m ∈ messages, m.notice.isFatal = false
    · have kept := accepts.hearAll calm
      have left : g.Leaves c (sent.hearAll messages) ↔ g.isBusy ∧ ¬ sent.Flushes messages := by
        rw [kept.leaves_iff, Ne, queue_hearAll calm, none]
        tauto
      refine ⟨left.trans ⟨fun h => ⟨h.1, calm, h.2⟩, fun h => ⟨h.1, h.2.2⟩⟩, fun gone => ?_⟩
      have nothing : (sent.hearAll messages).queue = [] := by
        rw [kept.leaves_iff] at gone
        exact not_not.mp gone
      rw [nothing]
      exact List.nil_sublist _
    · push Not at calm
      obtain ⟨m, hm, fatal⟩ := calm
      rw [Ne, Bool.not_eq_false] at fatal
      have void := runsCode_of_fatal accepts.gated hm fatal
      refine ⟨iff_of_false (fun left => void c left.mem_queue code) fun h => ?_, fun _ => ?_⟩
      · simp [h.2.1 m hm] at fatal
      · -- What is queued now is no code, and the code sent is all that came in new.
        have old := (queue_hearAll_sublist accepts.gated messages).trans (queue_send_sublist gated)
        have harmless : (sent.hearAll messages).queue.filter (!·.runsCode) =
            (sent.hearAll messages).queue := List.filter_eq_self.mpr (by simpa using void)
        rw [← harmless]
        refine (old.filter _).trans ?_
        simp [code]

end Gate

/-! ## The wait -/

/-- A wait that hears neither an error nor the end of the session does not fail by what it hears. -/
theorem Evaluation.hear_of_calm (e : Evaluation) {m : Message} (calm : m.notice.isFatal = false) :
    ∀ f, e.hear m ≠ .done (.error f) := by
  intro f
  rw [hear_eq]
  cases found : m.notice with
  | prompt p =>
    dsimp only
    split
    · simp
    · split <;> simp
  | saved | other => simp
  | error | ended => simp [found, Notice.isFatal] at calm

theorem Evaluation.hearAll_of_calm {e : Evaluation} {messages : List Message}
    (calm : ∀ m ∈ messages, m.notice.isFatal = false) :
    ∀ f, e.hearAll messages ≠ .done (.error f) := by
  induction messages generalizing e with
  | nil => simp [hearAll]
  | cons m rest ih =>
    rw [List.forall_mem_cons] at calm
    intro f
    rw [hearAll_cons]
    cases heard : e.hear m with
    | waiting e' => exact ih calm.2 f
    | done result =>
      intro failed
      exact e.hear_of_calm calm.1 f (heard.trans failed)

namespace Attendance
variable {w : Attendance}

/-- Nothing that the evaluation has heard or is going to hear makes it fail. -/
structure Unharmed (w : Attendance) : Prop where
  progress : ∀ f, w.progress ≠ .done (.error f)
  buffer : ∀ s, w.box? = some s → ∀ m ∈ s.buffer, m.notice.isFatal = false

theorem Unharmed.take (h : w.Unharmed) : w.take.Unharmed := by
  unfold Attendance.take
  split
  case h_2 | h_3 => exact h
  case h_1 e m feed waits next =>
    unfold Feed.next? at next
    split at next
    case h_1 => cases next
    case h_2 s box =>
      obtain ⟨bound, -⟩ := List.getElem?_eq_some_iff.mp box
      split at next
      case h_1 => cases next
      case h_2 first rest left =>
        obtain ⟨rfl, rfl⟩ := Prod.mk.inj (Option.some.inj next)
        have calm := h.buffer s box
        rw [left, List.forall_mem_cons] at calm
        cases heard : e.hear first with
        | waiting e' =>
          refine ⟨by simp [note], fun s' box' => ?_⟩
          have same : { s with buffer := rest } = s' := by
            simpa [note, box?, withFeed, bound] using box'
          rw [← same]
          exact calm.2
        | done result =>
          refine ⟨?_, fun s' box' => ?_⟩
          · intro f failed
            refine e.hear_of_calm calm.1 f ?_
            rw [heard]
            exact failed
          · have empty : s'.buffer = [] := by
              simp [note, leave, box?, withFeed, Feed.leave, bound] at box'
              rw [← box']
            rw [empty]
            simp

theorem Unharmed.arrive (h : w.Unharmed) (a : Arrival)
    (calm : ∀ m, (Beat.arrive a).message? = some m → m.notice.isFatal = false) :
    (w.beat (.arrive a)).Unharmed := by
  refine ⟨h.progress, fun s' box' => ?_⟩
  cases a with
  | hangUp =>
    simp only [beat, box?, Conversation.arrive, Feed.close, List.getElem?_map,
      Option.map_eq_some_iff] at box'
    obtain ⟨s, box, rfl⟩ := box'
    exact h.buffer s box
  | payload text =>
    simp only [beat, box?, Conversation.arrive, Conversation.dispatch, Feed.publish,
      List.getElem?_map, Option.map_eq_some_iff] at box'
    obtain ⟨s, box, rfl⟩ := box'
    have old := h.buffer s box
    have new := calm (.ofPayload text) rfl
    intro m hm
    unfold Subscriber.offer at hm
    split at hm
    · exact old m hm
    split at hm
    · exact old m hm
    split at hm
    · exact old m hm
    · rcases List.mem_append.mp hm with hm | hm
      · exact old m hm
      · rw [List.mem_singleton.mp hm]
        exact new

theorem Unharmed.foldl_beat {beats : List Beat} (h : w.Unharmed)
    (calm : ∀ m ∈ Beat.incoming beats, m.notice.isFatal = false) :
    (beats.foldl beat w).Unharmed := by
  induction beats generalizing w with
  | nil => exact h
  | cons b rest ih =>
    rw [Beat.incoming, List.filterMap_cons] at calm
    rw [List.foldl_cons]
    match b with
    | .take => exact ih h.take calm
    | .arrive .hangUp => exact ih (h.arrive .hangUp (by simp [Beat.message?])) calm
    | .arrive (.payload text) =>
      rw [Beat.message?, List.forall_mem_cons] at calm
      refine ih (h.arrive (.payload text) fun m mem => ?_) calm.2
      rw [← Option.some.inj mem]
      exact calm.1

/-- A wait that is not made to fail by what it hears fails only by running out of time or by losing
its link. -/
theorem Unharmed.finish (h : w.Unharmed) {patience : Nat} {f : Failure}
    (failed : (w.finish patience).1 = .error f) :
    f = Evaluation.timedOut patience ∨ f = Evaluation.linkClosed := by
  have sound : ∀ g, w.progress.hearAll (w.conversation.feed.take w.number).1 ≠
      .done (.error g) := by
    have calm : ∀ m ∈ (w.conversation.feed.take w.number).1, m.notice.isFatal = false := by
      unfold Feed.take
      split
      case h_1 => simp
      case h_2 s box => exact h.buffer s box
    intro g
    cases waits : w.progress with
    | waiting e => exact Evaluation.hearAll_of_calm calm g
    | done result =>
      rw [Evaluation.Progress.hearAll, ← waits]
      exact h.progress g
  rw [Attendance.finish] at failed
  dsimp only at failed
  generalize w.progress.hearAll _ = p at sound failed
  cases p with
  | done result => exact absurd (congrArg _ failed) (sound f)
  | waiting e =>
    simp only [Evaluation.Progress.result, Except.error.injEq] at failed
    rw [← failed]
    split
    · exact .inl rfl
    · exact .inr rfl

end Attendance

namespace Conversation
variable {wire : Wire} {turns : List Turn} {c : Conversation} {text : String} {patience : Nat}
  {beats : List Beat} {f : Failure}

/-- Without an error and the end of the session, an evaluation whose code was accepted fails only by
running out of time or by losing its link. -/
theorem failure_of_calm (calm : ∀ m ∈ Beat.incoming beats, m.notice.isFatal = false)
    {s : Sent} (sent : (c.gate.send (Evaluation.command text)).1 = .ok s)
    (failed : (c.evaluateAlong text patience beats).1 = .error f) :
    f = Evaluation.timedOut patience ∨ f = Evaluation.linkClosed := by
  have fresh : (c.attend text).2.Unharmed := by
    refine ⟨by simp [attend], fun s' box => ?_⟩
    have empty : s'.buffer = [] := by
      simp [attend, Attendance.box?, Feed.subscribe, send] at box
      rw [← box]
      rfl
    rw [empty]
    simp
  have accepted : (c.attend text).1 = .ok s := sent
  unfold evaluateAlong at failed
  generalize c.attend text = attended at fresh accepted failed
  obtain ⟨outcome, w⟩ := attended
  cases accepted
  exact (fresh.foldl_beat calm).finish failed

/-- The code of an evaluation that fails is left in the queue exactly if it was queued, neither an
error nor the end of the session came in, and no ready prompt released it. Then the wait ran out of
time or lost its link, and the code runs later: the next ready prompt takes it along, and so does
the next command that is sent while the interpreter is ready. In all other cases nothing of it is
left, so whatever goes out later was queued before it or is sent later. -/
theorem failed_code_left_iff (reached : Gate.Run wire turns c.gate)
    (failed : (c.evaluateAlong text patience beats).1 = .error f) :
    let code := Evaluation.command text
    let sent := (c.gate.send code).2
    let after := (c.evaluateAlong text patience beats).2.gate
    let messages := Beat.incoming beats
    (c.gate.Leaves code after ↔
      c.gate.isBusy ∧ (∀ m ∈ messages, m.notice.isFatal = false) ∧ ¬ sent.Flushes messages) ∧
    (c.gate.Leaves code after →
      (f = Evaluation.timedOut patience ∨ f = Evaluation.linkClosed) ∧
      (∀ m, m.notice.isReady → (after.hear m).failed = after.failed →
        c.gate.HasWritten code (after.hear m)) ∧
      ∀ next s, next.isGated → ¬ after.isBusy → (after.send next).1 = .ok s →
        c.gate.HasWritten code (after.send next).2) ∧
    (¬ c.gate.Leaves code after →
      after.queue.Sublist c.gate.queue ∧
      ∀ later g, after.Leads later g →
        ((later.reverse.flatMap Turn.wrote).filter Command.isGated ++ g.queue).Sublist
          (c.gate.queue ++ Turn.taken later)) := by
  intro code sent after messages
  have same : after = sent.hearAll messages := c.gate_evaluateAlong text patience beats
  have gated := Evaluation.isGated_command text
  obtain ⟨left, gone⟩ := Gate.leaves_hearAll_iff reached.queueGated gated rfl messages
  rw [← same] at left gone
  have sentGated : sent.QueueGated := by
    obtain ⟨_, _, step⟩ := c.gate.step_send code
    exact step.queueGated reached.queueGated
  have gated' : after.QueueGated := same ▸ Gate.queueGated_hearAll sentGated messages
  refine ⟨left, fun h => ?_, fun h => ⟨gone h, fun later g leads => ?_⟩⟩
  · obtain ⟨busy, calm, -⟩ := left.mp h
    refine ⟨failure_of_calm calm (Gate.send_of_busy gated busy) failed, ?_, ?_⟩
    · intro m ready fine
      exact h.hasWritten_hear gated' ready fine
    · intro next s nextGated ready ok
      exact h.hasWritten_send gated' nextGated ready ok
  · exact (leads.written_sublist gated').1.trans ((gone h).append (List.Sublist.refl _))

/-- Code that an error in the code before it makes void is not left. -/
theorem void_code_not_left :
    let complaint := "[\"HadError\",\x7b\"message\":\"DOMAIN ERROR\"\x7d]"
    let beats := [.arrive (.payload complaint), .take]
    let after := (atWork.evaluateAlong "1+1" 1000 beats).2.gate
    (atWork.evaluateAlong "1+1" 1000 beats).1 = .error (.plain "DOMAIN ERROR") ∧
      ¬ atWork.gate.Leaves (Evaluation.command "1+1") after ∧
      after.queue.Sublist atWork.gate.queue := by
  intro complaint beats after
  have failed : (atWork.evaluateAlong "1+1" 1000 beats).1 = .error (.plain "DOMAIN ERROR") := by
    decide +kernel
  obtain ⟨left, -, gone⟩ :=
    failed_code_left_iff (Transcript.gate_run .sound [.dispatch busyPrompt]) failed
  have void : ¬ atWork.gate.Leaves (Evaluation.command "1+1") after := by
    intro h
    have calm := (left.mp h).2.1 (.ofPayload complaint) (List.mem_singleton.mpr rfl)
    exact absurd calm (by decide +kernel)
  exact ⟨failed, void, (gone void).1⟩

/-- Code whose wait runs out of time while it is queued is reported as failed, stays in the queue
and is written at the next ready prompt. -/
theorem timed_out_code_runs_later :
    let code := Evaluation.command "1+1"
    let after := (atWork.evaluate "1+1" 1000 []).2.gate
    (atWork.evaluate "1+1" 1000 []).1 = .error (Evaluation.timedOut 1000) ∧
      after.wire.outlet.sent = [] ∧
      after.queue.map Command.payload = [code.payload] ∧
      (after.hear (.ofPayload readyPrompt)).wire.outlet.sent = [code.payload] := by
  refine ⟨?_, ?_, ?_, ?_⟩ <;> decide +kernel

end Conversation
end DebugBridge
