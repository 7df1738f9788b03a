import DebugBridge.Proofs.Gate.Transcript

/-!
# The account of the queue

Every gated command that was accepted is written, queued or struck out, in the order in which the
commands were sent. The ledger keeps this account from the turns alone: a command is entered when
it is accepted, and struck out when a message makes it void while it is queued.
-/

namespace DebugBridge

/-- Commands that wait for a prompt at which the interpreter is ready. -/
def Command.isGated (c : Command) : Bool := !c.isUrgent

/-- Whether a queued command is void after a message. -/
def Notice.voids : Notice → Command → Bool
  | .error, c => c.runsCode
  | .ended, _ => true
  | _, _ => false

/-- What a deed makes of the queue, whatever goes out. -/
def Deed.enqueue : Deed → List Command → List Command
  | .sent c (.ok _), queue => if c.isGated then queue ++ [c] else queue
  | .sent _ (.error _), queue => queue
  | .heard m, queue => queue.filter (!m.notice.voids ·)

theorem Deed.mem_enqueue {deed : Deed} {queue : List Command} {c : Command}
    (h : c ∈ deed.enqueue queue) : c ∈ queue ∨ c.isGated := by
  rcases deed with ⟨d, f | s⟩ | m
  · exact .inl h
  · by_cases gated : d.isGated
    · simp only [enqueue, gated, if_true, List.mem_append, List.mem_singleton] at h
      rcases h with old | rfl
      · exact .inl old
      · exact .inr gated
    · simp only [enqueue, gated, if_false, Bool.false_eq_true] at h
      exact .inl h
  · exact .inl (List.mem_filter.mp h).1

/-- Strikes out the void ones among the commands at the end of a list. -/
def strike (void : Command → Bool) (queued owed : List Command) : List Command :=
  owed.take (owed.length - queued.length) ++ queued.filter (!void ·)

/-- The gated commands that were accepted and not struck out, in the order sent. -/
def ledger : List Turn → List Command
  | [] => []
  | ⟨.sent c (.ok _), _, _, _⟩ :: earlier =>
    if c.isGated then ledger earlier ++ [c] else ledger earlier
  | ⟨.sent _ (.error _), _, _, _⟩ :: earlier => ledger earlier
  | ⟨.heard m, queued, _, _⟩ :: earlier => strike m.notice.voids queued (ledger earlier)

/-- A turn changes the ledger only at its end, and there as it changes the queue. -/
theorem ledger_cons {deed : Deed} {queued wrote failed done : List Command} {earlier : List Turn}
    (h : ledger earlier = done ++ queued) :
    ledger (⟨deed, queued, wrote, failed⟩ :: earlier) = done ++ deed.enqueue queued := by
  rcases deed with ⟨c, f | s⟩ | m
  · exact h
  · by_cases gated : c.isGated <;> simp [ledger, Deed.enqueue, gated, h]
  · simp [ledger, Deed.enqueue, strike, h]

namespace Command

theorem not_isGated_of_isUrgent {c : Command} (h : c.isUrgent) : c.isGated = false := by
  simp [isGated, h]

theorem isGated_of_not_isUrgent {c : Command} (h : ¬ c.isUrgent) : c.isGated = true := by
  simpa [isGated] using h

/-- No close is gated. -/
theorem filter_isGated_closes {l : List Command} {wins : List Int64}
    (h : l.Sublist (wins.map close)) : l.filter isGated = [] := by
  rw [List.filter_eq_nil_iff]
  intro c hc
  obtain ⟨win, -, rfl⟩ := List.mem_map.mp (h.subset hc)
  exact Bool.false_ne_true

end Command

namespace Gate

/-- Every queued command is gated. -/
def QueueGated (g : Gate) : Prop := ∀ c ∈ g.queue, c.isGated

theorem QueueGated.front {g : Gate} {front back : List Command} (h : g.QueueGated)
    (cut : g.queue = front ++ back) : ∀ c ∈ front, c.isGated :=
  fun c hc => h c (cut ▸ List.mem_append_left back hc)

/-- What goes out of the gated commands and what is queued then is, in order, what the deed made of
the queue. -/
theorem Step.account {g g' : Gate} {deed : Deed} {wrote failed : List Command}
    (step : Step g deed wrote failed g') (h : g.QueueGated) :
    wrote.filter Command.isGated ++ g'.queue = deed.enqueue g.queue := by
  have all : g.queue.filter Command.isGated = g.queue := List.filter_eq_self.mpr h
  have kept {m : Message} (none : m.notice.voids = fun _ => false) :
      (Deed.heard m).enqueue g.queue = g.queue := by simp [Deed.enqueue, none]
  cases step with
  | hold => rfl
  | save w => exact w.queue
  | pass urgent _ _ w => simp [Deed.enqueue, Command.not_isGated_of_isUrgent urgent, w.queue]
  | refuse _ _ w => exact w.queue
  | wait gated => simp [Deed.enqueue, Command.isGated_of_not_isUrgent gated]
  | drain gated => simp [Deed.enqueue, all, Command.isGated_of_not_isUrgent gated]
  | stop _ _ cut =>
    rw [List.filter_eq_self.mpr (h.front cut)]
    exact cut.symm
  | busy notice => exact (kept (by rw [notice]; rfl)).symm
  | ready notice => rw [kept (by rw [notice]; rfl), List.append_nil, all]
  | stall notice _ cut =>
    rw [kept (by rw [notice]; rfl), List.filter_eq_self.mpr (h.front cut)]
    exact cut.symm
  | release notice w order =>
    rw [kept (by rw [notice]; rfl), Command.filter_isGated_closes order]
    exact w.queue
  | fault notice => simp [Deed.enqueue, notice, Notice.voids]
  | finish notice => simp [Deed.enqueue, notice, Notice.voids]
  | idle notice => exact (kept (by rw [notice]; rfl)).symm

theorem Step.queueGated {g g' : Gate} {deed : Deed} {wrote failed : List Command}
    (step : Step g deed wrote failed g') (h : g.QueueGated) : g'.QueueGated := by
  intro c hc
  have made : c ∈ deed.enqueue g.queue := by
    rw [← step.account h]
    exact List.mem_append_right _ hc
  rcases Deed.mem_enqueue made with old | new
  · exact h c old
  · exact new

namespace Run
variable {wire : Wire} {turns : List Turn} {g : Gate}

theorem queueGated (run : Run wire turns g) : g.QueueGated := by
  induction run with
  | start => exact fun c hc => absurd hc List.not_mem_nil
  | turn _ step ih => exact step.queueGated ih

/-- The ledger lists what was written of the gated commands and what is queued. -/
theorem ledger_eq (run : Run wire turns g) :
    ledger turns = g.written.filter Command.isGated ++ g.queue := by
  induction run with
  | start => rfl
  | turn before step ih =>
    rw [ledger_cons ih, ← step.account before.queueGated, step.written_eq, List.filter_append,
      List.append_assoc]

end Run
end Gate

namespace Transcript

/-- The gated commands written so far and the queue are, in the order sent, the gated commands that
were accepted, without those that a message made void while they were queued; and a send that
fails adds nothing to them. -/
theorem accepted_written_or_queued (wire : Wire) (moves : List Move) :
    let t := run wire moves
    t.gate.wire.outlet.sent = wire.outlet.sent ++ t.gate.written.map Command.payload ∧
    t.gate.written.filter Command.isGated ++ t.gate.queue = ledger t.turns ∧
    ∀ turn earlier c f, t.turns = turn :: earlier → turn.deed = .sent c (.error f) →
      turn.wrote.filter Command.isGated ++ t.gate.queue = turn.queued := by
  intro t
  have reached : Gate.Run wire t.turns t.gate := gate_run wire moves
  refine ⟨reached.sent_eq, reached.ledger_eq.symm, ?_⟩
  intro turn earlier c f last failed
  rw [last] at reached
  obtain ⟨before, run, queued, step⟩ := reached.latest
  have account := step.account run.queueGated
  rw [failed] at account
  rw [queued]
  exact account

-- The error strikes out the queued code but not the query; the next ready prompt settles the rest.
example :
    (ledger (run .sound [.dispatch "[\"SetPromptType\",\x7b\"type\":0\x7d]",
      .send (.execute ⟨"1÷0", false⟩), .send .getThreads, .dispatch "[\"HadError\",\x7b\x7d]",
      .send .getStack]).turns).map Command.name = ["GetThreads", "GetSIStack"] := by
  decide +kernel

end Transcript
end DebugBridge
