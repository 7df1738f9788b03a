import DebugBridge.Proofs.Gate.Queue

/-!
# What the prompt decides

While the prompt last reported is busy, only urgent commands go out. No urgent command is ever
queued, and unless a write has failed nothing is queued at any other prompt, whether one was
reported or not and whether its value is known or not.
-/

namespace DebugBridge

/-- The prompt that a message reports. -/
def Notice.prompt? : Notice → Option Int64
  | .prompt p => some p
  | _ => none

namespace Transcript

/-- The prompt last reported. -/
def lastPrompt (turns : List Turn) : Option Int64 := turns.findSome? fun t => t.notice.prompt?

theorem lastPrompt_cons (t : Turn) (earlier : List Turn) :
    lastPrompt (t :: earlier) = t.notice.prompt?.or (lastPrompt earlier) := by
  rw [lastPrompt, List.findSome?_cons]
  cases t.notice.prompt? <;> rfl

end Transcript

open Transcript (lastPrompt lastPrompt_cons)

namespace Gate
variable {g g' : Gate}

theorem isBusy_iff : g.isBusy ↔ g.prompt = some 0 := by
  simp [isBusy, Command.isBusyPrompt, Option.any_eq_true]

theorem isBusy_congr (h : g'.prompt = g.prompt) : g'.isBusy = g.isBusy := by
  rw [isBusy, isBusy, h]

namespace Step
variable {deed : Deed} {wrote failed : List Command}

theorem prompt_eq (step : Step g deed wrote failed g') :
    g'.prompt = deed.notice.prompt?.or g.prompt := by
  cases step with
  | hold | wait => rfl
  | save w | pass _ _ _ w | refuse _ _ w | drain _ _ w | stop _ _ _ w => exact w.prompt
  | busy notice =>
    rw [Deed.notice, notice]
    rfl
  | ready notice _ w | stall notice _ _ w =>
    rw [Deed.notice, notice]
    exact w.prompt
  | release notice w =>
    rw [Deed.notice, notice]
    exact w.prompt
  | fault notice | finish notice | idle notice =>
    rw [Deed.notice, notice]
    rfl

/-- What goes out at a busy prompt is urgent. -/
theorem urgent_of_busy (step : Step g deed wrote failed g') (busy : g'.isBusy) :
    ∀ c ∈ wrote, c.isUrgent := by
  cases step with
  | hold | refuse | wait | busy | fault | finish | idle => simp
  | save => simp [Command.isUrgent]
  | pass urgent => simpa using urgent
  | drain _ ready w | stop _ ready _ w => exact absurd (isBusy_congr w.prompt ▸ busy) ready
  | ready _ ready w | stall _ ready _ w =>
    have prompt := w.prompt
    simp [isBusy, prompt, ready] at busy
  | release _ _ order =>
    intro c hc
    obtain ⟨win, -, rfl⟩ := List.mem_map.mp (order.subset hc)
    rfl

/-- As long as no write fails, what is ready has nothing queued. -/
theorem vacant (step : Step g deed wrote failed g') (fine : failed = [])
    (h : g.isBusy ∨ g.queue = []) : g'.isBusy ∨ g'.queue = [] := by
  cases step with
  | hold | idle => exact h
  | save w | pass _ _ _ w | release _ w => exact h.imp (isBusy_congr w.prompt ▸ ·) (w.queue ▸ ·)
  | refuse | stop | stall => exact absurd fine (List.cons_ne_nil _ _)
  | wait _ busy => exact .inl busy
  | drain | ready | finish => exact .inr rfl
  | busy _ busy => exact .inl busy
  | fault => exact h.imp_right fun none => by simp [none]

end Step

namespace Run
variable {wire : Wire} {turns : List Turn}

theorem prompt_eq (run : Run wire turns g) : g.prompt = lastPrompt turns := by
  induction run with
  | start => rfl
  | turn _ step ih => rw [step.prompt_eq, lastPrompt_cons, ih, Turn.notice]

theorem vacant (run : Run wire turns g) (fine : g.failed = []) : g.isBusy ∨ g.queue = [] := by
  induction run with
  | start => exact .inr rfl
  | turn _ step ih =>
    rw [step.failed_eq, List.append_eq_nil_iff] at fine
    exact step.vacant fine.2 (ih fine.1)

end Run
end Gate

namespace Transcript

/-- At a busy prompt only urgent commands go out; none of these is ever queued; and unless a write
has failed, nothing is queued at any other prompt. -/
theorem busy_writes_urgent (wire : Wire) (moves : List Move) :
    let t := run wire moves
    t.gate.wire.outlet.sent =
      wire.outlet.sent ++ (t.turns.reverse.flatMap Turn.wrote).map Command.payload ∧
    t.gate.prompt = lastPrompt t.turns ∧
    Always (fun turn earlier =>
      lastPrompt (turn :: earlier) = some 0 → ∀ c ∈ turn.wrote, c.isUrgent) t.turns ∧
    (∀ c ∈ t.gate.queue, ¬ c.isUrgent) ∧
    (t.gate.failed = [] → lastPrompt t.turns ≠ some 0 → t.gate.queue = []) := by
  intro t
  have reached : Gate.Run wire t.turns t.gate := gate_run wire moves
  refine ⟨by rw [reached.sent_eq, reached.written_eq], reached.prompt_eq, reached.always ?_, ?_, ?_⟩
  · intro turns g deed wrote failed g' before step busy
    rw [← (before.turn step).prompt_eq] at busy
    exact step.urgent_of_busy (Gate.isBusy_iff.mpr busy)
  · intro c hc urgent
    have gated := reached.queueGated c hc
    simp [Command.isGated, urgent] at gated
  · intro fine ready
    rw [← reached.prompt_eq] at ready
    exact (reached.vacant fine).resolve_left fun busy => ready (Gate.isBusy_iff.mp busy)

end Transcript
end DebugBridge
