import DebugBridge.Proofs.Gate.Saves

/-!
# Saves of one window that overlap

Each acknowledgement is for the oldest save of its window that has none. The gate counts a window
as saved with the first acknowledgement, however many saves of it are under way. So a close keeps
behind all saves written before it as long as saves of one window do not overlap; once two are
under way, an acknowledgement and a close are enough to break the order.
-/

namespace DebugBridge

/-- What is left of the saves of a window that have no acknowledgement. -/
def Notice.acknowledge (win : Int64) : Notice → List Command → List Command
  | .saved w, saves => if w = win then saves.tail else saves
  | .ended, _ => []
  | .prompt _, saves | .error, saves | .other, saves => saves

namespace Transcript

/-- The saves of the window that were written and have no acknowledgement, the oldest first. -/
def unacknowledged (win : Int64) : List Turn → List Command
  | [] => []
  | t :: earlier =>
    t.notice.acknowledge win (unacknowledged win earlier) ++ t.wrote.filter (Command.saves win)

/-- Whenever a close of the window is written, all saves of it are acknowledged. -/
def OrderKept (win : Int64) (turns : List Turn) : Prop :=
  Always (fun t earlier => .close win ∈ t.wrote → unacknowledged win (t :: earlier) = []) turns

/-- Whenever a save of the window is written, all others are acknowledged. -/
def NoOverlap (win : Int64) (turns : List Turn) : Prop :=
  Always (fun t earlier => t.wrote.any (Command.saves win) → unacknowledged win earlier = []) turns

/-- The latest acknowledgement for the window in this session, if there was one, left no save of
it without. -/
def settled (win : Int64) : List Turn → Bool
  | [] => true
  | t :: earlier =>
    if t.notice = .ended then true
    else if t.notice = .saved win then (unacknowledged win (t :: earlier)).isEmpty
    else settled win earlier

end Transcript

open Transcript (Always saving unacknowledged settled OrderKept NoOverlap)

namespace Notice
variable {win : Int64} {n : Notice}

theorem endsSave_iff : n.endsSave win ↔ n = .ended ∨ n = .saved win := by
  cases n <;> simp [endsSave]

theorem acknowledge_of_not_endsSave (h : n.endsSave win = false) (saves : List Command) :
    n.acknowledge win saves = saves := by
  cases n with
  | saved w => exact if_neg (of_decide_eq_false h)
  | ended => cases h
  | _ => rfl

end Notice

theorem Deed.saves_of_endsSave {deed : Deed} {win : Int64} (h : deed.notice.endsSave win) :
    deed.saves win = false := by
  cases deed with
  | sent => cases h
  | heard => rfl

theorem Command.isUrgent_of_saves {c : Command} {win : Int64} (h : c.saves win) : c.isUrgent := by
  cases c with
  | saveChanges => rfl
  | _ => cases h

namespace Gate
variable {g g' : Gate} {deed : Deed} {wrote failed : List Command} {win : Int64}

theorem Step.filter_saves (step : Step g deed wrote failed g') (gated : g.QueueGated)
    (none : deed.saves win = false) : wrote.filter (Command.saves win) = [] := by
  rw [← step.any_saves gated, List.any_eq_false] at none
  exact List.filter_eq_nil_iff.mpr none

/-- Saves are written one by one. -/
theorem Step.length_filter_saves (step : Step g deed wrote failed g') (gated : g.QueueGated) :
    (wrote.filter (Command.saves win)).length ≤ 1 := by
  by_cases some : deed.saves win
  · unfold Deed.saves at some
    split at some
    · rw [step.wrote_eq (Command.isUrgent_of_saves some)]
      exact List.length_filter_le _ _
    · cases some
  · rw [step.filter_saves gated (by simpa using some)]
    exact Nat.zero_le _

namespace Run
variable {wire : Wire} {turns : List Turn}

/-- While the window is not being saved, its saves are all acknowledged exactly if the latest
acknowledgement left none without. -/
theorem settled_iff (run : Run wire turns g) (idle : saving win turns = false) :
    unacknowledged win turns = [] ↔ settled win turns := by
  induction run with
  | start => exact iff_of_true rfl rfl
  | @turn earlier g deed wrote failed g' before step ih =>
    rw [unacknowledged, settled]
    by_cases ends : deed.notice.endsSave win
    · have none := step.filter_saves before.queueGated (Deed.saves_of_endsSave ends)
      rcases Notice.endsSave_iff.mp ends with ended | saved
      · simp [Turn.notice, ended, none, Notice.acknowledge]
      · simp [Turn.notice, saved, none, Notice.acknowledge, unacknowledged]
    · have apart := mt Notice.endsSave_iff.mpr ends
      rw [Bool.not_eq_true] at ends
      simp only [saving, Turn.notice, ends, Bool.not_false, Bool.true_and,
        Bool.or_eq_false_iff] at idle
      rw [not_or] at apart
      rw [Turn.notice, Notice.acknowledge_of_not_endsSave ends, if_neg apart.1, if_neg apart.2,
        List.filter_eq_nil_iff.mpr (List.any_eq_false.mp idle.1), List.append_nil]
      exact ih idle.2

/-- As long as saves of the window do not overlap, at most one has no acknowledgement, and the
window is being saved then. -/
theorem unacknowledged_of_noOverlap (run : Run wire turns g) (apart : NoOverlap win turns) :
    (unacknowledged win turns).length ≤ 1 ∧
      (saving win turns = false → unacknowledged win turns = []) := by
  induction run with
  | start => exact ⟨Nat.zero_le _, fun _ => rfl⟩
  | @turn earlier g deed wrote failed g' before step ih =>
    obtain ⟨alone, apart⟩ := Transcript.always_cons.mp apart
    obtain ⟨one, idle⟩ := ih apart
    by_cases ends : deed.notice.endsSave win
    · have none := step.filter_saves before.queueGated (Deed.saves_of_endsSave ends)
      have gone : deed.notice.acknowledge win (unacknowledged win earlier) = [] := by
        rcases Notice.endsSave_iff.mp ends with ended | saved
        · rw [ended, Notice.acknowledge]
        · rw [saved, Notice.acknowledge, if_pos rfl, ← List.length_eq_zero_iff, List.length_tail]
          omega
      simp [unacknowledged, Turn.notice, none, gone]
    · rw [Bool.not_eq_true] at ends
      simp only [unacknowledged, saving, Turn.notice, ends, Notice.acknowledge_of_not_endsSave ends,
        Bool.not_false, Bool.true_and, Bool.or_eq_false_iff]
      by_cases saves : wrote.any (Command.saves win)
      · rw [alone saves, List.nil_append, saves]
        exact ⟨step.length_filter_saves before.queueGated,
          fun h => absurd h.1.symm Bool.false_ne_true⟩
      · rw [Bool.not_eq_true] at saves
        rw [List.filter_eq_nil_iff.mpr (List.any_eq_false.mp saves), List.append_nil]
        exact ⟨one, fun h => idle h.2⟩

/-- When a close of the window goes out, the saves of it are all acknowledged exactly if the latest
acknowledgement left none without. -/
theorem unacknowledged_iff_of_close (run : Run wire turns g) (win : Int64) :
    Always (fun t earlier => .close win ∈ t.wrote →
      (unacknowledged win (t :: earlier) = [] ↔ settled win (t :: earlier))) turns := by
  refine run.always fun {_ _ _ _ _ _} before step hc => ?_
  exact (before.turn step).settled_iff (before.not_saving_of_close step hc)

theorem orderKept_of_noOverlap (run : Run wire turns g) (apart : NoOverlap win turns) :
    OrderKept win turns := by
  induction run with
  | start => exact Transcript.always_nil _
  | @turn earlier g deed wrote failed g' before step ih =>
    have idle := ((before.turn step).unacknowledged_of_noOverlap apart).2
    exact Transcript.always_cons.mpr ⟨fun hc => idle (before.not_saving_of_close step hc),
      ih (Transcript.always_cons.mp apart).2⟩

end Run

/-- A close of a window that is not being saved goes out unless its write fails. -/
theorem Step.wrote_close {outcome : Except Failure Sent}
    (step : Step g (.sent (.close win) outcome) wrote [] g') (free : win ∉ g.saves) :
    wrote = [.close win] := by
  cases step with
  | hold awaited => exact absurd awaited free
  | pass => rfl
  | wait gated | drain gated => exact absurd rfl gated

end Gate

namespace Transcript

/-- While two saves of a window are under way, an acknowledgement and a close break the order. -/
theorem not_orderKept_of_overlap {wire : Wire} {moves : List Move} {win : Int64} {payload : String}
    (ack : (Message.ofPayload payload).notice = .saved win)
    (two : 1 < (unacknowledged win (run wire moves).turns).length)
    (fine : (run wire (moves ++ [.dispatch payload, .send (.close win)])).gate.failed =
      (run wire moves).gate.failed) :
    ¬ OrderKept win (run wire (moves ++ [.dispatch payload, .send (.close win)])).turns := by
  rw [List.append_cons, run_append_singleton, run_append_singleton] at fine ⊢
  have reached : Gate.Run wire (run wire moves).turns (run wire moves).gate := gate_run wire moves
  generalize run wire moves = t at *
  obtain ⟨wrote₁, failed₁, step₁, turns₁⟩ := t.dispatch_step payload
  obtain ⟨outcome, wrote₂, failed₂, step₂, turns₂⟩ :=
    (t.move (.dispatch payload)).send_step (.close win)
  have reached₁ := reached.turn step₁
  rw [← turns₁] at reached₁
  -- one save is left without acknowledgement, and the gate takes the window for saved
  have left : unacknowledged win (t.move (.dispatch payload)).turns ≠ [] := by
    rw [turns₁, unacknowledged, Turn.notice, Deed.notice, ack, Notice.acknowledge, if_pos rfl]
    have tail : (unacknowledged win t.turns).tail ≠ [] := by
      rw [← List.length_pos_iff, List.length_tail]
      omega
    exact List.append_ne_nil_of_left_ne_nil tail _
  have free : win ∉ (t.move (.dispatch payload)).gate.saves := by
    rw [reached₁.mem_saves_iff, turns₁, saving, Turn.notice, Deed.notice, ack]
    simp [Notice.endsSave]
  rw [step₂.failed_eq, step₁.failed_eq, List.append_assoc, List.append_right_eq_self,
    List.append_eq_nil_iff] at fine
  obtain ⟨-, rfl⟩ := fine
  have out := step₂.wrote_close free
  intro kept
  rw [turns₂] at kept
  have all := (always_cons.mp kept).1 (by simp [out])
  rw [unacknowledged] at all
  exact left (List.append_eq_nil_iff.mp all).1

/-- The order of saves and closes of a window is kept exactly if, whenever a close is written, the
latest acknowledgement had left no save without. So it is kept as long as saves of the window do
not overlap; and while two are under way, an acknowledgement and a close break it. -/
theorem orderKept_iff_settled (wire : Wire) (moves : List Move) (win : Int64) :
    let t := run wire moves
    (OrderKept win t.turns ↔
      Always (fun turn earlier =>
        .close win ∈ turn.wrote → settled win (turn :: earlier)) t.turns) ∧
    (NoOverlap win t.turns → OrderKept win t.turns) ∧
    ∀ payload, (Message.ofPayload payload).notice = .saved win →
      1 < (unacknowledged win t.turns).length →
      let u := run wire (moves ++ [.dispatch payload, .send (.close win)])
      u.gate.failed = t.gate.failed → ¬ OrderKept win u.turns := by
  intro t
  have reached : Gate.Run wire t.turns t.gate := gate_run wire moves
  have same := reached.unacknowledged_iff_of_close win
  refine ⟨⟨?_, ?_⟩, reached.orderKept_of_noOverlap, fun payload => not_orderKept_of_overlap⟩
  · exact fun kept turn earlier h hc => (same turn earlier h hc).mp (kept turn earlier h hc)
  · exact fun kept turn earlier h hc => (same turn earlier h hc).mpr (kept turn earlier h hc)

/-- Two saves of window five, one right behind the other. -/
def twoSaves : List Move :=
  [.send (.saveChanges ⟨5, [], [], [], []⟩), .send (.saveChanges ⟨5, [], [], [], []⟩)]

/-- With the acknowledgement of the first of two saves the close goes out before that of the
second. -/
theorem overlapping_saves_break_order :
    ¬ OrderKept 5 (run .sound (twoSaves ++
      [.dispatch "[\"ReplySaveChanges\",\x7b\"win\":5,\"err\":0\x7d]",
        .send (.close 5)])).turns := by
  refine not_orderKept_of_overlap (by decide +kernel) (by decide +kernel) ?_
  rw [List.isEmpty_iff.mp (by decide +kernel : (run .sound twoSaves).gate.failed.isEmpty)]
  exact List.isEmpty_iff.mp (by decide +kernel)

end Transcript
end DebugBridge
