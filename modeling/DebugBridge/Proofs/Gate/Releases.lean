import DebugBridge.Proofs.Gate.Overlap
import Mathlib.Algebra.Order.Group.Multiset
import Mathlib.Tactic.Abel

/-!
# What becomes of held closes

Every close that is held is still held, or the acknowledgement of the save wrote it, or the end of
the session made it void, or the acknowledgement tried to write it and failed. In the last case it
is lost: it is neither held nor written later, even when the link takes commands again. So held
closes are kept exactly as long as no write of an acknowledgement fails.
-/

namespace DebugBridge

/-- Whether the command closes a window. -/
def Command.closes (win : Int64) : Command → Bool
  | .closeWindow r => r.win = win
  | _ => false

/-- The close of the window that is written because it is sent, if one is. -/
def Deed.passes (win : Int64) : Deed → List Command
  | .sent c (.ok .written) => [c].filter (Command.closes win)
  | _ => []

/-- The held closes of the window that the turn writes. -/
def Turn.released (win : Int64) (t : Turn) : List Command :=
  if t.notice = .saved win then t.wrote else []

/-- The held closes of the window whose write fails in the turn. -/
def Turn.lost (win : Int64) (t : Turn) : List Command :=
  if t.notice = .saved win then t.failed else []

namespace Transcript

/-- The closes of the window that were held so far. -/
def holdings (win : Int64) (turns : List Turn) : List Command := turns.flatMap (·.deed.holds win)

/-- Those of them that were written. -/
def released (win : Int64) (turns : List Turn) : List Command := turns.flatMap (·.released win)

/-- Those of them whose write failed. -/
def lost (win : Int64) (turns : List Turn) : List Command := turns.flatMap (·.lost win)

/-- Those of them that were held when a session ended. -/
def voided (win : Int64) : List Turn → List Command
  | [] => []
  | t :: earlier =>
    (if t.notice = .ended then heldCloses win earlier else []) ++ voided win earlier

/-- The closes of the window that were written without being held. -/
def passed (win : Int64) (turns : List Turn) : List Command := turns.flatMap (·.deed.passes win)

/-- Every close of the window that was held is held still, or was written, or became void, and only
one of these. -/
def AllKept (win : Int64) (turns : List Turn) : Prop :=
  (holdings win turns).Perm (heldCloses win turns ++ released win turns ++ voided win turns)

end Transcript

open Transcript (holdings heldCloses released lost voided passed AllKept)

namespace Command

theorem closes_close (win other : Int64) : (close other).closes win = decide (other = win) := rfl

theorem closes_of_isGated {c : Command} (h : c.isGated) (win : Int64) : c.closes win = false := by
  cases c with
  | closeWindow => cases h
  | _ => rfl

theorem filter_closes_of_isGated {l : List Command} (h : ∀ c ∈ l, c.isGated) (win : Int64) :
    l.filter (closes win) = [] :=
  List.filter_eq_nil_iff.mpr fun c hc => by simp [closes_of_isGated (h c hc)]

end Command

namespace Gate
variable {g g' : Gate} {deed : Deed} {wrote failed : List Command} {win : Int64}

/-- The closes of a window go out when they are sent or when the save is acknowledged. -/
theorem Step.filter_closes (step : Step g deed wrote failed g') (gated : g.QueueGated) :
    wrote.filter (Command.closes win) =
      deed.passes win ++ Turn.released win ⟨deed, g.queue, wrote, failed⟩ := by
  cases step with
  | hold | refuse | wait => simp [Deed.passes, Turn.released, Turn.notice, Deed.notice]
  | save | pass => simp [Deed.passes, Turn.released, Turn.notice, Deed.notice]
  | drain free =>
    have now := Command.closes_of_isGated (Command.isGated_of_not_isUrgent free) win
    simp [Deed.passes, Turn.released, Turn.notice, Deed.notice, now,
      Command.filter_closes_of_isGated gated]
  | stop _ _ cut =>
    simp [Deed.passes, Turn.released, Turn.notice, Deed.notice,
      Command.filter_closes_of_isGated (gated.front cut)]
  | busy notice | fault notice | finish notice | idle notice =>
    simp [Deed.passes, Turn.released, Turn.notice, Deed.notice, notice]
  | ready notice =>
    simp [Deed.passes, Turn.released, Turn.notice, Deed.notice, notice,
      Command.filter_closes_of_isGated gated]
  | stall notice _ cut =>
    simp [Deed.passes, Turn.released, Turn.notice, Deed.notice, notice,
      Command.filter_closes_of_isGated (gated.front cut)]
  | @release _ other _ _ _ notice _ order =>
    have closes (c : Command) (hc : c ∈ wrote) : c = .close other := by
      obtain ⟨v, mem, rfl⟩ := List.mem_map.mp (order.subset hc)
      rw [of_decide_eq_true (List.mem_filter.mp mem).2]
    by_cases same : other = win
    · rw [List.filter_eq_self.mpr fun c hc => by simp [closes c hc, Command.closes_close, same]]
      simp [Deed.passes, Turn.released, Turn.notice, Deed.notice, notice, same]
    · rw [List.filter_eq_nil_iff.mpr fun c hc => by simp [closes c hc, Command.closes_close, same]]
      simp [Deed.passes, Turn.released, Turn.notice, Deed.notice, notice, same]

namespace Run
variable {wire : Wire} {turns : List Turn}

/-- A close of the window is written when it is sent or when it is released, and never again. -/
theorem filter_closes_perm (run : Run wire turns g) :
    (g.written.filter (Command.closes win)).Perm (passed win turns ++ released win turns) := by
  induction run with
  | start => exact .refl _
  | @turn earlier g deed wrote failed g' before step ih =>
    rw [step.written_eq, List.filter_append, step.filter_closes before.queueGated]
    simp only [passed, released, List.flatMap_cons, ← Multiset.coe_eq_coe, ← Multiset.coe_add]
      at ih ⊢
    rw [ih]
    abel

/-- A turn takes held closes of the window away as far as it writes them, fails to write them or
makes them void. -/
theorem heldCloses_cons_perm (run : Run wire turns g) (step : Step g deed wrote failed g')
    (win : Int64) :
    let t : Turn := ⟨deed, g.queue, wrote, failed⟩
    (heldCloses win turns ++ deed.holds win).Perm
      (heldCloses win (t :: turns) ++ t.released win ++ t.lost win ++
        if t.notice = .ended then heldCloses win turns else []) := by
  intro t
  have heard (ends : deed.notice.endsSave win) : deed.holds win = [] := by
    cases deed with
    | sent => cases ends
    | heard => rfl
  by_cases ends : deed.notice.endsSave win
  case pos =>
    have none : heldCloses win (t :: turns) = [] := if_pos ends
    rcases Notice.endsSave_iff.mp ends with ended | saved
    · simp [none, heard ends, t, Turn.released, Turn.lost, Turn.notice, ended]
    · have all := (step.released saved).2.symm
      rw [run.held_eq] at all
      simpa [none, heard ends, t, Turn.released, Turn.lost, Turn.notice, saved] using all
  case neg =>
    have apart := mt Notice.endsSave_iff.mpr ends
    rw [not_or] at apart
    have more : heldCloses win (t :: turns) = heldCloses win turns ++ deed.holds win := if_neg ends
    simp [more, t, Turn.released, Turn.lost, Turn.notice, apart.1, apart.2]

/-- Every close that was held is accounted for. -/
theorem holdings_perm (run : Run wire turns g) :
    (holdings win turns).Perm
      (heldCloses win turns ++ released win turns ++ voided win turns ++ lost win turns) := by
  induction run with
  | start => exact .refl _
  | @turn earlier g deed wrote failed g' before step ih =>
    have now := before.heldCloses_cons_perm step win
    simp only [holdings, voided, ← Multiset.coe_eq_coe, ← Multiset.coe_add,
      released, lost, List.flatMap_cons] at ih now ⊢
    rw [ih]
    calc _ = (heldCloses win earlier + deed.holds win : Multiset Command) +
          (earlier.flatMap (·.released win) + voided win earlier +
            earlier.flatMap (·.lost win)) := by abel
      _ = _ := by
        rw [now]
        abel

/-- Held closes are all kept exactly if no write of an acknowledgement has failed. -/
theorem allKept_iff (run : Run wire turns g) :
    AllKept win turns ↔ ∀ t ∈ turns, t.notice = .saved win → t.failed = [] := by
  have all : (holdings win turns).Perm _ := run.holdings_perm
  have none : lost win turns = [] ↔ ∀ t ∈ turns, t.notice = .saved win → t.failed = [] := by
    simp [lost, Turn.lost]
  rw [← none]
  constructor
  · intro kept
    have same := kept.length_eq.symm.trans all.length_eq
    simp only [List.length_append] at same
    exact List.length_eq_zero_iff.mp (by omega)
  · intro nothing
    rwa [nothing, List.append_nil] at all

end Run
end Gate

namespace Transcript

/-- In every conversation, whatever writes fail, a close that was held is held still, was written,
became void at the end of a session, or is lost because the acknowledgement failed to write it; so
all are kept exactly if no write of an acknowledgement has failed. A close is written when it is
sent, if it is not held, or once as a held one. -/
theorem held_closes_accounted (wire : Wire) (moves : List Move) (win : Int64) :
    let t := run wire moves
    (t.gate.held.filter (· = win)).map Command.close = heldCloses win t.turns ∧
    (holdings win t.turns).Perm
      (heldCloses win t.turns ++ released win t.turns ++ voided win t.turns ++ lost win t.turns) ∧
    (t.gate.written.filter (Command.closes win)).Perm
      (passed win t.turns ++ released win t.turns) ∧
    (AllKept win t.turns ↔ ∀ turn ∈ t.turns, turn.notice = .saved win → turn.failed = []) := by
  intro t
  have reached : Gate.Run wire t.turns t.gate := gate_run wire moves
  exact ⟨reached.held_eq, reached.holdings_perm, reached.filter_closes_perm, reached.allKept_iff⟩

/-- A link on which nothing comes in and only the second write fails. -/
def faltering : Wire :=
  .ofSides (.ofReads [] .silent Frame.defaultLimit)
    (.ofSink { Sink.reliable with
      fate := fun attempts _ => if attempts = 1 then some Sink.linkDown else none }
      Frame.defaultLimit)

/-- Window five is saved, its close is held, and the acknowledgement comes while the link is down.
Then the link is up again, and window five is saved once more. -/
def releasedIntoFailure : List Move :=
  [.send (.saveChanges ⟨5, [], [], [], []⟩), .send (.close 5),
    .dispatch "[\"ReplySaveChanges\",\x7b\"win\":5,\"err\":0\x7d]",
    .send (.saveChanges ⟨5, [], [], [], []⟩),
    .dispatch "[\"ReplySaveChanges\",\x7b\"win\":5,\"err\":0\x7d]"]

/-- The close is neither held nor written, though nothing made it void and the link is up. -/
theorem failed_release_loses_close :
    let t := run faltering releasedIntoFailure
    ¬ AllKept 5 t.turns ∧ t.gate.held = [] ∧ t.gate.queue = [] ∧
      t.gate.written.map Command.name = ["SaveChanges", "SaveChanges"] := by
  refine ⟨fun kept => absurd kept.length_eq (by decide +kernel), ?_, ?_, ?_⟩
  · exact List.isEmpty_iff.mp (by decide +kernel)
  · exact List.isEmpty_iff.mp (by decide +kernel)
  · decide +kernel

end Transcript
end DebugBridge
