import DebugBridge.Link.Conversation
import DebugBridge.Proofs.Gate.Step
import Mathlib.Data.List.Induction

/-!
# The transcript of a conversation

A conversation goes in turns: a command is sent, or a payload comes in. The transcript notes for
each turn what was done, what was queued before, which commands were written and which of the
writes failed. What happened in a conversation is said of its turns alone, the latest first.
-/

namespace DebugBridge

/-- A link on which nothing comes in and every write goes out. -/
def Wire.sound : Wire :=
  .ofSides (.ofReads [] .silent Frame.defaultLimit) (.ofSink .reliable Frame.defaultLimit)

theorem Conversation.gate_dispatch (c : Conversation) (payload : String) :
    (c.dispatch payload).gate = c.gate.hear (.ofPayload payload) := rfl

/-- A move in a conversation. -/
inductive Move where
  | send (c : Command)
  | dispatch (payload : String)

/-- A turn of a conversation as an onlooker sees it. -/
structure Turn where
  deed : Deed
  /-- The commands queued before the turn. -/
  queued : List Command
  /-- The commands written in the turn, in order. -/
  wrote : List Command
  /-- The commands whose write failed in the turn, in order. -/
  failed : List Command

/-- What the gate hears in the turn. -/
def Turn.notice (t : Turn) : Notice := t.deed.notice

/-- A conversation with its turns so far, the latest first. -/
structure Transcript where
  conversation : Conversation
  turns : List Turn

namespace Transcript

def ofWire (wire : Wire) : Transcript := ⟨.ofWire wire, []⟩

def gate (t : Transcript) : Gate := t.conversation.gate

/-- The transcript after one more turn. -/
def next (t : Transcript) (deed : Deed) (after : Conversation) : Transcript where
  conversation := after
  turns :=
    ⟨deed, t.gate.queue, after.gate.written.drop t.gate.written.length,
      after.gate.failed.drop t.gate.failed.length⟩ :: t.turns

/-- Makes a move. -/
def move (t : Transcript) : Move → Transcript
  | .send c => t.next (.sent c (t.conversation.send c).1) (t.conversation.send c).2
  | .dispatch payload => t.next (.heard (.ofPayload payload)) (t.conversation.dispatch payload)

/-- The transcript of a conversation over a link. -/
def run (wire : Wire) (moves : List Move) : Transcript := moves.foldl move (.ofWire wire)

theorem run_append_singleton (wire : Wire) (moves : List Move) (m : Move) :
    run wire (moves ++ [m]) = (run wire moves).move m := by
  rw [run, List.foldl_append]
  rfl

/-- Something holds of each turn, given the turns before it. -/
def Always (P : Turn → List Turn → Prop) (turns : List Turn) : Prop :=
  ∀ t earlier, t :: earlier <:+ turns → P t earlier

theorem always_nil (P : Turn → List Turn → Prop) : Always P [] := by
  intro t earlier h
  simp at h

theorem always_cons {P : Turn → List Turn → Prop} {t : Turn} {earlier : List Turn} :
    Always P (t :: earlier) ↔ P t earlier ∧ Always P earlier := by
  constructor
  · intro h
    exact ⟨h t earlier (List.suffix_refl _),
      fun u before hu => h u before (hu.trans (List.suffix_cons t earlier))⟩
  · rintro ⟨now, before⟩ u others h
    rcases List.suffix_cons_iff.mp h with h | h
    · obtain ⟨rfl, rfl⟩ := List.cons.inj h
      exact now
    · exact before u others h

end Transcript

open Transcript (Always)

namespace Gate

/-- The turns by which a gate can be reached over a link, the latest first. -/
inductive Run (wire : Wire) : List Turn → Gate → Prop
  | start : Run wire [] (.ofWire wire)
  | turn {turns g deed wrote failed g'} (before : Run wire turns g)
      (step : Step g deed wrote failed g') :
      Run wire (⟨deed, g.queue, wrote, failed⟩ :: turns) g'

namespace Step
variable {g g' : Gate} {deed : Deed} {wrote failed : List Command}

/-- A step adds its writes to the records, and to the stream what went out. -/
theorem records (step : Step g deed wrote failed g') :
    g'.written = g.written ++ wrote ∧ g'.failed = g.failed ++ failed ∧
      g'.wire.outlet.sent = g.wire.outlet.sent ++ wrote.map Command.payload := by
  cases step with
  | hold | wait | busy | fault | finish | idle => simp
  | save w | pass _ _ _ w | refuse _ _ w | drain _ _ w | stop _ _ _ w | ready _ _ w
  | stall _ _ _ w | release _ w =>
    exact ⟨w.written, w.failed, w.sent⟩

theorem written_eq (step : Step g deed wrote failed g') : g'.written = g.written ++ wrote :=
  step.records.1

theorem failed_eq (step : Step g deed wrote failed g') : g'.failed = g.failed ++ failed :=
  step.records.2.1

theorem sent_eq (step : Step g deed wrote failed g') :
    g'.wire.outlet.sent = g.wire.outlet.sent ++ wrote.map Command.payload :=
  step.records.2.2

end Step

namespace Run
variable {wire : Wire} {turns : List Turn} {g : Gate}

/-- What holds of every step from a gate that can be reached holds of each turn. -/
theorem always {P : Turn → List Turn → Prop}
    (h : ∀ {turns g deed wrote failed g'}, Run wire turns g → Step g deed wrote failed g' →
      P ⟨deed, g.queue, wrote, failed⟩ turns)
    (run : Run wire turns g) : Always P turns := by
  induction run with
  | start => exact Transcript.always_nil P
  | turn before step ih => exact Transcript.always_cons.mpr ⟨h before step, ih⟩

/-- The latest turn is a step from a gate that the turns before it reach. -/
theorem latest {t : Turn} {earlier : List Turn} (run : Run wire (t :: earlier) g) :
    ∃ before, Run wire earlier before ∧ t.queued = before.queue ∧
      Step before t.deed t.wrote t.failed g := by
  cases run with
  | turn before step => exact ⟨_, before, rfl, step⟩

/-- What has been written is what the turns wrote. -/
theorem written_eq (run : Run wire turns g) : g.written = turns.reverse.flatMap Turn.wrote := by
  induction run with
  | start => rfl
  | turn _ step ih => simp [step.written_eq, ih]

/-- The frames on the stream are those of the written commands, behind what was there before. -/
theorem sent_eq (run : Run wire turns g) :
    g.wire.outlet.sent = wire.outlet.sent ++ g.written.map Command.payload := by
  induction run with
  | start => exact (List.append_nil _).symm
  | turn _ step ih => rw [step.sent_eq, step.written_eq, ih, List.map_append, List.append_assoc]

end Run
end Gate

namespace Transcript
variable (t : Transcript)

private theorem turns_next {deed : Deed} {wrote failed : List Command} {after : Conversation}
    (step : Gate.Step t.gate deed wrote failed after.gate) :
    (t.next deed after).turns = ⟨deed, t.gate.queue, wrote, failed⟩ :: t.turns := by
  simp [next, step.written_eq, step.failed_eq]

/-- Sending a command is a step of the gate and a turn of the transcript. -/
theorem send_step (c : Command) :
    ∃ outcome wrote failed,
      Gate.Step t.gate (.sent c outcome) wrote failed (t.move (.send c)).gate ∧
      (t.move (.send c)).turns = ⟨.sent c outcome, t.gate.queue, wrote, failed⟩ :: t.turns := by
  obtain ⟨wrote, failed, step⟩ := t.gate.step_send c
  exact ⟨_, wrote, failed, step, turns_next t step⟩

/-- So is taking in a payload. -/
theorem dispatch_step (payload : String) :
    ∃ wrote failed, Gate.Step t.gate (.heard (.ofPayload payload)) wrote failed
        (t.move (.dispatch payload)).gate ∧
      (t.move (.dispatch payload)).turns =
        ⟨.heard (.ofPayload payload), t.gate.queue, wrote, failed⟩ :: t.turns := by
  obtain ⟨wrote, failed, step⟩ := t.gate.step_hear (.ofPayload payload)
  rw [gate, ← Conversation.gate_dispatch] at step
  exact ⟨wrote, failed, step, turns_next t step⟩

/-- The turns of a transcript are a run of its gate. -/
theorem gate_run (wire : Wire) (moves : List Move) :
    Gate.Run wire (run wire moves).turns (run wire moves).gate := by
  induction moves using List.reverseRecOn with
  | nil => exact .start
  | append_singleton moves m ih =>
    rw [run_append_singleton]
    cases m with
    | send c =>
      obtain ⟨_, _, _, step, turns⟩ := send_step (run wire moves) c
      rw [turns]
      exact ih.turn step
    | dispatch payload =>
      obtain ⟨_, _, step, turns⟩ := dispatch_step (run wire moves) payload
      rw [turns]
      exact ih.turn step

end Transcript
end DebugBridge
