import DebugBridge.Link.Outlet
import DebugBridge.Proofs.Link.Framing

/-!
# What reaches a stream

A frame goes out whole, or the stream fails at its start, or a write call takes nothing and leaves
a part of the frame on the stream. `Outlet.Sending` lists these with the payloads that are refused
because they are too large.
-/

namespace DebugBridge

namespace Sink
variable (s : Sink)

/-- The stream once a frame has been tried and some bytes of it are taken. -/
def tried (part : Bytes) : Sink :=
  { s with attempts := s.attempts + 1, written := s.written ++ part }

/-- The stream once a frame has gone out whole. -/
def passed (frame : Bytes) : Sink := { s.tried frame with flushed := s.flushed + 1 }

variable {s}

/-- Write calls take all bytes, or a call takes none and the bytes before it are on the stream. -/
theorem writeAll_cases {calls : Nat} {content : Bytes} (enough : content.length < calls) :
    writeAll calls s content = (.ok (), { s with written := s.written ++ content }) ∨
    ∃ f part, writeAll calls s content = (.error f, { s with written := s.written ++ part }) ∧
      part <+: content ∧ part ≠ content ∧ ∃ position, s.piece position = some 0 := by
  induction calls generalizing s content with
  | zero => omega
  | succ calls ih =>
    rw [writeAll]
    by_cases done : content.isEmpty
    · rw [if_pos done, List.isEmpty_iff.mp done, List.append_nil]
      exact .inl rfl
    rw [if_neg done]
    have some_left : content ≠ [] := fun none => done (List.isEmpty_iff.mpr none)
    have length_pos := List.length_pos_iff.mpr some_left
    by_cases stuck : s.take content = 0
    · refine .inr ⟨⟨.writeZero, "failed to write whole buffer"⟩, [], ?_, List.nil_prefix,
        some_left.symm, s.written.length, ?_⟩
      · simp only [if_pos stuck, List.append_nil]
      · unfold take at stuck
        split at stuck
        case h_1 => exact absurd (List.length_eq_zero_iff.mp stuck) some_left
        case h_2 n bound =>
          obtain rfl : n = 0 := by omega
          exact bound
    · simp only [if_neg stuck]
      have fewer : (content.drop (s.take content)).length < calls := by
        rw [List.length_drop]
        omega
      -- what is taken now and what is taken later make up the content
      have split := List.take_append_drop (s.take content) content
      obtain all | ⟨f, part, failed, start, other, stops⟩ :=
        ih (s := { s with written := s.written ++ content.take (s.take content) }) fewer
      · left
        rw [all]
        simp only [List.append_assoc, split]
      · refine .inr ⟨f, content.take (s.take content) ++ part, ?_, ?_, ?_, stops⟩
        · rw [failed]
          simp only [List.append_assoc]
        · conv_rhs => rw [← split]
          exact (List.prefix_append_right_inj _).mpr start
        · conv_rhs => rw [← split]
          exact fun same => other (List.append_cancel_left same)

/-- A frame goes out whole, or the stream fails at its start, or inside it. -/
theorem writeFrame_cases (frame : Bytes) :
    s.fate s.attempts s.flushed = none ∧ s.writeFrame frame = (.ok (), s.passed frame) ∨
    (∃ f, s.fate s.attempts s.flushed = some f ∧
      s.writeFrame frame = (.error f.fault, s.tried [])) ∨
    ∃ f part, s.writeFrame frame = (.error f, s.tried part) ∧ part <+: frame ∧ part ≠ frame ∧
      ∃ position, s.piece position = some 0 := by
  unfold writeFrame
  cases fated : s.fate s.attempts s.flushed with
  | some f =>
    refine .inr (.inl ⟨f, rfl, ?_⟩)
    rw [tried, List.append_nil]
  | none =>
    obtain all | ⟨f, part, failed, start, other, stops⟩ :=
      writeAll_cases (s := { s with attempts := s.attempts + 1 }) (Nat.lt_succ_self frame.length)
    · refine .inl ⟨rfl, ?_⟩
      simp only [all]
      rfl
    · refine .inr (.inr ⟨f, part, ?_, start, other, stops⟩)
      simp only [failed]
      rfl

/-- The stream takes some bytes at every write call, and fails once so many frames have gone out
whole, if there is such a number. -/
structure FailsAfter (room : Option Nat) (s : Sink) : Prop where
  progress : ∀ position, s.piece position ≠ some 0
  free_iff : ∀ attempts flushed, s.fate attempts flushed = none ↔ ∀ n ∈ room, flushed < n

/-- A stream that takes at each place as many bytes as it is told, and does not fail. -/
def inPieces (piece : Nat → Option Nat) : Sink := ⟨fun _ _ => none, piece, 0, 0, []⟩

theorem failsAfter_withBudget {piece : Nat → Option Nat} (progress : ∀ n, piece n ≠ some 0)
    (budget : Option Nat) (failure : WriteFailure) :
    FailsAfter budget ((inPieces piece).withBudget budget failure) where
  progress := progress
  free_iff := by
    intro attempts flushed
    cases budget with
    | none => simp [withBudget]
    | some b => simp [withBudget, inPieces]

end Sink

namespace Outlet

/-- The outlet once the frame of a payload has gone out whole. -/
def passed (o : Outlet) (payload : String) : Outlet :=
  { o with sink := o.sink.passed (Frame.image payload), sent := o.sent ++ [payload] }

/-- What becomes of a payload that is sent. -/
inductive Sending (o : Outlet) (payload : String) : Except LinkFault Unit → Outlet → Prop
  /-- Its frame is too large and is not tried. -/
  | refused {f} (large : ¬ Frame.Fits o.limit payload) : Sending o payload (.error f) o
  /-- The stream fails at the start of the frame. -/
  | unwritten {f f'} (fits : Frame.Fits o.limit payload)
      (fated : o.sink.fate o.sink.attempts o.sink.flushed = some f') :
      Sending o payload (.error f) { o with sink := o.sink.tried [] }
  /-- A write call takes nothing. A part of the frame is on the stream. -/
  | broken {f part} (fits : Frame.Fits o.limit payload) (start : part <+: Frame.image payload)
      (other : part ≠ Frame.image payload) (stops : ∃ position, o.sink.piece position = some 0) :
      Sending o payload (.error f) { o with sink := o.sink.tried part }
  /-- The frame goes out whole. -/
  | whole (fits : Frame.Fits o.limit payload)
      (free : o.sink.fate o.sink.attempts o.sink.flushed = none) :
      Sending o payload (.ok ()) (o.passed payload)

theorem sending (o : Outlet) (payload : String) :
    Sending o payload (o.send payload).1 (o.send payload).2 := by
  unfold send
  by_cases fits : Frame.Fits o.limit payload
  · rw [Frame.encode_of_fits fits]
    obtain ⟨free, wrote⟩ | ⟨f, fated, failed⟩ | ⟨f, part, failed, start, other, stops⟩ :=
      Sink.writeFrame_cases (s := o.sink) (Frame.image payload)
    · simp only [wrote]
      exact .whole fits free
    · simp only [failed]
      exact .unwritten fits fated
    · simp only [failed]
      exact .broken fits start other stops
  · obtain ⟨most, refused⟩ := Frame.exists_error_of_not_fits fits
    rw [refused]
    exact .refused fits

theorem admits_iff (o : Outlet) (payload : String) :
    o.admits payload ↔ Frame.Fits o.limit payload := by
  unfold admits
  by_cases fits : Frame.Fits o.limit payload
  · simp [Frame.encode_of_fits fits, fits]
  · obtain ⟨most, refused⟩ := Frame.exists_error_of_not_fits fits
    simp [refused, fits]

end Outlet
end DebugBridge
