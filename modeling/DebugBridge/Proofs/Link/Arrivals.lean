import DebugBridge.Proofs.Link.Framing
import DebugBridge.Proofs.Link.Reading

/-!
# What a stream begins with

A stream `Begins` with the frames of some payloads when they are whole. These are what a receiver
takes from it, and what waits with patience give, whatever failures pass in between. What comes
behind a read that fails for good has not arrived.
-/

namespace DebugBridge

/-! ## Frames at the start -/

/-- A stream begins with the frames of some payloads, and the rest follows them. -/
structure Frame.Begins (limit : Nat) (payloads : List String) (stream rest : Bytes) : Prop where
  fits : ∀ p ∈ payloads, Fits limit p
  split : stream = payloads.flatMap image ++ rest

namespace Frame
variable {limit : Nat} {payload : String} {payloads : List String} {stream rest part : Bytes}

theorem begins_nil : Begins limit [] stream rest ↔ stream = rest := by
  constructor
  · intro begins
    exact begins.split
  · rintro rfl
    exact ⟨by simp, rfl⟩

theorem begins_cons : Begins limit (payload :: payloads) stream rest ↔
    ∃ later, decode limit stream = .frame payload later ∧ Begins limit payloads later rest := by
  constructor
  · rintro ⟨fits, rfl⟩
    obtain ⟨first, others⟩ := List.forall_mem_cons.mp fits
    refine ⟨payloads.flatMap image ++ rest, ?_, others, rfl⟩
    rw [List.flatMap_cons, List.append_assoc]
    exact decode_image first _
  · rintro ⟨later, found, fits, rfl⟩
    obtain ⟨first, rfl⟩ := eq_image_of_decode found
    refine ⟨List.forall_mem_cons.mpr ⟨first, fits⟩, ?_⟩
    rw [List.flatMap_cons, List.append_assoc]

theorem begins_singleton :
    Begins limit [payload] stream rest ↔ decode limit stream = .frame payload rest := by
  simp only [begins_cons, begins_nil, exists_eq_right]

theorem begins_append_iff {more : List String} {between : Bytes}
    (h : Begins limit payloads stream between) :
    Begins limit (payloads ++ more) stream rest ↔ Begins limit more between rest := by
  constructor
  · rintro ⟨fits, split⟩
    refine ⟨(List.forall_mem_append.mp fits).2, ?_⟩
    rw [h.split, List.flatMap_append, List.append_assoc] at split
    exact List.append_cancel_left split
  · rintro ⟨fits, rfl⟩
    refine ⟨List.forall_mem_append.mpr ⟨h.fits, fits⟩, ?_⟩
    rw [h.split, List.flatMap_append, List.append_assoc]

/-- A part of a frame is not yet a frame. -/
theorem decode_part (fits : Fits limit payload) (start : part <+: image payload)
    (other : part ≠ image payload) : decode limit part = .incomplete := by
  by_contra found
  obtain ⟨more, whole⟩ := start
  have later := decode_append found more
  have all := decode_image fits []
  rw [whole, ← List.append_nil (image payload), all] at later
  cases left : decode limit part with
  | incomplete => exact found left
  | fault f rest =>
    rw [left] at later
    cases later
  | frame payload' rest =>
    rw [left] at later
    have none : rest ++ more = [] := (Decoded.frame.inj later).2.symm
    have last : more = [] := (List.append_eq_nil_iff.mp none).2
    exact other (by rw [← whole, last, List.append_nil])

theorem length_le_length_images (payloads : List String) :
    payloads.length ≤ (payloads.flatMap image).length := by
  induction payloads with
  | nil => exact Nat.zero_le _
  | cons payload payloads ih =>
    rw [List.flatMap_cons, List.length_append, List.length_cons, length_image, size, headerLength]
    omega

theorem decodeAll_of_begins {steps : Nat} (begins : Begins limit payloads stream rest)
    (part : decode limit rest = .incomplete) (enough : payloads.length < steps) :
    decodeAll limit steps stream = (payloads, none, rest) := by
  induction payloads generalizing stream steps with
  | nil =>
    obtain rfl := begins_nil.mp begins
    match steps, enough with
    | steps + 1, _ => rw [decodeAll, part]
  | cons payload payloads ih =>
    obtain ⟨later, found, begins⟩ := begins_cons.mp begins
    match steps, enough with
    | steps + 1, enough =>
      have fewer : payloads.length < steps := Nat.lt_of_succ_lt_succ enough
      simp only [decodeAll, found, ih begins fewer]

/-- Frames with a part of a frame behind them are received, and the part stays. -/
theorem receive_of_begins (begins : Begins limit payloads stream rest)
    (part : decode limit rest = .incomplete) :
    receive limit [] stream = (payloads, none, rest) := by
  have enough : payloads.length ≤ stream.length := by
    rw [begins.split, List.length_append]
    exact Nat.le_add_right_of_le (length_le_length_images payloads)
  rw [receive, List.nil_append]
  exact decodeAll_of_begins begins part (Nat.lt_succ_of_le enough)

end Frame

/-! ## Waiting for frames -/

/-- The bytes that come before a read fails for good. -/
def Read.arrived : List Read → Bytes
  | [] => []
  | .bytes content :: reads => content ++ arrived reads
  | .fault f :: reads => if f.Passes then arrived reads else []

/-- The failure of the first read that fails for good. -/
def Read.failure? : List Read → Option StreamFault
  | [] => none
  | .bytes _ :: reads => failure? reads
  | .fault f :: reads => if f.Passes then failure? reads else some f

namespace Inlet
variable {limit : Nat} {ending : StreamEnd}

/-- The bytes that waits can take frames from. -/
def arrived (i : Inlet) : Bytes := i.buffer ++ Read.arrived i.reads

/-- What a wait with patience gives when these bytes arrive and then a read fails or the stream goes
on as its ending says. -/
def outlook (limit : Nat) (ending : StreamEnd) (failure : Option StreamFault) (stream : Bytes) :
    Except LinkFault Poll :=
  match Frame.decode limit stream with
  | .frame payload _ => .ok (.frame payload)
  | .fault f _ => .error f
  | .incomplete =>
    match failure with
    | some f => .error (.stream f)
    | none => atEnd ending stream

/-- A wait with patience goes by what arrives, and takes no more than the frame that it gives. -/
theorem pollFrom_eq_outlook (limit : Nat) (ending : StreamEnd) (reads : List Read)
    (buffer : Bytes) :
    ∃ left rest, pollFrom limit ending true reads buffer =
        (outlook limit ending (Read.failure? reads) (buffer ++ Read.arrived reads), left, rest) ∧
      ∀ payload later, Frame.decode limit (buffer ++ Read.arrived reads) = .frame payload later →
        later = rest ++ Read.arrived left ∧ Read.failure? left = Read.failure? reads := by
  induction reads generalizing buffer with
  | nil =>
    rw [Read.arrived, List.append_nil]
    unfold pollFrom outlook
    cases Frame.decode limit buffer with
    | frame payload rest => simp [Read.arrived]
    | fault f rest => simp
    | incomplete => simp [Read.failure?]
  | cons read reads ih =>
    by_cases waits : Frame.decode limit buffer = .incomplete
    case neg =>
      have behind := Frame.decode_append waits (Read.arrived (read :: reads))
      unfold pollFrom outlook
      rw [behind]
      cases found : Frame.decode limit buffer with
      | incomplete => exact absurd found waits
      | frame payload rest => simp [Frame.Decoded.before]
      | fault f rest => simp [Frame.Decoded.before]
    case pos =>
      cases read with
      | bytes content =>
        have same : pollFrom limit ending true (.bytes content :: reads) buffer =
            pollFrom limit ending true reads (buffer ++ content) := by
          rw [pollFrom, waits]
          rfl
        rw [same, Read.arrived, Read.failure?, ← List.append_assoc]
        exact ih (buffer ++ content)
      | fault f =>
        by_cases passes : f.Passes
        · have same : pollFrom limit ending true (.fault f :: reads) buffer =
              pollFrom limit ending true reads buffer := by
            rw [pollFrom, waits]
            simp [passes]
          rw [same, Read.arrived, Read.failure?, if_pos passes, if_pos passes]
          exact ih buffer
        · have fails : pollFrom limit ending true (.fault f :: reads) buffer =
              (.error (.stream f), reads, buffer) := by
            rw [pollFrom, waits]
            simp [passes]
          rw [fails, Read.arrived, Read.failure?, if_neg passes, if_neg passes, List.append_nil,
            outlook, waits]
          exact ⟨_, _, rfl, by simp⟩

theorem outlook_ne_frame {stream : Bytes}
    (none : ∀ payload rest, Frame.decode limit stream ≠ .frame payload rest) (ending : StreamEnd)
    (failure : Option StreamFault) (payload : String) :
    outlook limit ending failure stream ≠ .ok (.frame payload) := by
  unfold outlook
  cases found : Frame.decode limit stream with
  | frame payload rest => exact absurd found (none payload rest)
  | fault f rest => simp
  | incomplete =>
    cases failure with
    | some f => simp
    | none =>
      unfold atEnd
      cases ending with
      | silent => simp
      | closed => cases stream.isEmpty <;> simp

/-- What a wait with patience makes of a stream. -/
inductive Waiting (limit : Nat) (stream : Bytes) :
    Except LinkFault Poll × List Read × Bytes → Prop
  /-- The frame at the start of the stream comes, and what follows it stays. -/
  | frame {payload reads buffer}
      (found : Frame.decode limit stream = .frame payload (buffer ++ Read.arrived reads)) :
      Waiting limit stream (.ok (.frame payload), reads, buffer)
  /-- The stream does not start with a frame, and none comes. -/
  | other {result reads buffer}
      (none : ∀ payload rest, Frame.decode limit stream ≠ .frame payload rest)
      (different : ∀ payload, result ≠ .ok (.frame payload)) :
      Waiting limit stream (result, reads, buffer)

theorem waiting_pollFrom (limit : Nat) (ending : StreamEnd) (reads : List Read) (buffer : Bytes) :
    Waiting limit (buffer ++ Read.arrived reads) (pollFrom limit ending true reads buffer) := by
  obtain ⟨left, rest, polled, taken⟩ := pollFrom_eq_outlook limit ending reads buffer
  rw [polled]
  by_cases starts :
      ∃ payload later, Frame.decode limit (buffer ++ Read.arrived reads) = .frame payload later
  · obtain ⟨payload, later, found⟩ := starts
    obtain ⟨rfl, -⟩ := taken payload later found
    rw [outlook.eq_def, found]
    exact .frame found
  · have none : ∀ payload later,
        Frame.decode limit (buffer ++ Read.arrived reads) ≠ .frame payload later :=
      fun payload later found => starts ⟨payload, later, found⟩
    exact .other none (outlook_ne_frame none ending _)

variable {i : Inlet} {payload : String} {payloads : List String} {rest : Bytes}

/-- A wait with patience gives the frame at the start of the stream, if there is one. -/
theorem poll_frame_iff :
    (i.poll true).1 = .ok (.frame payload) ∧ (i.poll true).2.arrived = rest ↔
      Frame.decode i.limit i.arrived = .frame payload rest := by
  have waiting : Waiting i.limit i.arrived _ :=
    waiting_pollFrom i.limit i.ending i.reads i.buffer
  unfold poll
  generalize pollFrom i.limit i.ending true i.reads i.buffer = polled at waiting
  cases waiting with
  | frame found =>
    rw [found]
    simp [arrived]
  | other none different =>
    simp only [different, false_and, false_iff]
    exact none _ _

theorem limit_poll (i : Inlet) (patient : Bool) : (i.poll patient).2.limit = i.limit := rfl

/-- Waits with patience give frames exactly where the stream begins with these. -/
theorem pollAll_eq_frames_iff :
    (pollAll (.replicate payloads.length true) i).1 = payloads.map (.ok <| .frame ·) ↔
      ∃ rest, Frame.Begins i.limit payloads i.arrived rest := by
  induction payloads generalizing i with
  | nil => simp [pollAll, Frame.begins_nil]
  | cons payload payloads ih =>
    simp only [List.length_cons, List.replicate_succ, pollAll, List.map_cons, List.cons.injEq, ih,
      Frame.begins_cons, limit_poll]
    constructor
    · rintro ⟨found, rest, later⟩
      exact ⟨rest, _, poll_frame_iff.mp ⟨found, rfl⟩, later⟩
    · rintro ⟨rest, next, found, later⟩
      obtain ⟨polled, rfl⟩ := poll_frame_iff.mpr found
      exact ⟨polled, rest, later⟩

end Inlet
end DebugBridge
