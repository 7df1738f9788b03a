import DebugBridge.Link.Inlet
import DebugBridge.Proofs.Link.Decode
import Mathlib.Data.List.Basic

/-!
# Reading a stream in pieces

What is read from a stream depends on its bytes alone: not on how they are cut into reads, nor on
failures that pass, nor on waits that run out in between. The bytes that an inlet has still to
give, buffered or not yet read, are all that a wait looks at (`poll_patient`), and a wait that runs
out leaves them as they are (`poll_impatient`).
-/

namespace DebugBridge

/-- A failure that passes: the read was interrupted, or had nothing to give yet, or not in time. -/
def StreamFault.Passes (f : StreamFault) : Prop :=
  f.kind = .interrupted ∨ f.kind = .wouldBlock ∨ f.kind = .timedOut

namespace StreamFault

instance (f : StreamFault) : Decidable f.Passes := inferInstanceAs (Decidable (_ ∨ _ ∨ _))

@[simp] theorem isTransient_iff (f : StreamFault) : f.isTransient ↔ f.Passes := by
  simp [isTransient, Passes, or_assoc]

end StreamFault

namespace Inlet

variable {limit : Nat}

/-- The bytes that are still to be taken out as frames. -/
def pending (i : Inlet) : Bytes := i.buffer ++ i.reads.flatMap Read.content

/-- What the bytes of a stream that ends behind them give next, and the bytes that stay. -/
def next (limit : Nat) (stream : Bytes) : Except LinkFault Poll × Bytes :=
  match Frame.decode limit stream with
  | .frame payload rest => (.ok (.frame payload), rest)
  | .fault f rest => (.error f, rest)
  | .incomplete => (atEnd .closed stream, stream)

/-- So many things that the bytes of a stream give, one after another, and the bytes that stay. -/
def outcomes (limit : Nat) : Nat → Bytes → List (Except LinkFault Poll) × Bytes
  | 0, stream => ([], stream)
  | n + 1, stream =>
    let (results, rest) := outcomes limit n (next limit stream).2
    ((next limit stream).1 :: results, rest)

/-- Waits time after time, each time with patience or without. -/
def pollAll : List Bool → Inlet → List (Except LinkFault Poll) × Inlet
  | [], i => ([], i)
  | patient :: calls, i =>
    let (results, after) := pollAll calls (i.poll patient).2
    ((i.poll patient).1 :: results, after)

/-- Whether a wait gave something before it ran out. -/
def isSettled : Except LinkFault Poll → Bool
  | .ok .timeout => false
  | .ok (.frame _) | .ok .closed | .error _ => true

theorem isSettled_next (stream : Bytes) : isSettled (next limit stream).1 := by
  unfold next
  cases Frame.decode limit stream with
  | incomplete =>
    unfold atEnd
    cases stream.isEmpty <;> rfl
  | frame => rfl
  | fault => rfl

/-! ## One wait -/

/-- Once nothing has to be waited for, the bytes behind do not matter. -/
theorem next_append {buffer : Bytes} (h : Frame.decode limit buffer ≠ .incomplete)
    (more : Bytes) :
    next limit (buffer ++ more) = ((next limit buffer).1, (next limit buffer).2 ++ more) := by
  unfold next
  rw [Frame.decode_append h]
  cases found : Frame.decode limit buffer with
  | incomplete => exact absurd found h
  | frame => rfl
  | fault => rfl

theorem pollFrom_patient (limit : Nat) {reads : List Read}
    (steady : ∀ f, .fault f ∈ reads → f.Passes) (buffer : Bytes) :
    let (result, left, rest) := pollFrom limit .closed true reads buffer
    left <:+ reads ∧
      (result, rest ++ left.flatMap Read.content) =
        next limit (buffer ++ reads.flatMap Read.content) := by
  induction reads generalizing buffer with
  | nil =>
    unfold pollFrom next
    simp only [List.flatMap_nil, List.append_nil]
    cases Frame.decode limit buffer <;> simp
  | cons read reads ih =>
    by_cases waits : Frame.decode limit buffer = .incomplete
    · have later (f) (mem : Read.fault f ∈ reads) : f.Passes :=
        steady f (List.mem_cons_of_mem _ mem)
      cases read with
      | bytes content =>
        have same : pollFrom limit .closed true (.bytes content :: reads) buffer =
            pollFrom limit .closed true reads (buffer ++ content) := by
          rw [pollFrom, waits]
          rfl
        obtain ⟨suffix, found⟩ := ih later (buffer ++ content)
        rw [same]
        refine ⟨suffix.trans (List.suffix_cons _ _), found.trans ?_⟩
        rw [List.flatMap_cons, Read.content, List.append_assoc]
      | fault f =>
        have same : pollFrom limit .closed true (.fault f :: reads) buffer =
            pollFrom limit .closed true reads buffer := by
          rw [pollFrom, waits]
          simp [steady f List.mem_cons_self]
        obtain ⟨suffix, found⟩ := ih later buffer
        rw [same]
        refine ⟨suffix.trans (List.suffix_cons _ _), found.trans ?_⟩
        rw [List.flatMap_cons, Read.content, List.nil_append]
    · rw [next_append waits]
      unfold pollFrom next
      cases found : Frame.decode limit buffer with
      | incomplete => exact absurd found waits
      | frame => simp
      | fault => simp

/-- The stream ends behind the reads of an inlet, and these fail only in passing. -/
structure IsSteady (i : Inlet) : Prop where
  ending : i.ending = .closed
  passing : ∀ f, .fault f ∈ i.reads → f.Passes

theorem isSteady_ofReads (reads : List Read) (limit : Nat)
    (passing : ∀ f, .fault f ∈ reads → f.Passes) :
    (ofReads reads .closed limit).IsSteady := ⟨rfl, passing⟩

/-- A wait with patience takes what the pending bytes give next. -/
theorem poll_patient {i : Inlet} (steady : i.IsSteady) :
    ∃ after, i.poll true = ((next i.limit i.pending).1, after) ∧
      after.pending = (next i.limit i.pending).2 ∧ after.limit = i.limit ∧ after.IsSteady := by
  obtain ⟨suffix, found⟩ := pollFrom_patient i.limit steady.passing i.buffer
  unfold poll
  rw [steady.ending]
  generalize pollFrom i.limit .closed true i.reads i.buffer = polled at suffix found
  obtain ⟨result, reads, rest⟩ := polled
  simp only at suffix found
  rw [pending, ← found]
  exact ⟨_, rfl, rfl, rfl, rfl, fun f mem => steady.passing f (suffix.subset mem)⟩

/-- A wait without patience takes what the buffer gives next, or runs out and changes nothing. -/
theorem poll_impatient {i : Inlet} (steady : i.IsSteady) :
    i.poll false = (.ok .timeout, i) ∨
    ∃ after, i.poll false = ((next i.limit i.pending).1, after) ∧
      after.pending = (next i.limit i.pending).2 ∧ after.limit = i.limit ∧ after.IsSteady := by
  by_cases waits : Frame.decode i.limit i.buffer = .incomplete
  · left
    unfold poll pollFrom
    rw [waits]
    rfl
  · right
    rw [pending, next_append waits]
    unfold poll pollFrom next
    cases found : Frame.decode i.limit i.buffer with
    | incomplete => exact absurd found waits
    | frame => exact ⟨_, rfl, rfl, rfl, steady.ending, steady.passing⟩
    | fault => exact ⟨_, rfl, rfl, rfl, steady.ending, steady.passing⟩

/-! ## Wait after wait -/

/-- The results of one wait after another, each with patience or without: each takes what the
stream gives next, or, without patience, runs out and takes nothing. -/
inductive Takes (limit : Nat) : Bytes → List Bool → List (Except LinkFault Poll) → Bytes → Prop
  | none (stream) : Takes limit stream [] [] stream
  | next {stream calls results rest} (patient)
      (later : Takes limit (next limit stream).2 calls results rest) :
      Takes limit stream (patient :: calls) ((Inlet.next limit stream).1 :: results) rest
  | runOut {stream calls results rest} (later : Takes limit stream calls results rest) :
      Takes limit stream (false :: calls) (.ok .timeout :: results) rest

theorem takes_pollAll (calls : List Bool) {i : Inlet} (steady : i.IsSteady) :
    Takes i.limit i.pending calls (pollAll calls i).1 (pollAll calls i).2.pending := by
  induction calls generalizing i with
  | nil => exact .none _
  | cons patient calls ih =>
    have took {after} (polled : i.poll patient = ((next i.limit i.pending).1, after))
        (left : after.pending = (next i.limit i.pending).2) (limit : after.limit = i.limit)
        (steady' : after.IsSteady) : Takes i.limit i.pending (patient :: calls)
          (pollAll (patient :: calls) i).1 (pollAll (patient :: calls) i).2.pending := by
      simp only [pollAll, polled]
      exact .next patient (left ▸ limit ▸ ih steady')
    cases patient with
    | true =>
      obtain ⟨after, polled, left, limit, steady'⟩ := poll_patient steady
      exact took polled left limit steady'
    | false =>
      rcases poll_impatient steady with ranOut | ⟨after, polled, left, limit, steady'⟩
      · simp only [pollAll, ranOut]
        exact .runOut (ih steady)
      · exact took polled left limit steady'

namespace Takes
variable {stream rest : Bytes} {calls : List Bool} {results : List (Except LinkFault Poll)}

/-- Those that run out aside, the results are what the stream gives. -/
theorem outcomes_eq (h : Takes limit stream calls results rest) :
    outcomes limit (results.filter isSettled).length stream = (results.filter isSettled, rest) := by
  induction h with
  | none => rfl
  | @next stream calls results rest patient later ih =>
    rw [List.filter_cons_of_pos (isSettled_next stream), List.length_cons, outcomes, ih]
  | runOut later ih => exact ih

/-- Only a wait without patience runs out. -/
theorem settled_of_patient (h : Takes limit stream calls results rest) :
    results.length = calls.length ∧ ∀ p ∈ calls.zip results, p.1 → isSettled p.2 := by
  induction h with
  | none => simp
  | @next stream _ _ _ _ _ ih =>
    refine ⟨congrArg (· + 1) ih.1, ?_⟩
    rw [List.zip_cons_cons]
    rintro p (_ | ⟨_, mem⟩) patient
    · exact isSettled_next stream
    · exact ih.2 p mem patient
  | runOut _ ih =>
    refine ⟨congrArg (· + 1) ih.1, ?_⟩
    rw [List.zip_cons_cons]
    rintro p (_ | ⟨_, mem⟩) patient
    · exact absurd patient Bool.false_ne_true
    · exact ih.2 p mem patient

/-- If all waits are patient, none runs out. -/
theorem filter_eq_self (h : Takes limit stream calls results rest)
    (patient : ∀ p ∈ calls, p = true) : results.filter isSettled = results := by
  induction h with
  | none => rfl
  | @next stream _ _ _ _ _ ih =>
    rw [List.filter_cons_of_pos (isSettled_next stream),
      ih fun p mem => patient p (List.mem_cons_of_mem _ mem)]
  | runOut => exact absurd (patient false List.mem_cons_self) Bool.false_ne_true

end Takes

/-! ## What a stream gives -/

/-- The things that the bytes of a stream give, one after another. -/
inductive Yields (limit : Nat) : Bytes → List (Except LinkFault Poll) → Prop
  | none (stream) : Yields limit stream []
  /-- Behind a frame reading goes on. -/
  | frame {stream payload rest results} (found : Frame.decode limit stream = .frame payload rest)
      (later : Yields limit rest results) : Yields limit stream (.ok (.frame payload) :: results)
  /-- So it does behind a frame whose payload is no text. -/
  | notText {stream t rest results}
      (found : Frame.decode limit stream = .fault (.notText t) rest)
      (later : Yields limit rest results) : Yields limit stream (.error (.notText t) :: results)
  /-- Any other fault of a frame comes again and again. -/
  | fault {stream f} (found : Frame.decode limit stream = .fault f stream)
      (header : ∀ t, f ≠ .notText t) (n : Nat) : Yields limit stream (.replicate n (.error f))
  /-- Between frames the stream ends, -/
  | closed (n : Nat) : Yields limit [] (.replicate n (.ok .closed))
  /-- and inside a frame it is cut off, with all bytes of the frame that there are. -/
  | truncated {stream} (waits : Frame.decode limit stream = .incomplete) (begun : stream ≠ [])
      (n : Nat) : Yields limit stream (.replicate n (.error (.truncated stream.length)))

/-- What takes no bytes is given again and again. -/
theorem outcomes_of_next_eq {stream : Bytes} {r : Except LinkFault Poll}
    (h : next limit stream = (r, stream)) (n : Nat) :
    (outcomes limit n stream).1 = .replicate n r := by
  induction n with
  | zero => rfl
  | succ n ih =>
    rw [outcomes, h]
    exact congrArg (r :: ·) ih

theorem yields_outcomes (limit n : Nat) (stream : Bytes) :
    Yields limit stream (outcomes limit n stream).1 := by
  induction n generalizing stream with
  | zero => exact .none stream
  | succ n ih =>
    cases found : Frame.decode limit stream with
    | frame payload rest =>
      have taken : next limit stream = (.ok (.frame payload), rest) := by rw [next, found]
      rw [outcomes, taken]
      exact .frame found (ih rest)
    | fault f rest =>
      have taken : next limit stream = (.error f, rest) := by rw [next, found]
      by_cases text : ∃ t, f = .notText t
      · obtain ⟨t, rfl⟩ := text
        rw [outcomes, taken]
        exact .notText found (ih rest)
      · have header (t) : f ≠ .notText t := fun same => text ⟨t, same⟩
        obtain rfl := Frame.rest_of_decode_fault found header
        rw [outcomes_of_next_eq taken]
        exact .fault found header _
    | incomplete =>
      have taken : next limit stream = (atEnd .closed stream, stream) := by rw [next, found]
      rw [outcomes_of_next_eq taken]
      cases stream with
      | nil => exact .closed _
      | cons b rest => exact .truncated found (List.cons_ne_nil b rest) _

/-! ## Cutting -/

/-- What is read from a stream, waits that run out aside, and what is left of it then, does not
depend on how it is cut into reads, on failures that pass or on waits without patience in between:
it is the same as when the whole stream comes in one read. A wait with patience never runs out.
What is read are the frames of the stream up to its end or to a fault, which come again and again;
behind a payload that is no text reading goes on. -/
theorem reading_ignores_cuts (limit : Nat) (reads : List Read) (calls : List Bool)
    (passing : ∀ f, .fault f ∈ reads → f.Passes) :
    let stream := reads.flatMap Read.content
    let inPieces := pollAll calls (.ofReads reads .closed limit)
    let settled := inPieces.1.filter isSettled
    let inOne := pollAll (.replicate settled.length true) (.ofReads [.bytes stream] .closed limit)
    settled = inOne.1 ∧ inPieces.2.pending = inOne.2.pending ∧ Yields limit stream settled ∧
      inPieces.1.length = calls.length ∧ ∀ p ∈ calls.zip inPieces.1, p.1 → isSettled p.2 := by
  intro stream inPieces settled inOne
  have pieces : Takes limit stream calls inPieces.1 inPieces.2.pending :=
    takes_pollAll calls (isSteady_ofReads reads limit passing)
  have one : Takes limit (stream ++ []) (.replicate settled.length true) inOne.1
      inOne.2.pending :=
    takes_pollAll _ (isSteady_ofReads [.bytes stream] limit (by simp))
  have all : inOne.1.filter isSettled = inOne.1 :=
    one.filter_eq_self fun p mem => List.eq_of_mem_replicate mem
  have length : inOne.1.length = settled.length := by
    rw [one.settled_of_patient.1, List.length_replicate]
  have same : (settled, inPieces.2.pending) = (inOne.1, inOne.2.pending) := by
    rw [← pieces.outcomes_eq, ← all, ← one.outcomes_eq, all, length, List.append_nil]
  refine ⟨congrArg Prod.fst same, congrArg Prod.snd same, ?_, pieces.settled_of_patient⟩
  have given := yields_outcomes limit settled.length stream
  rwa [pieces.outcomes_eq] at given

/-- The frames of "é" and of "ab", cut in the length, in the tag and inside the character. -/
def cutReads : List Read :=
  [.bytes [0, 0, 0], .fault ⟨.wouldBlock, "not ready"⟩, .bytes [10, 82, 73, 68, 69, 195],
    .bytes [169, 0, 0, 0, 10, 82, 73], .bytes [68, 69, 97, 98]]

/-- They come out whole, before the end of the stream. -/
theorem cut_frames_come_whole :
    let calls := [false, true, false, true, true]
    let results := [.ok .timeout, .ok (.frame "é"), .ok .timeout, .ok (.frame "ab"), .ok .closed]
    (∀ f, .fault f ∈ cutReads → f.Passes) ∧
      (pollAll calls (.ofReads cutReads .closed 16)).1 = results ∧
      results.filter isSettled =
        (pollAll [true, true, true]
          (.ofReads [.bytes (cutReads.flatMap Read.content)] .closed 16)).1 := by
  intro calls results
  have passing : ∀ f, .fault f ∈ cutReads → f.Passes := by
    simp [cutReads, StreamFault.Passes]
  have polled : (pollAll calls (.ofReads cutReads .closed 16)).1 = results := by decide +kernel
  have whole := (reading_ignores_cuts 16 cutReads calls passing).1
  rw [polled] at whole
  exact ⟨passing, polled, whole⟩

end Inlet
end DebugBridge
