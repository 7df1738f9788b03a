import DebugBridge.Link.Wire
import DebugBridge.Proofs.Link.Reading
import DebugBridge.Proofs.Link.Writing

/-!
# From one end of a stream to the other

Payloads are sent one after another, also behind one that was refused or whose write failed. At the
other end of the stream the payloads whose sending succeeded come out, and no others.
-/

namespace DebugBridge

namespace Wire

/-- The first of some payloads, as long as fewer than the given number of frames have gone out. -/
def within (room : Option Nat) (flushed : Nat) (payloads : List String) : List String :=
  match room with
  | none => payloads
  | some n => payloads.take (n - flushed)

theorem within_of_free {room : Option Nat} {flushed : Nat} (free : ∀ n ∈ room, flushed < n)
    (payload : String) (rest : List String) :
    within room flushed (payload :: rest) = payload :: within room (flushed + 1) rest := by
  cases room with
  | none => rfl
  | some n =>
    have fewer : flushed < n := free n rfl
    have next : n - flushed = (n - (flushed + 1)) + 1 := by omega
    simp only [within, next, List.take_succ_cons]

theorem within_of_full {room : Option Nat} {flushed : Nat} (full : ¬ ∀ n ∈ room, flushed < n)
    (payloads : List String) : within room flushed payloads = [] := by
  cases room with
  | none => exact absurd (fun _ none => by cases none) full
  | some n =>
    have reached : n ≤ flushed := by
      refine Nat.not_lt.mp fun fewer => full fun m same => ?_
      cases same
      exact fewer
    simp only [within, Nat.sub_eq_zero_of_le reached, List.take_zero]

/-- The payloads whose sending succeeded. -/
def accepted : List String → List (Except LinkFault Unit) → List String
  | payload :: payloads, .ok () :: results => payload :: accepted payloads results
  | _ :: payloads, .error _ :: results => accepted payloads results
  | _, _ => []

/-- Sends payloads one after another, whatever becomes of each. -/
def sendAll : List String → Wire → List (Except LinkFault Unit) × Wire
  | [], w => ([], w)
  | payload :: payloads, w =>
    let (results, after) := sendAll payloads (w.send payload).2
    ((w.send payload).1 :: results, after)

theorem sendAll_cons (payload : String) (payloads : List String) (w : Wire) :
    sendAll (payload :: payloads) w =
      ((w.send payload).1 :: (sendAll payloads (w.send payload).2).1,
        (sendAll payloads (w.send payload).2).2) := rfl

variable {room : Option Nat} {w : Wire}

/-- The link with another outlet, once a payload has been recorded unless it is too large. -/
def tried (w : Wire) (payload : String) (outlet : Outlet) : Wire where
  inlet := w.inlet
  outlet := outlet
  traffic := w.traffic ++ ([payload].filter (Frame.Fits w.outlet.limit)).map (⟨.outbound, ·⟩)

theorem send_eq (w : Wire) (payload : String) :
    w.send payload =
      ((w.outlet.send payload).1, w.tried payload (w.outlet.send payload).2) := by
  have recorded : w.outlet.admits payload ↔ Frame.Fits w.outlet.limit payload :=
    w.outlet.admits_iff payload
  by_cases fits : Frame.Fits w.outlet.limit payload
  · simp [send, tried, recorded.mpr fits, fits]
  · have refused : w.outlet.admits payload = false := by simpa using mt recorded.mp fits
    simp [send, tried, refused, fits]

/-- What becomes of payloads that are sent over a stream that fails from some frame on: those that
are not too large are recorded, and the first of them are written. -/
structure Sends (room : Option Nat) (payloads : List String) (w : Wire)
    (results : List (Except LinkFault Unit)) (after : Wire) : Prop where
  each : results.length = payloads.length
  accepted_eq : accepted payloads results =
    within room w.outlet.sink.flushed (payloads.filter (Frame.Fits w.outlet.limit))
  written : after.outlet.sink.written =
    w.outlet.sink.written ++ (accepted payloads results).flatMap Frame.image
  recorded : after.traffic =
    w.traffic ++ (payloads.filter (Frame.Fits w.outlet.limit)).map (⟨.outbound, ·⟩)

namespace Sends
variable {after : Wire} {outlet : Outlet} {payload : String} {payloads : List String}
  {results : List (Except LinkFault Unit)}

theorem none (room : Option Nat) (w : Wire) : Sends room [] w [] w := by
  constructor
  · rfl
  · cases room <;> simp [accepted, within]
  · simp [accepted]
  · simp

/-- A payload that is not sent leaves no byte on the stream. -/
theorem skip (later : Sends room payloads (w.tried payload outlet) results after)
    (limit : outlet.limit = w.outlet.limit)
    (flushed : outlet.sink.flushed = w.outlet.sink.flushed)
    (written : outlet.sink.written = w.outlet.sink.written)
    (kept_back : Frame.Fits w.outlet.limit payload → ¬ ∀ n ∈ room, w.outlet.sink.flushed < n)
    (f : LinkFault) : Sends room (payload :: payloads) w (.error f :: results) after where
  each := congrArg (· + 1) later.each
  accepted_eq := by
    rw [accepted, later.accepted_eq, tried, limit, flushed]
    by_cases fits : Frame.Fits w.outlet.limit payload
    · rw [within_of_full (kept_back fits), within_of_full (kept_back fits)]
    · rw [List.filter_cons_of_neg (by simpa using fits)]
  written := by
    rw [later.written, tried, written]
    rfl
  recorded := by
    rw [later.recorded, tried, limit, List.append_assoc, ← List.map_append,
      ← List.filter_append, List.singleton_append]

/-- A payload that is sent leaves its frame on the stream. -/
theorem send (later : Sends room payloads (w.tried payload outlet) results after)
    (limit : outlet.limit = w.outlet.limit)
    (flushed : outlet.sink.flushed = w.outlet.sink.flushed + 1)
    (written : outlet.sink.written = w.outlet.sink.written ++ Frame.image payload)
    (fits : Frame.Fits w.outlet.limit payload) (free : ∀ n ∈ room, w.outlet.sink.flushed < n) :
    Sends room (payload :: payloads) w (.ok () :: results) after where
  each := congrArg (· + 1) later.each
  accepted_eq := by
    rw [accepted, later.accepted_eq, tried, limit, flushed,
      List.filter_cons_of_pos (by simpa using fits), within_of_free free]
  written := by
    rw [later.written, tried, written, accepted, List.flatMap_cons, List.append_assoc]
  recorded := by
    rw [later.recorded, tried, limit, List.append_assoc, ← List.map_append,
      ← List.filter_append, List.singleton_append]

end Sends

theorem sends_sendAll (h : w.outlet.sink.FailsAfter room) (payloads : List String) :
    Sends room payloads w (sendAll payloads w).1 (sendAll payloads w).2 := by
  induction payloads generalizing w with
  | nil => exact .none room w
  | cons payload payloads ih =>
    have step := w.outlet.sending payload
    rw [sendAll_cons, send_eq]
    generalize w.outlet.send payload = sent at step
    obtain ⟨result, outlet⟩ := sent
    have later (h : outlet.sink.FailsAfter room) := @ih (w.tried payload outlet) h
    cases step with
    | refused large => exact .skip (later h) rfl rfl rfl (fun fits => absurd fits large) _
    | unwritten fits fated =>
      refine .skip (later ⟨h.progress, h.free_iff⟩) rfl rfl (List.append_nil _) (fun _ free => ?_) _
      rw [← h.free_iff, fated] at free
      cases free
    | broken _ _ _ stops =>
      obtain ⟨position, stop⟩ := stops
      exact absurd stop (h.progress position)
    | whole fits free =>
      refine .send (later ⟨h.progress, h.free_iff⟩) rfl rfl rfl fits ?_
      exact (h.free_iff _ _).mp free

end Wire

/-! ## The other end -/

namespace Inlet
variable {limit : Nat}

theorem next_image {payload : String} (fits : Frame.Fits limit payload) (rest : Bytes) :
    next limit (Frame.image payload ++ rest) = (.ok (.frame payload), rest) := by
  rw [next, Frame.decode_image fits]

/-- A stream of frames gives their payloads and then its end. -/
theorem outcomes_images {payloads : List String} (fits : ∀ p ∈ payloads, Frame.Fits limit p)
    (n : Nat) :
    (outcomes limit (payloads.length + n) (payloads.flatMap Frame.image)).1 =
      payloads.map (.ok <| .frame ·) ++ .replicate n (.ok .closed) := by
  induction payloads with
  | nil =>
    rw [List.length_nil, Nat.zero_add]
    exact outcomes_of_next_eq rfl n
  | cons payload payloads ih =>
    have later := ih fun p mem => fits p (List.mem_cons_of_mem _ mem)
    rw [List.length_cons, Nat.add_right_comm, List.flatMap_cons, outcomes,
      next_image (fits payload List.mem_cons_self)]
    exact congrArg (.ok (.frame payload) :: ·) later

/-- Waits with patience take what the stream gives, however it is cut. -/
theorem pollAll_patient {reads : List Read} (passing : ∀ f, .fault f ∈ reads → f.Passes)
    (n : Nat) :
    (pollAll (.replicate n true) (.ofReads reads .closed limit)).1 =
      (outcomes limit n (reads.flatMap Read.content)).1 := by
  have takes := takes_pollAll (.replicate n true) (isSteady_ofReads reads limit passing)
  have all := takes.filter_eq_self fun p mem => List.eq_of_mem_replicate mem
  have given := takes.outcomes_eq
  rw [all, takes.settled_of_patient.1, List.length_replicate] at given
  exact (congrArg Prod.fst given).symm

end Inlet

namespace Wire

open Inlet

/-- Payloads are sent over a stream that takes bytes in pieces of any size and fails from some frame
on. The other end reads exactly the payloads whose sending succeeded, in order, and then the end of
the stream, however the bytes are cut into reads. These are the first of the payloads that are not
too large, as many as the stream takes; all that are not too large are recorded, and no others. -/
theorem accepted_come_out (limit : Nat) (piece : Nat → Option Nat)
    (progress : ∀ n, piece n ≠ some 0) (budget : Option Nat) (failure : WriteFailure)
    (inlet : Inlet) (payloads : List String) :
    let stream := (Sink.inPieces piece).withBudget budget failure
    let results := (sendAll payloads (.ofSides inlet (.ofSink stream limit))).1
    let after := (sendAll payloads (.ofSides inlet (.ofSink stream limit))).2
    let came := accepted payloads results
    let fitting := payloads.filter fun p =>
      8 + (Text.bytes p).length ≤ limit ∧ 8 + (Text.bytes p).length ≤ 0xFFFFFFFF
    results.length = payloads.length ∧
    came = (match budget with | none => fitting | some n => fitting.take n) ∧
    (∀ (reads : List Read) (n : Nat), (∀ f, .fault f ∈ reads → f.Passes) →
      reads.flatMap Read.content = after.outlet.sink.written →
      (pollAll (.replicate (came.length + n) true) (.ofReads reads .closed limit)).1 =
        came.map (.ok <| .frame ·) ++ .replicate n (.ok .closed)) ∧
    after.traffic = fitting.map (⟨.outbound, ·⟩) := by
  intro stream results after came fitting
  have sends : Sends budget payloads (.ofSides inlet (.ofSink stream limit)) results after :=
    sends_sendAll (Sink.failsAfter_withBudget progress budget failure) payloads
  have same : payloads.filter (Frame.Fits limit) = fitting :=
    List.filter_congr fun p _ => decide_eq_decide.mpr (and_congr Iff.rfl Nat.lt_succ_iff)
  have taken : came = within budget 0 fitting := same ▸ sends.accepted_eq
  refine ⟨sends.each, ?came, ?read, ?traffic⟩
  case came =>
    rw [taken]
    cases budget <;> rfl
  case read =>
    intro reads n passing whole
    have fits (p : String) (mem : p ∈ came) : Frame.Fits limit p := by
      have inside : p ∈ fitting := by
        rw [taken] at mem
        cases budget with
        | none => exact mem
        | some n => exact List.mem_of_mem_take mem
      rw [← same, List.mem_filter, decide_eq_true_eq] at inside
      exact inside.2
    rw [pollAll_patient passing, whole, sends.written]
    exact outcomes_images fits n
  case traffic =>
    rw [sends.recorded]
    exact same ▸ rfl

/-- Of four payloads one is too large, and the stream takes two frames, three bytes at a time. -/
theorem two_of_four_come_out :
    let payloads := ["é", "too large", "ab", "c"]
    let stream := (Sink.inPieces fun _ => some 3).withBudget (some 2) Sink.linkDown
    let after := (sendAll payloads (.ofSides (.ofReads [] .silent 16) (.ofSink stream 16))).2
    (∀ n, (fun _ : Nat => some 3) n ≠ some 0) ∧
      cutReads.flatMap Read.content = after.outlet.sink.written ∧
      (pollAll [true, true, true] (.ofReads cutReads .closed 16)).1 =
        [.ok (.frame "é"), .ok (.frame "ab"), .ok .closed] ∧
      after.traffic = [⟨.outbound, "é"⟩, ⟨.outbound, "ab"⟩, ⟨.outbound, "c"⟩] := by
  have progress (n : Nat) : (fun _ : Nat => some 3) n ≠ some 0 := by simp
  have passing : ∀ f, .fault f ∈ cutReads → f.Passes := by
    simp [cutReads, StreamFault.Passes]
  have fitting : (["é", "too large", "ab", "c"].filter fun p =>
      8 + (Text.bytes p).length ≤ 16 ∧ 8 + (Text.bytes p).length ≤ 0xFFFFFFFF) =
      ["é", "ab", "c"] := by decide +kernel
  obtain ⟨_, came, read, traffic⟩ := accepted_come_out 16 (fun _ => some 3) progress (some 2)
    Sink.linkDown (.ofReads [] .silent 16) ["é", "too large", "ab", "c"]
  have read := read cutReads 1 passing
  rw [came, fitting] at read
  rw [fitting] at traffic
  refine ⟨progress, ?whole, read ?whole, traffic⟩
  decide +kernel

end Wire
end DebugBridge
