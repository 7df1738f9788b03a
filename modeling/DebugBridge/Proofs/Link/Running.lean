import DebugBridge.Link.Conversation
import DebugBridge.Proofs.Link.Arrivals
import Mathlib.Data.Nat.Init

/-!
# Running a conversation

To run a conversation is to take in the payloads of the frames with which its stream begins, one
after another, and then to close the feed (`run_takes_in_frames`). What is taken in does not
depend on how the stream is cut, nor on waits that run out in between.
-/

namespace DebugBridge

/-! ## What is taken in does not touch what is read -/

namespace Gate

/-- The gate with another stream to read from and another record of traffic. -/
def onto (g : Gate) (inlet : Inlet) (traffic : List Passage) : Gate :=
  { g with wire := ⟨inlet, g.wire.outlet, traffic⟩ }

theorem write_onto (g : Gate) (c : Command) (inlet : Inlet) (traffic : List Passage) :
    ∃ traffic', (g.onto inlet traffic).write c =
      ((g.write c).1, (g.write c).2.onto inlet traffic') := by
  unfold write onto Wire.send
  dsimp only
  cases g.wire.outlet.send c.payload with
  | mk result outlet => cases result <;> exact ⟨_, rfl⟩

theorem replay_onto (queue : List Command) (g : Gate) (inlet : Inlet) (traffic : List Passage) :
    ∃ traffic', replay queue (g.onto inlet traffic) =
      ((replay queue g).1, (replay queue g).2.onto inlet traffic') := by
  induction queue generalizing g traffic with
  | nil => exact ⟨traffic, rfl⟩
  | cons c rest ih =>
    obtain ⟨traffic', same⟩ := g.write_onto c inlet traffic
    rw [replay, replay, same]
    cases g.write c with
    | mk result g' =>
      cases result with
      | ok => exact ih g' traffic'
      | error f => exact ⟨traffic', rfl⟩

theorem writeCloses_onto (wins : List Int64) (g : Gate) (inlet : Inlet) (traffic : List Passage) :
    ∃ traffic', writeCloses (g.onto inlet traffic) wins =
      (writeCloses g wins).onto inlet traffic' := by
  induction wins generalizing g traffic with
  | nil => exact ⟨traffic, rfl⟩
  | cons win rest ih =>
    obtain ⟨traffic', same⟩ := g.write_onto (.closeWindow ⟨win⟩) inlet traffic
    rw [writeCloses, writeCloses, List.foldl_cons, List.foldl_cons, same]
    exact ih _ traffic'

theorem hear_onto (g : Gate) (m : Message) (inlet : Inlet) (traffic : List Passage) :
    ∃ traffic', (g.onto inlet traffic).hear m = (g.hear m).onto inlet traffic' := by
  cases m with
  | raw => exact ⟨traffic, rfl⟩
  | command c =>
    rw [hear, hear, observe.eq_def, observe.eq_def]
    cases c with
    | setPromptType p =>
      let told : Gate := { g with prompt := some p.prompt }
      change ∃ traffic', (if told.isBusy then told.onto inlet traffic
          else (told.onto inlet traffic).flush.2) =
        (if told.isBusy then told else told.flush.2).onto inlet traffic'
      split
      case isTrue => exact ⟨traffic, rfl⟩
      case isFalse =>
        obtain ⟨traffic', same⟩ := replay_onto told.queue told inlet traffic
        exact ⟨traffic', congrArg Prod.snd same⟩
    | replySaveChanges r => exact writeCloses_onto _ { g with saves := _, held := _ } inlet traffic
    | _ => exact ⟨traffic, rfl⟩

end Gate

namespace Conversation

/-- The conversation with another stream to read from and another record of traffic. -/
def onto (c : Conversation) (inlet : Inlet) (traffic : List Passage) : Conversation :=
  { c with gate := c.gate.onto inlet traffic }

theorem onto_onto (c : Conversation) (i j : Inlet) (t u : List Passage) :
    (c.onto i t).onto j u = c.onto j u := rfl

theorem dispatch_onto (c : Conversation) (payload : String) (inlet : Inlet)
    (traffic : List Passage) :
    ∃ traffic', (c.onto inlet traffic).dispatch payload =
      (c.dispatch payload).onto inlet traffic' := by
  obtain ⟨traffic', same⟩ := c.gate.hear_onto (.ofPayload payload) inlet traffic
  refine ⟨traffic', ?_⟩
  unfold dispatch onto
  dsimp only
  rw [same]

theorem foldl_dispatch_onto (payloads : List String) (c : Conversation) (inlet : Inlet)
    (traffic : List Passage) :
    ∃ traffic', payloads.foldl dispatch (c.onto inlet traffic) =
      (payloads.foldl dispatch c).onto inlet traffic' := by
  induction payloads generalizing c traffic with
  | nil => exact ⟨traffic, rfl⟩
  | cons payload payloads ih =>
    obtain ⟨traffic', same⟩ := c.dispatch_onto payload inlet traffic
    rw [List.foldl_cons, List.foldl_cons, same]
    exact ih (c.dispatch payload) traffic'

end Conversation

/-! ## What waits give -/

namespace Inlet
variable {i : Inlet} {payloads : List String} {rest : Bytes}

theorem poll_eq_outlook (i : Inlet) :
    ∃ after, i.poll true =
        (outlook i.limit i.ending (Read.failure? i.reads) i.arrived, after) ∧
      after.limit = i.limit ∧ after.ending = i.ending ∧
      ∀ payload later, Frame.decode i.limit i.arrived = .frame payload later →
        later = after.arrived ∧ Read.failure? after.reads = Read.failure? i.reads := by
  obtain ⟨left, rest, polled, taken⟩ := pollFrom_eq_outlook i.limit i.ending i.reads i.buffer
  refine ⟨{ i with reads := left, buffer := rest }, ?_, rfl, rfl, taken⟩
  rw [poll, polled]
  rfl

/-- Waits give frames with these payloads, one after another, and then something else. -/
inductive Gives : Inlet → List String → Except LinkFault Poll → Prop
  | last {i after result} (polled : i.poll true = (result, after))
      (other : ∀ payload, result ≠ .ok (.frame payload)) : Gives i [] result
  | frame {i after payload payloads result} (polled : i.poll true = (.ok (.frame payload), after))
      (later : Gives after payloads result) : Gives i (payload :: payloads) result

theorem Gives.of_poll_eq {after : Inlet} {result : Except LinkFault Poll}
    (same : after.poll true = i.poll true) (gives : Gives i payloads result) :
    Gives after payloads result := by
  cases gives with
  | last polled other => exact .last (same.trans polled) other
  | frame polled later => exact .frame (same.trans polled) later

theorem Gives.pollAll {result : Except LinkFault Poll} (gives : Gives i payloads result) :
    (pollAll (.replicate (payloads.length + 1) true) i).1 =
      payloads.map (.ok <| .frame ·) ++ [result] := by
  induction gives with
  | last polled => simp [Inlet.pollAll, polled]
  | frame polled later ih =>
    rw [List.length_cons, List.replicate_succ, Inlet.pollAll, polled, List.map_cons,
      List.cons_append]
    dsimp only
    rw [ih]

/-- Behind the frames with which a stream begins, waits give what is found there. -/
theorem gives_of_begins (begins : Frame.Begins i.limit payloads i.arrived rest)
    (last : ∀ payload later, Frame.decode i.limit rest ≠ .frame payload later) :
    Gives i payloads (outlook i.limit i.ending (Read.failure? i.reads) rest) := by
  induction payloads generalizing i with
  | nil =>
    obtain rfl := Frame.begins_nil.mp begins
    obtain ⟨after, polled, -⟩ := i.poll_eq_outlook
    exact .last polled (outlook_ne_frame last _ _)
  | cons payload payloads ih =>
    obtain ⟨later, found, begins⟩ := Frame.begins_cons.mp begins
    obtain ⟨after, polled, limit, ending, taken⟩ := i.poll_eq_outlook
    obtain ⟨rfl, failure⟩ := taken payload later found
    have others := ih (i := after) (limit ▸ begins) (limit ▸ last)
    rw [limit, ending, failure] at others
    rw [outlook.eq_def, found] at polled
    exact .frame polled others

/-- Every stream begins with some frames, and no further frame is found behind them. -/
theorem exists_begins (limit : Nat) (stream : Bytes) :
    ∃ payloads rest, Frame.Begins limit payloads stream rest ∧
      ∀ payload later, Frame.decode limit rest ≠ .frame payload later := by
  induction size : stream.length using Nat.strong_induction_on generalizing stream with
  | _ n ih =>
    by_cases first : ∃ payload later, Frame.decode limit stream = .frame payload later
    · obtain ⟨payload, later, found⟩ := first
      have shorter : later.length < n := by
        obtain ⟨-, rfl⟩ := Frame.eq_image_of_decode found
        rw [← size, List.length_append, Frame.length_image, Frame.size, Frame.headerLength]
        omega
      obtain ⟨payloads, rest, begins, last⟩ := ih later.length shorter later rfl
      exact ⟨payload :: payloads, rest, Frame.begins_cons.mpr ⟨later, found, begins⟩, last⟩
    · exact ⟨[], stream, Frame.begins_nil.mpr rfl, fun payload later found =>
        first ⟨payload, later, found⟩⟩

theorem length_arrived_le (reads : List Read) :
    (Read.arrived reads).length ≤ (reads.flatMap Read.content).length := by
  induction reads with
  | nil => exact Nat.le_refl _
  | cons read reads ih =>
    rw [List.flatMap_cons, List.length_append]
    cases read with
    | bytes content =>
      rw [Read.arrived, List.length_append]
      exact Nat.add_le_add_left ih _
    | fault f =>
      rw [Read.arrived]
      split
      case isTrue => exact Nat.le_add_left_of_le ih
      case isFalse => exact Nat.zero_le _

theorem length_le_size (begins : Frame.Begins i.limit payloads i.arrived rest) :
    payloads.length ≤ i.size :=
  calc
    payloads.length ≤ (payloads.flatMap Frame.image).length :=
      Frame.length_le_length_images payloads
    _ ≤ i.arrived.length := by
      rw [begins.split, List.length_append]
      exact Nat.le_add_right _ _
    _ ≤ i.size := by
      rw [arrived, size, List.length_append, List.length_append]
      exact Nat.add_le_add_left (length_arrived_le i.reads) _

end Inlet

/-! ## Running to the end -/

/-- How a run ends when a wait gives something else than a frame. -/
def Exit.ofPoll : Except LinkFault Poll → Exit
  | .ok .closed => .endOfStream
  | .error f => .failed f
  | .ok .timeout | .ok (.frame _) => .waiting

namespace Conversation

theorem runFrames_succ (c : Conversation) (fuel : Nat) :
    ∃ traffic, runFrames (fuel + 1) c =
      match c.gate.wire.inlet.poll true with
      | (.ok (.frame payload), inlet) => runFrames fuel ((c.onto inlet traffic).dispatch payload)
      | (last, inlet) => (Exit.ofPoll last, c.onto inlet traffic) := by
  rw [runFrames, Wire.poll]
  obtain ⟨result, inlet⟩ := c.gate.wire.inlet.poll true
  match result with
  | .ok (.frame payload) => exact ⟨_, rfl⟩
  | .ok .closed => exact ⟨_, rfl⟩
  | .ok .timeout => exact ⟨_, rfl⟩
  | .error f => exact ⟨_, rfl⟩

/-- A run takes in the payloads that waits give, up to the first wait that gives none. -/
theorem runFrames_of_gives {c : Conversation} {payloads : List String}
    {last : Except LinkFault Poll} {fuel : Nat} (gives : c.gate.wire.inlet.Gives payloads last)
    (enough : payloads.length < fuel) :
    ∃ inlet traffic, runFrames fuel c =
      (Exit.ofPoll last, (payloads.foldl dispatch c).onto inlet traffic) := by
  induction fuel generalizing c payloads with
  | zero => exact absurd enough (Nat.not_lt_zero _)
  | succ fuel ih =>
    obtain ⟨traffic, step⟩ := c.runFrames_succ fuel
    rw [step]
    cases gives with
    | last polled other =>
      rw [polled]
      split
      case h_1 same => cases same; exact absurd rfl (other _)
      case h_2 same => cases same; exact ⟨_, _, rfl⟩
    | @frame _ after payload payloads _ polled later =>
      rw [polled]
      dsimp only
      obtain ⟨traffic', taken⟩ := c.dispatch_onto payload after traffic
      obtain ⟨inlet, traffic'', run⟩ := ih (c := (c.dispatch payload).onto after traffic') later
        (Nat.lt_of_succ_lt_succ enough)
      obtain ⟨_, same⟩ := foldl_dispatch_onto payloads (c.dispatch payload) after traffic'
      rw [taken, run, same, onto_onto, List.foldl_cons]
      exact ⟨inlet, traffic'', rfl⟩

end Conversation

/-- How a run ends whose stream has these bytes left, in which no frame is found, whose reads fail
for good in this way, if they do, and which goes on as its ending says. -/
inductive Ends (limit : Nat) : StreamEnd → Option StreamFault → Bytes → Exit → Prop
  /-- The stream ends between frames, -/
  | boundary : Ends limit .closed none [] .endOfStream
  /-- or inside a frame. -/
  | truncated {rest} (part : Frame.decode limit rest = .incomplete) (begun : rest ≠ []) :
      Ends limit .closed none rest (.failed (.truncated rest.length))
  /-- The next frame is malformed. -/
  | malformed {ending failure rest f later} (found : Frame.decode limit rest = .fault f later) :
      Ends limit ending failure rest (.failed f)
  /-- A read fails before the next frame is whole. -/
  | broken {ending rest f} (part : Frame.decode limit rest = .incomplete) :
      Ends limit ending (some f) rest (.failed (.stream f))
  /-- The next frame never becomes whole. -/
  | pending {rest} (part : Frame.decode limit rest = .incomplete) :
      Ends limit .silent none rest .waiting

theorem ends_outlook {limit : Nat} {rest : Bytes}
    (last : ∀ payload later, Frame.decode limit rest ≠ .frame payload later) (ending : StreamEnd)
    (failure : Option StreamFault) :
    Ends limit ending failure rest (Exit.ofPoll (Inlet.outlook limit ending failure rest)) := by
  unfold Inlet.outlook
  cases found : Frame.decode limit rest with
  | frame payload later => exact absurd found (last payload later)
  | fault f later => exact .malformed found
  | incomplete =>
    cases failure with
    | some f => exact .broken found
    | none =>
      cases ending with
      | silent => exact .pending found
      | closed =>
        cases rest with
        | nil => exact .boundary
        | cons b rest => exact .truncated found (List.cons_ne_nil b rest)

theorem Ends.endOfStream_iff {limit : Nat} {ending : StreamEnd} {failure : Option StreamFault}
    {rest : Bytes} {exit : Exit} (ends : Ends limit ending failure rest exit) :
    exit = .endOfStream ↔ rest = [] ∧ failure = none ∧ ending = .closed := by
  cases ends with
  | boundary => simp
  | truncated part begun => simp [begun]
  | broken part => simp
  | pending part => simp
  | malformed found =>
    suffices rest ≠ [] by simp [this]
    rintro rfl
    simp [Frame.decode] at found

/-! ## Waits that run out -/

namespace Inlet

/-- A wait whose time is up after so many reads. -/
def pollFor : Nat → Inlet → Except LinkFault Poll × Inlet
  | 0, i => i.poll false
  | reads + 1, i =>
    match i.poll false with
    | (.ok .timeout, i) =>
      match i.reads with
      | [] => (atEnd i.ending i.buffer, i)
      | .bytes content :: left =>
        pollFor reads { i with reads := left, buffer := i.buffer ++ content }
      | .fault f :: left =>
        if f.isTransient then pollFor reads { i with reads := left }
        else (.error (.stream f), { i with reads := left })
    | found => found

theorem poll_false_of_incomplete {i : Inlet} (waits : Frame.decode i.limit i.buffer = .incomplete) :
    i.poll false = (.ok .timeout, i) := by
  unfold poll pollFrom
  rw [waits]
  rfl

/-- What is buffered is given at once. -/
theorem poll_false_of_found {i : Inlet} (found : Frame.decode i.limit i.buffer ≠ .incomplete) :
    i.poll false = i.poll true ∧ (i.poll false).1 ≠ .ok .timeout := by
  unfold poll pollFrom
  cases decoded : Frame.decode i.limit i.buffer with
  | incomplete => exact absurd decoded found
  | frame payload rest => simp
  | fault f rest => simp

/-- A wait with patience makes a read and goes on. -/
theorem poll_true_of_incomplete {i : Inlet} (waits : Frame.decode i.limit i.buffer = .incomplete) :
    i.poll true =
      match i.reads with
      | [] => (atEnd i.ending i.buffer, i)
      | .bytes content :: left =>
        poll { i with reads := left, buffer := i.buffer ++ content } true
      | .fault f :: left =>
        if f.isTransient then poll { i with reads := left } true
        else (.error (.stream f), { i with reads := left }) := by
  obtain ⟨limit, reads, ending, buffer⟩ := i
  match reads with
  | [] =>
    unfold poll pollFrom
    rw [waits]
    rfl
  | .bytes content :: left =>
    unfold poll
    rw [pollFrom, waits]
    rfl
  | .fault f :: left =>
    unfold poll
    rw [pollFrom, waits]
    by_cases passes : f.isTransient <;> simp [passes]

theorem pollFor_succ_of_incomplete {i : Inlet} {reads : Nat}
    (waits : Frame.decode i.limit i.buffer = .incomplete) :
    i.pollFor (reads + 1) =
      match i.reads with
      | [] => (atEnd i.ending i.buffer, i)
      | .bytes content :: left =>
        pollFor reads { i with reads := left, buffer := i.buffer ++ content }
      | .fault f :: left =>
        if f.isTransient then pollFor reads { i with reads := left }
        else (.error (.stream f), { i with reads := left }) := by
  rw [pollFor, poll_false_of_incomplete waits]

theorem pollFor_of_found {i : Inlet} (found : Frame.decode i.limit i.buffer ≠ .incomplete)
    (reads : Nat) : i.pollFor reads = i.poll false := by
  cases reads with
  | zero => rfl
  | succ reads =>
    obtain ⟨-, settled⟩ := poll_false_of_found found
    rw [pollFor]
    split
    case h_1 after polled => exact absurd (congrArg Prod.fst polled) settled
    case h_2 => rfl

/-- A wait runs out and leaves what is to come as it is, or gives what one with patience gives. -/
theorem pollFor_cases (reads : Nat) (i : Inlet) :
    (∃ after, i.pollFor reads = (.ok .timeout, after) ∧ after.poll true = i.poll true) ∨
      i.pollFor reads = i.poll true := by
  induction reads generalizing i with
  | zero =>
    by_cases waits : Frame.decode i.limit i.buffer = .incomplete
    · exact .inl ⟨i, poll_false_of_incomplete waits, rfl⟩
    · exact .inr (poll_false_of_found waits).1
  | succ reads ih =>
    by_cases waits : Frame.decode i.limit i.buffer = .incomplete
    · rw [pollFor_succ_of_incomplete waits, poll_true_of_incomplete waits]
      obtain ⟨limit, made, ending, buffer⟩ := i
      match made with
      | [] => exact .inr rfl
      | .bytes content :: left => exact ih _
      | .fault f :: left =>
        by_cases passes : f.isTransient
        · simpa only [passes, if_true] using ih _
        · simp [passes]
    · rw [pollFor_of_found waits]
      exact .inr (poll_false_of_found waits).1

/-- How much is still to be read and to be taken out. -/
def work (i : Inlet) : Nat := i.size + i.reads.length

/-- How much of the work is done at least when a wait with time for so many reads gives this. -/
def progress (reads : Nat) : Poll → Nat
  | .frame _ => 1
  | .timeout => min reads 1
  | .closed => 0

theorem progress_le_one (reads : Nat) (p : Poll) : progress reads p ≤ 1 := by
  cases p <;> simp [progress]

theorem work_read (limit : Nat) (read : Read) (left : List Read) (ending : StreamEnd)
    (buffer : Bytes) :
    work ⟨limit, left, ending, buffer ++ read.content⟩ + 1 =
      work ⟨limit, read :: left, ending, buffer⟩ := by
  simp only [work, size, List.flatMap_cons, List.append_assoc, List.length_cons]
  omega

theorem work_poll_false {i after : Inlet} {p : Poll} (polled : i.poll false = (.ok p, after)) :
    after.work + progress 0 p ≤ i.work := by
  unfold poll pollFrom at polled
  cases decoded : Frame.decode i.limit i.buffer with
  | incomplete =>
    rw [decoded] at polled
    cases polled
    exact Nat.le_refl _
  | fault f rest =>
    rw [decoded] at polled
    cases polled
  | frame payload rest =>
    rw [decoded] at polled
    cases polled
    have shorter : rest.length < i.buffer.length := by
      obtain ⟨-, split⟩ := Frame.eq_image_of_decode decoded
      rw [split, List.length_append, Frame.length_image, Frame.size, Frame.headerLength]
      omega
    simp only [work, size, List.length_append, progress]
    omega

theorem progress_zero_of_ne {p : Poll} (settled : p ≠ .timeout) (reads : Nat) :
    progress reads p = progress 0 p := by
  cases p with
  | timeout => exact absurd rfl settled
  | frame | closed => rfl

/-- Every wait that may make a read gets on with the work, where patience gives something. -/
theorem work_pollFor {reads : Nat} {i after : Inlet} {p : Poll}
    (settled : (i.poll true).1 ≠ .ok .timeout) (polled : i.pollFor reads = (.ok p, after)) :
    after.work + progress reads p ≤ i.work := by
  induction reads generalizing i with
  | zero => exact work_poll_false polled
  | succ reads ih =>
    by_cases waits : Frame.decode i.limit i.buffer = .incomplete
    case neg =>
      rw [pollFor_of_found waits] at polled
      have other : p ≠ .timeout := by
        rintro rfl
        exact (poll_false_of_found waits).2 (congrArg Prod.fst polled)
      rw [progress_zero_of_ne other]
      exact work_poll_false polled
    case pos =>
      rw [pollFor_succ_of_incomplete waits] at polled
      rw [poll_true_of_incomplete waits] at settled
      obtain ⟨limit, made, ending, buffer⟩ := i
      have oneRead {read : Inlet} (less : after.work + progress reads p ≤ read.work) :
          after.work + progress (reads + 1) p ≤ read.work + 1 := by
        have atMost := progress_le_one (reads + 1) p
        omega
      match made with
      | [] =>
        obtain ⟨given, rfl⟩ := Prod.mk.inj polled
        cases ending with
        | silent => exact absurd rfl settled
        | closed =>
          cases buffer with
          | nil =>
            cases given
            exact Nat.le_refl _
          | cons b buffer => cases given
      | .bytes content :: left =>
        exact (oneRead (ih settled polled)).trans_eq
          (work_read limit (.bytes content) left ending buffer)
      | .fault f :: left =>
        by_cases passes : f.isTransient
        · simp only [passes, if_true] at polled settled
          rw [← List.append_nil buffer] at polled settled
          exact (oneRead (ih settled polled)).trans_eq
            (work_read limit (.fault f) left ending buffer)
        · simp [passes] at polled

end Inlet

namespace Conversation

/-- Takes in one frame after another, where the time of each wait is up after so many reads, while
there is time. -/
def runWaits : List Nat → Conversation → Exit × Conversation
  | [], c => (.waiting, c)
  | reads :: waits, c =>
    let (result, inlet) := c.gate.wire.inlet.pollFor reads
    let c := c.onto inlet c.gate.wire.traffic
    match result with
    | .ok (.frame payload) => runWaits waits (c.dispatch payload)
    | .ok .timeout => runWaits waits c
    | other => (Exit.ofPoll other, c)

/-- Waits that run out change nothing, and with as many as there is work a run comes to its end. -/
theorem runWaits_of_gives {c : Conversation} {payloads : List String}
    {last : Except LinkFault Poll} {waits : List Nat}
    (gives : c.gate.wire.inlet.Gives payloads last) (settled : last ≠ .ok .timeout)
    (enough : c.gate.wire.inlet.work < waits.countP (0 < ·)) :
    ∃ inlet traffic, runWaits waits c =
      (Exit.ofPoll last, (payloads.foldl dispatch c).onto inlet traffic) := by
  induction waits generalizing c payloads with
  | nil => exact absurd enough (Nat.not_lt_zero _)
  | cons reads waits ih =>
    have count : (reads :: waits).countP (0 < ·) = waits.countP (0 < ·) + min reads 1 := by
      cases reads with
      | zero => simp
      | succ reads => simp [Nat.le_add_left 1 reads]
    rw [count] at enough
    have given : (c.gate.wire.inlet.poll true).1 ≠ .ok .timeout := by
      cases gives with
      | last polled => exact polled ▸ settled
      | frame polled => simp [polled]
    rw [runWaits]
    rcases c.gate.wire.inlet.pollFor_cases reads with ⟨after, late, same⟩ | same
    · have less := Inlet.work_pollFor given late
      rw [Inlet.progress] at less
      obtain ⟨inlet, traffic, run⟩ := ih (c := c.onto after c.gate.wire.traffic)
        (gives.of_poll_eq same) (by change after.work < _; omega)
      obtain ⟨_, moved⟩ := foldl_dispatch_onto payloads c after c.gate.wire.traffic
      rw [late]
      dsimp only
      rw [run, moved, onto_onto]
      exact ⟨inlet, traffic, rfl⟩
    · cases gives with
      | last polled other =>
        rw [same, polled]
        dsimp only
        split
        case h_1 => exact absurd rfl (other _)
        case h_2 => exact absurd rfl settled
        case h_3 => exact ⟨_, _, rfl⟩
      | @frame _ after payload payloads _ polled later =>
        have less := Inlet.work_pollFor given (same.trans polled)
        rw [Inlet.progress] at less
        obtain ⟨traffic, taken⟩ := c.dispatch_onto payload after c.gate.wire.traffic
        obtain ⟨inlet, traffic', run⟩ := ih (c := (c.dispatch payload).onto after traffic)
          later (by change after.work < _; omega)
        obtain ⟨_, moved⟩ := foldl_dispatch_onto payloads (c.dispatch payload) after traffic
        rw [same, polled]
        dsimp only
        rw [taken, run, moved, onto_onto, List.foldl_cons]
        exact ⟨inlet, traffic', rfl⟩

/-- A run takes in the payloads of the frames with which the stream begins, one after another, and
ends as the reading of what is behind them ends; then the feed is closed. So does a run whose waits
run out, if there are enough of them. A run that has been cancelled takes in nothing. -/
theorem run_takes_in_frames (c : Conversation) :
    ∃ payloads rest last inlet traffic,
      -- The frames are all those that come whole before the end or an error.
      Frame.Begins c.gate.wire.inlet.limit payloads c.gate.wire.inlet.arrived rest ∧
      (∀ payload later, Frame.decode c.gate.wire.inlet.limit rest ≠ .frame payload later) ∧
      (c.run false).2 = ((payloads.foldl dispatch c).onto inlet traffic).arrive .hangUp ∧
      -- What the reader gives behind them decides how the run ends.
      (Inlet.pollAll (.replicate (payloads.length + 1) true) c.gate.wire.inlet).1 =
        payloads.map (.ok <| .frame ·) ++ [last] ∧
      (c.run false).1 = Exit.ofPoll last ∧
      Ends c.gate.wire.inlet.limit c.gate.wire.inlet.ending
        (Read.failure? c.gate.wire.inlet.reads) rest (c.run false).1 ∧
      ((c.run false).1 = .endOfStream ↔ rest = [] ∧
        Read.failure? c.gate.wire.inlet.reads = none ∧ c.gate.wire.inlet.ending = .closed) ∧
      -- Waits that run out are made again.
      (∀ waits : List Nat, (c.run false).1 ≠ .waiting →
        c.gate.wire.inlet.work < waits.countP (0 < ·) →
        ∃ inlet traffic, runWaits waits c =
          ((c.run false).1, (payloads.foldl dispatch c).onto inlet traffic)) ∧
      c.run true = (.cancelled, c.arrive .hangUp) := by
  obtain ⟨payloads, rest, begins, final⟩ :=
    Inlet.exists_begins c.gate.wire.inlet.limit c.gate.wire.inlet.arrived
  have gives := Inlet.gives_of_begins begins final
  have ends := ends_outlook final c.gate.wire.inlet.ending
    (Read.failure? c.gate.wire.inlet.reads)
  have enough : payloads.length < c.gate.wire.inlet.size + 1 :=
    Nat.lt_succ_of_le (Inlet.length_le_size begins)
  obtain ⟨inlet, traffic, frames⟩ := c.runFrames_of_gives gives enough
  have ran : c.run false = _ := congrArg (fun r => (r.1, r.2.arrive .hangUp)) frames
  rw [ran]
  refine ⟨payloads, rest, _, inlet, traffic, begins, final, rfl, gives.pollAll, rfl, ends,
    ends.endOfStream_iff, fun waits settled enough => ?_, rfl⟩
  refine runWaits_of_gives gives ?_ enough
  intro late
  exact settled (congrArg Exit.ofPoll late)

end Conversation
end DebugBridge
