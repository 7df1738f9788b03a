import DebugBridge.Link.Opening
import DebugBridge.Proofs.Link.Arrivals
import DebugBridge.Proofs.Link.Writing
import Mathlib.Data.Nat.Digits.Defs

/-!
# How a link opens

The interpreter is to greet and to answer, and in between and behind that the client writes five
frames. Whatever the interpreter sends and wherever writes begin to fail, what has been written is
a part of these five, and what follows the two greetings stays to be read.
-/

namespace DebugBridge

/-! ## Sending in turn -/

namespace Outlet

/-- Sends payloads one after another until one fails. -/
def sendInTurn : List String → Outlet → Except LinkFault Unit × Outlet
  | [], o => (.ok (), o)
  | payload :: payloads, o =>
    match o.send payload with
    | (.ok (), o) => sendInTurn payloads o
    | (.error f, o) => (.error f, o)

variable {o after : Outlet} {payloads : List String}

/-- More payloads are sent behind the first ones, unless one of these fails. -/
theorem sendInTurn_append (payloads more : List String) (o : Outlet) :
    sendInTurn (payloads ++ more) o =
      match sendInTurn payloads o with
      | (.ok (), after) => sendInTurn more after
      | (.error f, after) => (.error f, after) := by
  induction payloads generalizing o with
  | nil => rfl
  | cons payload payloads ih =>
    rw [List.cons_append, sendInTurn, sendInTurn]
    obtain ⟨_ | _, next⟩ := o.send payload
    · rfl
    · exact ih next

/-- What is on a stream once payloads have been sent in turn: the frames of the first of them, and
a part of the next one if a write failed inside it. -/
structure Leaves (o : Outlet) (payloads : List String) (sent : Except LinkFault Unit × Outlet)
    (received : List String) (cut : Bytes) : Prop where
  start : received <+: payloads
  fits : ∀ p ∈ received, Frame.Fits o.limit p
  written : sent.2.sink.written = o.sink.written ++ (received.flatMap Frame.image ++ cut)
  part : Frame.decode o.limit cut = .incomplete
  all : sent.1 = .ok () → received = payloads ∧ cut = []

/-- Nothing comes on the stream if all that there is to send fails at its start. -/
theorem Leaves.nothing {result : Except LinkFault Unit}
    (same : after.sink.written = o.sink.written) (none : result = .ok () → payloads = []) :
    Leaves o payloads (result, after) [] [] where
  start := List.nil_prefix
  fits := by simp
  written := by simpa using same
  part := Frame.decode_of_short (by decide)
  all fine := ⟨(none fine).symm, rfl⟩

theorem Leaves.cons {payload : String} {sent : Except LinkFault Unit × Outlet}
    {received : List String} {cut : Bytes} (fits : Frame.Fits o.limit payload)
    (later : Leaves after payloads sent received cut) (limit : after.limit = o.limit)
    (written : after.sink.written = o.sink.written ++ Frame.image payload) :
    Leaves o (payload :: payloads) sent (payload :: received) cut where
  start := (List.prefix_cons_inj payload).mpr later.start
  fits := List.forall_mem_cons.mpr ⟨fits, limit ▸ later.fits⟩
  written := by
    rw [later.written, written, List.flatMap_cons, List.append_assoc, List.append_assoc]
  part := limit ▸ later.part
  all fine := ⟨congrArg (payload :: ·) (later.all fine).1, (later.all fine).2⟩

theorem leaves_sendInTurn (payloads : List String) (o : Outlet) :
    ∃ received cut, Leaves o payloads (sendInTurn payloads o) received cut := by
  induction payloads generalizing o with
  | nil => exact ⟨[], [], .nothing rfl fun _ => rfl⟩
  | cons payload payloads ih =>
    have step := o.sending payload
    rw [sendInTurn]
    generalize o.send payload = sent at step
    obtain ⟨result, after⟩ := sent
    cases step with
    | refused large => exact ⟨[], [], .nothing rfl (by simp)⟩
    | unwritten fits fated => exact ⟨[], [], .nothing (List.append_nil _) (by simp)⟩
    | @broken f part fits start other stops =>
      exact ⟨[], part, List.nil_prefix, by simp, rfl, Frame.decode_part fits start other, by simp⟩
    | whole fits free =>
      obtain ⟨received, cut, later⟩ := ih (o.passed payload)
      exact ⟨payload :: received, cut, later.cons fits rfl rfl⟩

/-- What a receiver takes from a stream on which payloads have been sent in turn. -/
theorem receive_sendInTurn (fresh : o.sink.written = []) (payloads : List String) :
    let received := Frame.receive o.limit [] (o.sendInTurn payloads).2.sink.written
    received.1 <+: payloads ∧ received.2.1 = none ∧
      ((o.sendInTurn payloads).1 = .ok () → received = (payloads, none, [])) := by
  obtain ⟨payloads', cut, leaves⟩ := o.leaves_sendInTurn payloads
  have begins : Frame.Begins o.limit payloads' (o.sendInTurn payloads).2.sink.written cut :=
    ⟨leaves.fits, by rw [leaves.written, fresh, List.nil_append]⟩
  rw [Frame.receive_of_begins begins leaves.part]
  refine ⟨leaves.start, rfl, fun fine => ?_⟩
  obtain ⟨rfl, rfl⟩ := leaves.all fine
  rfl

theorem sendInTurn_eq_ok_iff {room : Option Nat} (fails : o.sink.FailsAfter room)
    (begun : ∀ n ∈ room, o.sink.flushed ≤ n) :
    (sendInTurn payloads o).1 = .ok () ↔
      (∀ p ∈ payloads, Frame.Fits o.limit p) ∧
        ∀ n ∈ room, o.sink.flushed + payloads.length ≤ n := by
  induction payloads generalizing o with
  | nil => simpa [sendInTurn] using begun
  | cons payload payloads ih =>
    have step := o.sending payload
    rw [sendInTurn]
    generalize o.send payload = sent at step
    obtain ⟨result, after⟩ := sent
    cases step with
    | refused large => simp [large]
    | unwritten fits fated =>
      have full : ¬ ∀ n ∈ room, o.sink.flushed < n := by
        rw [← fails.free_iff, fated]
        simp
      simp only [reduceCtorEq, false_iff]
      rintro ⟨-, enough⟩
      exact full fun n mem => Nat.lt_of_lt_of_le (by simp) (enough n mem)
    | broken _ _ _ stops =>
      obtain ⟨position, stop⟩ := stops
      exact absurd stop (fails.progress position)
    | whole fits free =>
      have begun := (fails.free_iff _ _).mp free
      have later := @ih (o.passed payload) ⟨fails.progress, fails.free_iff⟩ begun
      have flushed : (o.passed payload).sink.flushed = o.sink.flushed + 1 := rfl
      rw [flushed, Nat.add_assoc, Nat.add_comm 1] at later
      rw [List.forall_mem_cons, and_iff_right fits, List.length_cons]
      exact later

end Outlet

theorem Wire.outlet_of_send {w after : Wire} {payload : String} {result : Except LinkFault Unit}
    (h : w.send payload = (result, after)) :
    w.outlet.send payload = (result, after.outlet) ∧ after.inlet = w.inlet := by
  cases h
  exact ⟨rfl, rfl⟩

/-! ## Greetings -/

/-- Waits of so many milliseconds give the payloads, one after another. -/
def Wire.Offers (w : Wire) (patience : Nat) (payloads : List String) : Prop :=
  0 < patience ∧ ∃ rest, Frame.Begins w.inlet.limit payloads w.inlet.arrived rest

namespace Greeting

/-- The greetings that are exchanged, in order. -/
def greetings (version : Nat) : List String := [supported version, chosen version]

/-- What a wait for an expected text gives. -/
inductive Hearing (expected : String) (patience : Nat) (w : Wire) :
    Except LinkFault Unit × Wire → Prop
  /-- The frame of the text is at the start of the stream, and what follows it stays. -/
  | heard {after} (patient : 0 < patience)
      (found : Frame.decode w.inlet.limit w.inlet.arrived = .frame expected after.inlet.arrived)
      (limit : after.inlet.limit = w.inlet.limit) (outlet : after.outlet = w.outlet) :
      Hearing expected patience w (.ok (), after)
  /-- It is not, or there is no patience. -/
  | missed {f after} (silent : ¬ w.Offers patience [expected]) (outlet : after.outlet = w.outlet) :
      Hearing expected patience w (.error f, after)

variable {version patience : Nat} {w : Wire}

theorem hearing (expected : String) (enough : 0 < patience ∨ w.inlet.buffer = []) :
    Hearing expected patience w (hear expected patience w) := by
  by_cases patient : 0 < patience
  case neg =>
    have fresh := enough.resolve_left patient
    have waits : Frame.decode w.inlet.limit [] = .incomplete := rfl
    have ranOut : w.inlet.poll false = (.ok .timeout, w.inlet) := by
      unfold Inlet.poll Inlet.pollFrom
      rw [fresh, waits]
      simp [← fresh]
    simp only [hear, Wire.expect, Wire.poll, patient, decide_false, ranOut]
    exact .missed (fun both => patient both.1) rfl
  case pos =>
    have given (rest) := @Inlet.poll_frame_iff w.inlet expected rest
    have limit := Inlet.limit_poll w.inlet true
    simp only [hear, Wire.expect, Wire.poll, patient, decide_true]
    generalize w.inlet.poll true = polled at given limit
    obtain ⟨result, inlet⟩ := polled
    have missed (other : result ≠ .ok (.frame expected)) : ¬ w.Offers patience [expected] := by
      rintro ⟨-, rest, begins⟩
      exact other ((given rest).mpr (Frame.begins_singleton.mp begins)).1
    cases result with
    | error f => exact .missed (missed (by simp)) rfl
    | ok poll =>
      cases poll with
      | closed => exact .missed (missed (by simp)) rfl
      | timeout => exact .missed (missed (by simp)) rfl
      | frame payload =>
        by_cases same : payload = expected
        · subst same
          simp only [Except.bind, Poll.required, if_true]
          exact .heard patient ((given _).mp ⟨rfl, rfl⟩) limit rfl
        · simp only [Except.bind, Poll.required, if_neg same]
          exact .missed (missed (by simpa using same)) rfl

theorem offers_supported (h : w.Offers patience (greetings version)) :
    w.Offers patience [supported version] := by
  obtain ⟨patient, rest, begins⟩ := h
  obtain ⟨later, found, -⟩ := Frame.begins_cons.mp begins
  exact ⟨patient, later, Frame.begins_singleton.mpr found⟩

/-- How an agreement ends, and what has been written by then. -/
inductive Agreement (version patience : Nat) (w : Wire) : Except LinkFault Unit × Wire → Prop
  /-- The interpreter does not greet, and nothing is written. -/
  | unheard {f after} (silent : ¬ w.Offers patience [supported version])
      (outlet : after.outlet = w.outlet) : Agreement version patience w (.error f, after)
  /-- A write fails. -/
  | unsent {f f' after} (greeted : w.Offers patience [supported version])
      (broken : w.outlet.sendInTurn (greetings version) = (.error f', after.outlet)) :
      Agreement version patience w (.error f, after)
  /-- The interpreter does not answer. -/
  | unanswered {f after} (greeted : w.Offers patience [supported version])
      (silent : ¬ w.Offers patience (greetings version))
      (sent : w.outlet.sendInTurn (greetings version) = (.ok (), after.outlet)) :
      Agreement version patience w (.error f, after)
  /-- It greets and answers. What follows stays. -/
  | agreed {after} (patient : 0 < patience)
      (begins : Frame.Begins w.inlet.limit (greetings version) w.inlet.arrived after.inlet.arrived)
      (limit : after.inlet.limit = w.inlet.limit)
      (sent : w.outlet.sendInTurn (greetings version) = (.ok (), after.outlet)) :
      Agreement version patience w (.ok (), after)

theorem agreement (version : Nat) (enough : 0 < patience ∨ w.inlet.buffer = []) :
    Agreement version patience w (agree version patience w) := by
  have first := hearing (supported version) enough
  unfold agree
  generalize hear (supported version) patience w = heard at first
  cases first with
  | missed silent outlet => exact .unheard silent outlet
  | @heard w₁ patient found limit outlet =>
    have greeted : w.Offers patience [supported version] :=
      ⟨patient, _, Frame.begins_singleton.mpr found⟩
    -- both greetings go out before the answer is waited for, or the first that fails ends it
    rcases repeated : w₁.send (supported version) with ⟨f | _, w₂⟩
    · have stopped := (Wire.outlet_of_send repeated).1
      simp only [repeated]
      exact .unsent greeted (by rw [greetings, Outlet.sendInTurn, ← outlet, stopped])
    obtain ⟨sent₁, inlet₁⟩ := Wire.outlet_of_send repeated
    rcases named : w₂.send (chosen version) with ⟨f | _, w₃⟩
    · have stopped := (Wire.outlet_of_send named).1
      simp only [repeated, named]
      have broken : w.outlet.sendInTurn (greetings version) = (.error f, w₃.outlet) := by
        simp only [greetings, Outlet.sendInTurn, ← outlet, sent₁, stopped]
      exact .unsent greeted broken
    obtain ⟨sent₂, inlet₂⟩ := Wire.outlet_of_send named
    have sent : w.outlet.sendInTurn (greetings version) = (.ok (), w₃.outlet) := by
      simp only [greetings, Outlet.sendInTurn, ← outlet, sent₁, sent₂]
    have inlet : w₃.inlet = w₁.inlet := inlet₂.trans inlet₁
    have second := hearing (w := w₃) (chosen version) (.inl patient)
    simp only [repeated, named]
    generalize hear (chosen version) patience w₃ = heard at second
    cases second with
    | missed silent same =>
      refine .unanswered greeted ?_ (same ▸ sent)
      rintro ⟨-, rest, begins⟩
      obtain ⟨next, found', begins⟩ := Frame.begins_cons.mp begins
      cases found.symm.trans found'
      exact silent ⟨patient, rest, inlet ▸ limit ▸ begins⟩
    | heard _ found' limit' same =>
      refine .agreed patient ?_ ?_ (same ▸ sent)
      · rw [inlet, limit] at found'
        exact Frame.begins_cons.mpr ⟨_, found, Frame.begins_singleton.mpr found'⟩
      · rw [limit', inlet, limit]

end Greeting

/-! ## The commands behind them -/

namespace Gate
variable {g after : Gate} {c : Command} {commands : List Command}

theorem send_of_gated (gated : ¬ c.isUrgent) : g.send c = g.sendGated c := by
  unfold send
  split
  case h_1 => exact absurd rfl gated
  case h_2 => exact absurd rfl gated
  case h_3 => rw [if_neg gated]

/-- A command that need not wait is sent over the outlet. -/
theorem outlet_send (gated : ¬ c.isUrgent) (free : g.isBusy = false) (empty : g.queue = []) :
    (∃ f, (g.send c).1 = .error f ∧
      ∃ f', g.wire.outlet.send c.payload = (.error f', (g.send c).2.wire.outlet)) ∨
    ((g.send c).1 = .ok .written ∧
      g.wire.outlet.send c.payload = (.ok (), (g.send c).2.wire.outlet) ∧
      (g.send c).2.wire.inlet = g.wire.inlet ∧ (g.send c).2.isBusy = false ∧
      (g.send c).2.queue = []) := by
  have now : g.send c = g.writeNow c := by
    rw [send_of_gated gated, sendGated, free, empty]
    rfl
  rw [now, writeNow, write]
  rcases sent : g.wire.send c.payload with ⟨f | _, wire⟩
  · exact .inl ⟨_, rfl, f, (Wire.outlet_of_send sent).1⟩
  · obtain ⟨outlet, inlet⟩ := Wire.outlet_of_send sent
    exact .inr ⟨rfl, outlet, inlet, free, empty⟩

/-- Commands that need not wait are sent in turn. -/
theorem sendAll_inTurn (gated : ∀ c ∈ commands, ¬ c.isUrgent) (free : g.isBusy = false)
    (empty : g.queue = []) :
    ((sendAll commands g).1 = .ok () ↔
      (g.wire.outlet.sendInTurn (commands.map Command.payload)).1 = .ok ()) ∧
    (sendAll commands g).2.wire.outlet =
      (g.wire.outlet.sendInTurn (commands.map Command.payload)).2 ∧
    ((sendAll commands g).1 = .ok () → (sendAll commands g).2.wire.inlet = g.wire.inlet) := by
  induction commands generalizing g with
  | nil => exact ⟨by simp [sendAll, Outlet.sendInTurn], rfl, fun _ => rfl⟩
  | cons c commands ih =>
    obtain ⟨first, later⟩ := List.forall_mem_cons.mp gated
    have step := outlet_send first free empty
    rw [sendAll, List.map_cons, Outlet.sendInTurn]
    generalize g.send c = sent at step
    obtain ⟨result, next⟩ := sent
    obtain ⟨f, rfl, f', stopped⟩ | ⟨rfl, sent, inlet, free, empty⟩ := step
    · rw [stopped]
      exact ⟨by simp, rfl, by simp⟩
    · rw [sent]
      obtain ⟨ok_iff, outlet, same⟩ := ih later free empty
      exact ⟨ok_iff, outlet, fun fine => (same fine).trans inlet⟩

/-- What is to be written before a link is open. -/
def preamble (version : Nat) : List String :=
  [Greeting.supported version, Greeting.chosen version, (Command.identify ⟨1, 1⟩).payload,
    (Command.connect ⟨2⟩).payload, Command.getWindowLayout.payload]

theorem preamble_eq (version : Nat) :
    preamble version = Greeting.greetings version ++ opening.map Command.payload := rfl

theorem gated_opening : ∀ c ∈ opening, ¬ c.isUrgent := by decide +kernel

/-- How a link opens, and what has been written by then. -/
inductive Establishing (version patience : Nat) (w : Wire) : Except Failure Gate × Wire → Prop
  /-- The interpreter does not greet, and nothing is written. -/
  | unheard {f after} (silent : ¬ w.Offers patience [Greeting.supported version])
      (outlet : after.outlet = w.outlet) : Establishing version patience w (.error f, after)
  /-- It does not answer, and only the greetings are written. -/
  | unanswered {f after} (greeted : w.Offers patience [Greeting.supported version])
      (silent : ¬ w.Offers patience (Greeting.greetings version))
      (outlet : after.outlet = (w.outlet.sendInTurn (Greeting.greetings version)).2) :
      Establishing version patience w (.error f, after)
  /-- It would answer, but a write fails. -/
  | unsent {f f' after} (answered : w.Offers patience (Greeting.greetings version))
      (broken : w.outlet.sendInTurn (preamble version) = (.error f', after.outlet)) :
      Establishing version patience w (.error f, after)
  /-- The link is open. -/
  | opened {g : Gate} (patient : 0 < patience)
      (begins : Frame.Begins w.inlet.limit (Greeting.greetings version) w.inlet.arrived
        g.wire.inlet.arrived)
      (limit : g.wire.inlet.limit = w.inlet.limit)
      (sent : w.outlet.sendInTurn (preamble version) = (.ok (), g.wire.outlet)) :
      Establishing version patience w (.ok g, g.wire)

theorem establishing {version patience : Nat} {w : Wire}
    (enough : 0 < patience ∨ w.inlet.buffer = []) :
    Establishing version patience w (establish version patience w) := by
  have agreement := Greeting.agreement version enough
  unfold establish
  generalize Greeting.agree version patience w = agreed at agreement
  cases agreement with
  | unheard silent outlet => exact .unheard silent outlet
  | unanswered greeted silent sent => exact .unanswered greeted silent (by rw [sent])
  | @unsent f f' after greeted broken =>
    -- nobody has waited for the answer, which may be on its way or not
    by_cases answered : w.Offers patience (Greeting.greetings version)
    · exact .unsent answered (by rw [preamble_eq, Outlet.sendInTurn_append, broken])
    · exact .unanswered greeted answered (by rw [broken])
  | @agreed after patient begins limit sent =>
    have whole : w.outlet.sendInTurn (preamble version) =
        after.outlet.sendInTurn (opening.map Command.payload) := by
      rw [preamble_eq, Outlet.sendInTurn_append, sent]
    obtain ⟨ok_iff, outlet, inlet⟩ :=
      sendAll_inTurn (g := ofWire after) gated_opening rfl rfl
    have wire : (ofWire after).wire = after := rfl
    rw [wire, ← whole] at ok_iff outlet
    have sent (result) (same : (w.outlet.sendInTurn (preamble version)).1 = result) :
        w.outlet.sendInTurn (preamble version) =
          (result, (sendAll opening (ofWire after)).2.wire.outlet) :=
      Prod.ext same outlet.symm
    dsimp only
    generalize sendAll opening (ofWire after) = opened at ok_iff inlet sent
    obtain ⟨f | _, g⟩ := opened
    · cases broken : (w.outlet.sendInTurn (preamble version)).1 with
      | ok => exact absurd (ok_iff.mpr broken) (by simp)
      | error => exact .unsent ⟨patient, _, begins⟩ (sent _ broken)
    · have same : g.wire.inlet = after.inlet := inlet rfl
      exact .opened patient (same ▸ begins) (same ▸ limit) (sent _ (ok_iff.mp rfl))

namespace Establishing
variable {version patience : Nat} {w : Wire} {opened : Except Failure Gate × Wire} {g : Gate}

theorem ok_iff (h : Establishing version patience w opened) :
    (∃ g, opened.1 = .ok g) ↔ w.Offers patience (Greeting.greetings version) ∧
      (w.outlet.sendInTurn (preamble version)).1 = .ok () := by
  cases h with
  | unheard silent => simp [mt Greeting.offers_supported silent]
  | unanswered greeted silent => simp [silent]
  | unsent answered broken => simp [broken]
  | opened patient begins limit sent =>
    have answered : w.Offers patience (Greeting.greetings version) := ⟨patient, _, begins⟩
    simp [answered, sent]

/-- What was tried, as far as the interpreter went along. -/
theorem exists_tried (h : Establishing version patience w opened) :
    ∃ tried, opened.2.outlet = (w.outlet.sendInTurn tried).2 ∧ tried <+: preamble version ∧
      (¬ w.Offers patience [Greeting.supported version] → tried = []) ∧
      (¬ w.Offers patience (Greeting.greetings version) → tried <+: Greeting.greetings version) ∧
      ((∃ g, opened.1 = .ok g) → tried = preamble version) := by
  have start : Greeting.greetings version <+: preamble version :=
    preamble_eq version ▸ List.prefix_append _ _
  cases h with
  | unheard silent outlet => exact ⟨[], outlet, List.nil_prefix, by simp, by simp, by simp⟩
  | unanswered greeted silent outlet =>
    exact ⟨_, outlet, start, absurd greeted, fun _ => List.prefix_rfl, by simp⟩
  | unsent answered broken =>
    exact ⟨preamble version, by rw [broken], List.prefix_rfl,
      absurd (Greeting.offers_supported answered), absurd answered, fun _ => rfl⟩
  | opened patient begins limit sent =>
    have answered : w.Offers patience (Greeting.greetings version) := ⟨patient, _, begins⟩
    exact ⟨preamble version, by rw [sent], List.prefix_rfl,
      absurd (Greeting.offers_supported answered), absurd answered, fun _ => rfl⟩

theorem begins_of_ok (h : Establishing version patience w opened) (fine : opened.1 = .ok g) :
    Frame.Begins w.inlet.limit (Greeting.greetings version) w.inlet.arrived g.wire.inlet.arrived ∧
      g.wire.inlet.limit = w.inlet.limit := by
  cases h with
  | unheard => cases fine
  | unanswered => cases fine
  | unsent => cases fine
  | opened _ begins limit _ =>
    cases fine
    exact ⟨begins, limit⟩

end Establishing

theorem fits_preamble {version : Nat} (known : version < 0x100000000) :
    ∀ p ∈ preamble version, Frame.Fits Frame.defaultLimit p := by
  have digits : (toString version).length ≤ 10 :=
    Nat.repr_length version 10 (by decide) (Nat.lt_trans known (by decide))
  have supported : Greeting.supported version = "SupportedProtocols=" ++ toString version := rfl
  have chosen : Greeting.chosen version = "UsingProtocol=" ++ toString version := rfl
  have words : "SupportedProtocols=".length = 19 ∧ "UsingProtocol=".length = 14 := by decide
  have room (payload : String) (short : payload.length ≤ 29) :
      Frame.Fits Frame.defaultLimit payload := by
    refine Frame.fits_of_length_le (Nat.le_trans (m := 124) ?_ (by decide)) (by decide)
    rw [Frame.headerLength]
    omega
  simp only [preamble, List.forall_mem_cons]
  refine ⟨room _ ?_, room _ ?_, ?_, ?_, ?_, by simp⟩
  · rw [supported, String.length_append, words.1]
    omega
  · rw [chosen, String.length_append, words.2]
    omega
  all_goals decide +kernel

/-- A link opens exactly if the interpreter greets and answers, there is patience to wait for it,
and the stream takes the five frames of the preamble. Whatever the interpreter sends and wherever
writes fail, it receives the first of these frames: none unless it greets, at most the greetings
unless it answers, and all if the link opens. Then waits give exactly the frames that follow the
answer, however they came. -/
theorem opens_as_answered (version patience : Nat) (reads : List Read) (ending : StreamEnd)
    (sink : Sink) :
    let limit := Frame.defaultLimit
    let stream := Read.arrived reads
    let outlet := Outlet.ofSink { sink with written := [] } limit
    let opened := establish version patience (.ofSides (.ofReads reads ending limit) outlet)
    let greeted :=
      0 < patience ∧ ∃ rest, Frame.Begins limit [Greeting.supported version] stream rest
    let answered :=
      0 < patience ∧ ∃ rest, Frame.Begins limit (Greeting.greetings version) stream rest
    let received := Frame.receive limit [] opened.2.outlet.sink.written
    ((∃ g, opened.1 = .ok g) ↔ answered ∧ (outlet.sendInTurn (preamble version)).1 = .ok ()) ∧
    (∀ piece budget failure, version < 0x100000000 → (∀ n, piece n ≠ some 0) →
      sink = (Sink.inPieces piece).withBudget budget failure →
      ((∃ g, opened.1 = .ok g) ↔ answered ∧ ∀ n ∈ budget, 5 ≤ n)) ∧
    received.1 <+: preamble version ∧ received.2.1 = none ∧
    ((∃ g, opened.1 = .ok g) → received = (preamble version, none, [])) ∧
    (¬ greeted → opened.2.outlet.sink.written = []) ∧
    (¬ answered → received.1 <+: Greeting.greetings version) ∧
    (∀ g payloads, opened.1 = .ok g →
      ((Inlet.pollAll (.replicate payloads.length true) g.wire.inlet).1 =
          payloads.map (.ok <| .frame ·) ↔
        ∃ rest, Frame.Begins limit (Greeting.greetings version ++ payloads) stream rest)) := by
  intro limit stream outlet opened greeted answered received
  have opening :
      Establishing version patience (.ofSides (.ofReads reads ending limit) outlet) opened :=
    establishing (.inr rfl)
  obtain ⟨tried, told, start, unheard, unanswered, whole⟩ := opening.exists_tried
  replace told : opened.2.outlet = (outlet.sendInTurn tried).2 := told
  obtain ⟨first, intact, complete⟩ := Outlet.receive_sendInTurn (o := outlet) rfl tried
  rw [← told] at first intact complete
  have ok_iff : (∃ g, opened.1 = .ok g) ↔
      answered ∧ (outlet.sendInTurn (preamble version)).1 = .ok () := opening.ok_iff
  refine ⟨ok_iff, ?budget, first.trans start, intact, ?complete, ?unheard, ?unanswered, ?rest⟩
  case budget =>
    intro piece budget failure known progress same
    have fails : outlet.sink.FailsAfter budget := by
      subst same
      exact Sink.failsAfter_withBudget progress budget failure
    have wrote : (outlet.sendInTurn (preamble version)).1 = .ok () ↔ ∀ n ∈ budget, 5 ≤ n := by
      have unused : outlet.sink.flushed = 0 := by
        subst same
        rfl
      have five : 0 + (preamble version).length = 5 := rfl
      rw [Outlet.sendInTurn_eq_ok_iff fails (by simp [unused]), unused, five]
      exact and_iff_right (fits_preamble known)
    rw [ok_iff, wrote]
  case complete =>
    intro fine
    obtain rfl := whole fine
    exact complete (ok_iff.mp fine).2
  case unheard =>
    intro silent
    obtain rfl := unheard silent
    rw [told]
    rfl
  case unanswered =>
    intro silent
    exact first.trans (unanswered silent)
  case rest =>
    intro g payloads fine
    obtain ⟨begins, same⟩ := opening.begins_of_ok fine
    rw [Inlet.pollAll_eq_frames_iff, same]
    exact exists_congr fun rest => (Frame.begins_append_iff begins).symm

end Gate
end DebugBridge
