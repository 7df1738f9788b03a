import DebugBridge.Proofs.Adapter.Lifetime

/-!
# Replacing the link of a session

A link that is replaced may have taken in messages that the session has not seen, and its end may be
noticed late. Every message and every end comes with the number of its link, and the session passes
over those of a link that is not in use. Numbers only go up, so a link that was replaced stays out
of use, however often its successors are replaced in turn.
-/

namespace DebugBridge

namespace Lifecycle

/-- A session has been started, whether it is still running or has ended. -/
def hasBegun : Lifecycle → Bool
  | created | initialized => false
  | running _ | terminated => true

theorem hasBegun_of_isRunning {state : Lifecycle} (h : state.isRunning) : state.hasBegun := by
  cases state with
  | running => rfl
  | _ => cases h

/-- A session that has begun does not begin again. -/
theorem Advances.hasBegun {old new : Lifecycle} (next : Advances old new)
    (begun : old.hasBegun) : new.hasBegun := by
  cases next with
  | stay => exact begun
  | start | stop => rfl
  | setUp => cases begun

end Lifecycle

namespace Adapter

/-! ## What arrives late -/

/-- The session gets a message that the link with a number has taken in. -/
def deliver (a : Adapter) (number : Nat) (m : Message) : Adapter :=
  match a.link with
  | some l => if l.number = number then a.attend m else a
  | none => a

/-- The session gets to know that the link with a number has ended. -/
def conclude (a : Adapter) (number : Nat) : Adapter :=
  match a.link with
  | some l => if l.number = number then a.lose else a
  | none => a

section arrivals
variable {a : Adapter} {l : Link} {number : Nat}

/-- Taking in a message is its passing the gate and its delivery with nothing in between. -/
theorem hear_eq_deliver (m : Message) :
    a.hear l m = (a.putGate l (l.gate.hear m)).deliver l.number m :=
  (if_pos rfl).symm

theorem lose_eq_conclude (linked : a.link = some l) : a.lose = a.conclude l.number := by
  rw [conclude, linked]
  exact (if_pos rfl).symm

/-- The session passes over what arrives from any link but the one in use. -/
theorem deliver_of_ne (other : ∀ l, a.link = some l → l.number ≠ number) (m : Message) :
    a.deliver number m = a := by
  unfold deliver
  split
  case h_1 l linked => exact if_neg (other l linked)
  case h_2 => rfl

theorem conclude_of_ne (other : ∀ l, a.link = some l → l.number ≠ number) :
    a.conclude number = a := by
  unfold conclude
  split
  case h_1 l linked => exact if_neg (other l linked)
  case h_2 => rfl

theorem happen_of_ne (other : ∀ l, a.link = some l → l.number ≠ number) (h : Happening) :
    a.happen number h = ([], a) := by
  unfold happen
  split
  case h_1 => rfl
  case h_2 l linked => exact if_neg (other l linked)

theorem continues_deliver (a : Adapter) (number : Nat) (m : Message) :
    Continues a (a.deliver number m) := by
  unfold deliver
  split
  case h_1 l linked =>
    split
    case isTrue => exact continues_attend (linked ▸ rfl) m
    case isFalse => exact .refl a
  case h_2 => exact .refl a

theorem continues_conclude (a : Adapter) (number : Nat) : Continues a (a.conclude number) := by
  unfold conclude
  split
  case h_1 =>
    split
    case isTrue => exact a.continues_lose
    case isFalse => exact .refl a
  case h_2 => exact .refl a

theorem keepsLink_deliver (a : Adapter) (number : Nat) (m : Message) :
    KeepsLink a (a.deliver number m) := by
  unfold deliver
  split
  case h_1 l linked =>
    split
    case isTrue => exact .attend a m
    case isFalse => exact .refl a
  case h_2 => exact .refl a

theorem keepsLink_conclude (a : Adapter) (number : Nat) : KeepsLink a (a.conclude number) := by
  unfold conclude
  split
  case h_1 =>
    split
    case isTrue => exact .lose a
    case isFalse => exact .refl a
  case h_2 => exact .refl a

end arrivals

/-! ## Courses of a session -/

/-- What an adapter has to deal with when messages and ends may arrive late. -/
inductive Occurrence where
  | stimulus (i : Stimulus)
  | delivery (number : Nat) (m : Message)
  | conclusion (number : Nat)

/-- The adapter is to take another link. -/
def Occurrence.relinks : Occurrence → Bool
  | stimulus i => i.relinks
  | delivery _ _ | conclusion _ => false

/-- The adapter when it has dealt with an occurrence. -/
def undergo (a : Adapter) : Occurrence → Adapter
  | .stimulus i => a.respond i
  | .delivery number m => a.deliver number m
  | .conclusion number => a.conclude number

/-- The adapter behind a course of occurrences. -/
def course (s : Surroundings) (occurrences : List Occurrence) : Adapter :=
  occurrences.foldl undergo (ofSurroundings s)

theorem proceeds_undergo (a : Adapter) (o : Occurrence) : Proceeds a (a.undergo o) := by
  cases o with
  | stimulus i => exact (a.response i).proceeds
  | delivery number m => exact (a.continues_deliver number m).proceeds
  | conclusion number => exact (a.continues_conclude number).proceeds

/-! ## The numbers of links -/

/-- The number of the link in use, or of the last one that was. -/
def number? (a : Adapter) : Option Nat := a.current?.map Link.number

/-- The link in use is the same or a new one, and all that was sent went over the same or new ones,
where those are new that have been opened meanwhile. -/
structure MovesOn (a b : Adapter) : Prop where
  journal : a.journal.Extends b.journal
  opened : a.opened ≤ b.opened
  number : b.number? = a.number? ∨ ∃ n, b.number? = some n ∧ a.opened < n ∧ n ≤ b.opened
  sent : ∃ further, b.journal.sent = a.journal.sent ++ further ∧
    ∀ x ∈ further, a.number? = some x.link ∨ (a.opened < x.link ∧ x.link ≤ b.opened)

theorem KeepsLink.movesOn {a b : Adapter} (h : KeepsLink a b) : MovesOn a b where
  journal := h.journal
  opened := h.opened ▸ Nat.le_refl _
  number := .inl h.number
  sent := by
    obtain ⟨further, sent, own⟩ := h.sent
    exact ⟨further, sent, fun x mem => .inl (own x mem)⟩

namespace MovesOn
variable {a b c : Adapter}

theorem trans (h : MovesOn a b) (h' : MovesOn b c) : MovesOn a c := by
  have upTo {n : Nat} (new : a.opened < n ∧ n ≤ b.opened) : a.opened < n ∧ n ≤ c.opened :=
    ⟨new.1, Nat.le_trans new.2 h'.opened⟩
  have from' {n : Nat} (new : b.opened < n ∧ n ≤ c.opened) : a.opened < n ∧ n ≤ c.opened :=
    ⟨Nat.lt_of_le_of_lt h.opened new.1, new.2⟩
  -- the link that is in use in the middle is the first one or was opened before the middle
  have inUse {n : Nat} (used : b.number? = some n) :
      a.number? = some n ∨ (a.opened < n ∧ n ≤ c.opened) := by
    rcases h.number with same | ⟨k, number, new⟩
    · exact .inl (same ▸ used)
    · have eq : k = n := Option.some.inj (number.symm.trans used)
      exact .inr (eq ▸ upTo new)
  refine ⟨h.journal.trans h'.journal, Nat.le_trans h.opened h'.opened, ?_, ?_⟩
  · rcases h'.number with same | ⟨n, number, new⟩
    · rcases h.number with same' | ⟨n, number, new⟩
      · exact .inl (same.trans same')
      · exact .inr ⟨n, same.trans number, upTo new⟩
    · exact .inr ⟨n, number, from' new⟩
  · obtain ⟨first, sent, own⟩ := h.sent
    obtain ⟨second, sent', own'⟩ := h'.sent
    refine ⟨first ++ second, by rw [sent', sent, List.append_assoc], fun x mem => ?_⟩
    rcases List.mem_append.mp mem with mem | mem
    · exact (own x mem).imp_right upTo
    · exact (own' x mem).elim inUse fun new => .inr (from' new)

theorem refl (a : Adapter) : MovesOn a a := (KeepsLink.refl a).movesOn

/-- What is sent while a link opens goes over that link. -/
theorem openLink (a : Adapter) (w : Wire) : MovesOn a (a.openLink w).2 where
  journal := .crossed _ _ _ _
  opened := Nat.le_succ _
  number := .inl rfl
  sent := by
    refine ⟨_, rfl, fun x mem => .inr ?_⟩
    obtain ⟨payload, -, rfl⟩ := List.mem_map.mp mem
    exact ⟨Nat.lt_succ_self _, Nat.le_refl _⟩

end MovesOn

theorem number_of_openLink {a opened : Adapter} {w : Wire} {l : Link}
    (opens : a.openLink w = (.ok l, opened)) :
    l.number = a.opened + 1 ∧ opened.opened = a.opened + 1 := by
  unfold openLink at opens
  cases established : Gate.establish a.settings.version a.settings.greetingPatience w with
  | mk result after =>
    rw [established] at opens
    cases result with
    | error f => cases opens
    | ok gate =>
      cases opens
      exact ⟨rfl, rfl⟩

/-- A link that was opened is taken. -/
theorem movesOn_install {a opened : Adapter} {w : Wire} {l : Link}
    (opens : a.openLink w = (.ok l, opened)) (lifecycle : Lifecycle) :
    MovesOn a ({ opened with lifecycle }.install l) := by
  obtain ⟨number, total⟩ := number_of_openLink opens
  have same : MovesOn a opened := by
    have moves := MovesOn.openLink a w
    rwa [opens] at moves
  have linked : MovesOn a { opened with lifecycle, link := some l } := by
    refine ⟨same.journal, same.opened, .inr ⟨l.number, rfl, ?_, ?_⟩, same.sent⟩
    · rw [number]
      exact Nat.lt_succ_self _
    · exact Nat.le_of_eq (number.trans total.symm)
  exact linked.trans (acts_takeIn _).works.keepsLink.movesOn

theorem keepsLink_end (a : Adapter) :
    KeepsLink a { a with lifecycle := .terminated }.dropLink := by
  have stopped : KeepsLink a { a with lifecycle := .terminated } := .of_same rfl rfl rfl
  exact stopped.trans (.dropLink _)

theorem keepsLink_seeking (a : Adapter) (targets : List Host.Target) (offers : List Wire) :
    KeepsLink a (a.seeking targets offers) :=
  .of_unsent rfl rfl ⟨List.prefix_rfl, List.prefix_rfl⟩ rfl

/-- A session that has begun keeps its link until it is given another one. -/
theorem Response.keepsLink {a b : Adapter} (response : Response false a b)
    (begun : a.lifecycle.hasBegun) : KeepsLink a b := by
  cases response with
  | works works => exact works.keepsLink
  | setUp early | seek early | «open» early | start early =>
    rw [early] at begun
    cases begun
  | refuse asked | rebind asked => cases asked
  | disconnect alive => exact keepsLink_end a
  | terminate alive => exact (keepsLink_end a).trans (.publish _ _)

theorem Response.movesOn {relinks : Bool} {a b : Adapter} (response : Response relinks a b) :
    MovesOn a b := by
  cases response with
  | works works => exact works.keepsLink.movesOn
  | setUp created =>
    have readied : KeepsLink a { a with lifecycle := .initialized } := .of_same rfl rfl rfl
    exact (readied.trans (.publish _ _)).movesOn
  | seek ready targets offers => exact (a.keepsLink_seeking targets offers).movesOn
  | «open» ready targets offers w =>
    exact (a.keepsLink_seeking targets offers).movesOn.trans (.openLink _ w)
  | @start opened l targets offers w ready mode opens =>
    exact (a.keepsLink_seeking targets offers).movesOn.trans (movesOn_install opens _)
  | refuse asked w => exact .openLink a w
  | @rebind opened l w asked running opens => exact movesOn_install opens opened.lifecycle
  | disconnect alive => exact (keepsLink_end a).movesOn
  | terminate alive => exact ((keepsLink_end a).trans (.publish _ _)).movesOn

theorem movesOn_undergo (a : Adapter) (o : Occurrence) : MovesOn a (a.undergo o) := by
  cases o with
  | stimulus i => exact (a.response i).movesOn
  | delivery number m => exact (a.keepsLink_deliver number m).movesOn
  | conclusion number => exact (a.keepsLink_conclude number).movesOn

theorem movesOn_foldl_undergo (a : Adapter) (later : List Occurrence) :
    MovesOn a (later.foldl undergo a) := by
  induction later generalizing a with
  | nil => exact .refl a
  | cons o rest ih => exact (a.movesOn_undergo o).trans (ih _)

/-- Occurrences that bring no other link leave a session that has begun with its own. -/
theorem keepsLink_foldl_undergo {a : Adapter}
    (begun : a.lifecycle.hasBegun) {later : List Occurrence}
    (alone : ∀ o ∈ later, o.relinks = false) : KeepsLink a (later.foldl undergo a) := by
  induction later generalizing a with
  | nil => exact .refl a
  | cons o rest ih =>
    have kept : KeepsLink a (a.undergo o) := by
      cases o with
      | stimulus i =>
        have response := a.response i
        rw [show i.relinks = false from alone _ List.mem_cons_self] at response
        exact response.keepsLink begun
      | delivery number m => exact a.keepsLink_deliver number m
      | conclusion number => exact a.keepsLink_conclude number
    have begun' : (a.undergo o).lifecycle.hasBegun :=
      (a.proceeds_undergo o).lifecycle.hasBegun begun
    exact kept.trans (ih begun' fun o mem => alone o (List.mem_cons_of_mem _ mem))

/-- Links are numbered in the order in which they are opened, and frames bear no other numbers. -/
theorem numbered_course (s : Surroundings) (occurrences : List Occurrence) :
    let a := course s occurrences
    (∀ n, a.number? = some n → n ≤ a.opened) ∧ ∀ x ∈ a.journal.sent, x.link ≤ a.opened := by
  intro a
  have moves := movesOn_foldl_undergo (ofSurroundings s) occurrences
  obtain ⟨further, sent, own⟩ := moves.sent
  refine ⟨fun n used => ?_, fun x mem => ?_⟩
  · rcases moves.number with same | ⟨k, number, new⟩
    · cases same.symm.trans used
    · cases number.symm.trans used
      exact new.2
  · rw [show a.journal.sent = further from sent] at mem
    rcases own x mem with first | new
    · cases first
    · exact new.2

/-- In every course, a running session that is given another link is otherwise left as it was, and
deals with what comes in over that link. From then on all that is sent goes over the new link, or
over one that was opened still later: over the new one alone until there is another. What arrives
late from a link that was replaced, be it a message or its end, changes nothing. -/
theorem rebind_leaves_old_links_behind (s : Surroundings) (earlier : List Occurrence) (w : Wire)
    (l : Link) (opened : Adapter) (running : (course s earlier).lifecycle.isRunning)
    (opens : (course s earlier).openLink w = (.ok l, opened)) :
    let a := course s earlier
    let b : Adapter := { opened with link := some l }
    a.rebind w = (.ok (), b.takeIn.2) ∧
    b.lifecycle = a.lifecycle ∧ b.desktop = a.desktop ∧ b.journal.events = a.journal.events ∧
    (∀ n, a.number? = some n → n < l.number) ∧ (∀ x ∈ a.journal.sent, x.link < l.number) ∧
    ∀ later : List Occurrence, let c := later.foldl undergo b.takeIn.2
      (∃ further, c.journal.sent = b.journal.sent ++ further ∧
        (∀ x ∈ further, l.number ≤ x.link) ∧
        ((∀ o ∈ later, o.relinks = false) → ∀ x ∈ further, x.link = l.number)) ∧
      ∀ old < l.number, (∀ m, c.deliver old m = c) ∧ c.conclude old = c ∧
        ∀ h, c.happen old h = ([], c) := by
  intro a b
  obtain ⟨number, total⟩ := number_of_openLink opens
  have same : Stays a opened := by
    have stays := a.stays_openLink w
    rwa [opens] at stays
  have running' : opened.lifecycle.isRunning := same.lifecycle ▸ running
  have rebound : a.rebind w = (.ok (), b.takeIn.2) := by
    unfold rebind
    rw [opens]
    exact if_pos running'
  obtain ⟨used, sentBefore⟩ := numbered_course s earlier
  refine ⟨rebound, same.lifecycle, same.desktop, same.events, fun n inUse => ?_, fun x mem => ?_,
    fun later => ?_⟩
  · have := used n inUse
    omega
  · have := sentBefore x mem
    omega
  intro c
  have takes : Works b b.takeIn.2 := (acts_takeIn b).works
  have inUse : b.number? = some l.number := rfl
  have moves : MovesOn b c := takes.keepsLink.movesOn.trans (movesOn_foldl_undergo _ later)
  have opened' : b.opened = l.number := total.trans number.symm
  refine ⟨?sent, fun old below => ?late⟩
  case sent =>
    obtain ⟨further, sent, own⟩ := moves.sent
    refine ⟨further, sent, fun x mem => ?_, fun alone x mem => ?_⟩
    · rcases own x mem with there | new
      · rw [inUse] at there
        exact Nat.le_of_eq (Option.some.inj there)
      · omega
    · have begun : b.takeIn.2.lifecycle.hasBegun :=
        takes.continues.proceeds.lifecycle.hasBegun (Lifecycle.hasBegun_of_isRunning running')
      obtain ⟨further', sent', there⟩ :=
        (takes.keepsLink.trans (keepsLink_foldl_undergo begun alone)).sent
      have eq : further = further' := List.append_cancel_left (sent.symm.trans sent')
      have there := there x (eq ▸ mem)
      exact (Option.some.inj (inUse.symm.trans there)).symm
  case late =>
    have other : ∀ l', c.link = some l' → l'.number ≠ old := by
      intro l' linked
      have inUse' : c.number? = some l'.number := congrArg _ (current?_of_linked linked)
      rcases moves.number with same | ⟨n, number', new⟩
      · have := Option.some.inj (inUse'.symm.trans (same.trans inUse))
        omega
      · have := Option.some.inj (inUse'.symm.trans number')
        omega
    exact ⟨deliver_of_ne other, conclude_of_ne other, happen_of_ne other⟩

/-- A session that was launched is given a second link. From then on an error reported over the
first one is not told to the host. -/
theorem launched_session_takes_second_link :
    let a := course (oneLink []) (launching.map .stimulus)
    a.lifecycle.isRunning ∧ ∃ l opened, a.openLink greetingWire = (.ok l, opened) ∧
      a.number? = some 1 ∧ l.number = 2 ∧
      let b : Adapter := { opened with link := some l }
      a.rebind greetingWire = (.ok (), b.takeIn.2) ∧
      ∀ later : List Occurrence, ∀ m, (later.foldl undergo b.takeIn.2).deliver 1 m =
        later.foldl undergo b.takeIn.2 := by
  intro a
  have running : a.lifecycle.isRunning := by decide +kernel
  have used : a.number? = some 1 := by decide +kernel
  have total : a.opened = 1 := by decide +kernel
  have succeeds : (a.openLink greetingWire).1.isOk := by decide +kernel
  refine ⟨running, ?_⟩
  cases opens : a.openLink greetingWire with
  | mk result opened =>
    rw [opens] at succeeds
    cases result with
    | error f => cases succeeds
    | ok l =>
      have number : l.number = 2 := (number_of_openLink opens).1.trans (congrArg (· + 1) total)
      obtain ⟨rebound, -, -, -, -, -, later⟩ :=
        rebind_leaves_old_links_behind (oneLink []) _ greetingWire l opened running opens
      refine ⟨l, opened, rfl, used, number, rebound, fun occurrences m => ?_⟩
      exact ((later occurrences).2 1 (number ▸ by decide)).1 m

end Adapter
end DebugBridge
