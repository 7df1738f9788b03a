import DebugBridge.Adapter.Requests
import DebugBridge.Proofs.Adapter.Sound
import DebugBridge.Proofs.Evaluation.Quiet
import Mathlib.Logic.Relation

/-!
# What the adapter does at its link

Whatever it is asked, the adapter does few kinds of things at its link: it sends a command, it reads
a frame and takes it in, or it finds that there is none or that the link has ended. Besides it takes
notes of its own. What happens on the link, and every request that does not begin or end the
session, comes down to a chain of these, so what one of them keeps is kept throughout.
-/

namespace DebugBridge

/-- Nothing is taken back of what a journal says of events and frames. -/
structure Journal.Extends (j k : Journal) : Prop where
  events : j.events <+: k.events
  traffic : j.traffic <+: k.traffic

namespace Journal.Extends
variable {j k : Journal}

theorem refl (j : Journal) : j.Extends j := ⟨List.prefix_rfl, List.prefix_rfl⟩

theorem trans {i : Journal} (h : i.Extends j) (h' : j.Extends k) : i.Extends k :=
  ⟨h.events.trans h'.events, h.traffic.trans h'.traffic⟩

theorem crossed (j : Journal) (number : Nat) (before after : Wire) :
    j.Extends (j.crossed number before after) :=
  ⟨List.prefix_rfl, List.prefix_append _ _⟩

end Journal.Extends

namespace Adapter

open Relation (ReflTransGen)
open Host (Request)

/-- The link in use, or else the one that was in use last. -/
def current? (a : Adapter) : Option Link := a.link.or a.retired

theorem current?_of_linked {a : Adapter} {l : Link} (linked : a.link = some l) :
    a.current? = some l := by
  rw [current?, linked, Option.some_or]

/-- A step at the link. -/
inductive Act : Adapter → Adapter → Prop
  /-- A command is sent, if need be over a link that has ended since the request began. -/
  | send {a : Adapter} (known : a.current?.isSome) (l : Link) (c : Command) :
      Act a (a.sendFor l c).2
  /-- Something happens at the other end. -/
  | stir {a : Adapter} {l : Link} (linked : a.link = some l) (h : Happening) :
      Act a { a with link := some { l with gate := { l.gate with wire := l.gate.wire.after h } } }
  /-- A frame is read and taken in. -/
  | take {a : Adapter} {l : Link} {payload : String} {wire : Wire} (linked : a.link = some l)
      (polled : l.gate.wire.poll true = (.ok (.frame payload), wire)) :
      Act a ((a.putGate l { l.gate with wire }).hear { l with gate := { l.gate with wire } }
        (.ofPayload payload))
  /-- There is no frame to be read. -/
  | wait {a : Adapter} {l : Link} {wire : Wire} (linked : a.link = some l)
      (polled : l.gate.wire.poll true = (.ok .timeout, wire)) :
      Act a (a.putGate l { l.gate with wire })
  /-- The link has ended or fails. -/
  | lose {a : Adapter} {l : Link} {result : Except LinkFault Poll} {wire : Wire}
      (linked : a.link = some l) (polled : l.gate.wire.poll true = (result, wire))
      (gone : result = .ok .closed ∨ ∃ f, result = .error f) :
      Act a (a.putGate l { l.gate with wire }).lose
  /-- The script goes on to the next line of code. -/
  | turn {a : Adapter} (answers delays : List (List Happening)) :
      Act a { a with answers, delays }

/-- A step of a request that waits for nothing. -/
inductive Write : Adapter → Adapter → Prop
  | send {a : Adapter} {l : Link} (linked : a.link = some l) (c : Command) :
      Write a (a.sendOver l c).2
  /-- The fallback for interrupts is called. -/
  | fallBack (a : Adapter) :
      Write a { a with journal := { a.journal with fallbacks := a.journal.fallbacks + 1 } }

/-- A step of a request. -/
inductive Work : Adapter → Adapter → Prop
  | act {a b : Adapter} (act : Act a b) : Work a b
  | write {a b : Adapter} (write : Write a b) : Work a b
  /-- Something is noted on the desktop, or struck out. -/
  | note {a : Adapter} {desktop : Desktop}
      (fresh : a.desktop.quiet.IsFresh → desktop.quiet.IsFresh) : Work a { a with desktop }

abbrev Acts : Adapter → Adapter → Prop := ReflTransGen Act

abbrev Writes : Adapter → Adapter → Prop := ReflTransGen Write

abbrev Works : Adapter → Adapter → Prop := ReflTransGen Work

theorem Acts.works {a b : Adapter} (acts : Acts a b) : Works a b :=
  ReflTransGen.mono (fun _ _ => Work.act) a b acts

theorem Writes.works {a b : Adapter} (writes : Writes a b) : Works a b :=
  ReflTransGen.mono (fun _ _ => Work.write) a b writes

theorem works_withQuiet (a : Adapter) {change : Quiet → Quiet}
    (fresh : a.desktop.quiet.IsFresh → (change a.desktop.quiet).IsFresh) :
    Works a (a.withQuiet change) :=
  .single (.note fresh)

/-! ## Soundness -/

theorem Write.stays {a b : Adapter} (write : Write a b) : Stays a b := by
  cases write with
  | send linked c => exact a.stays_sendOver (linked ▸ rfl) _ c
  | fallBack => exact ⟨rfl, rfl, rfl, rfl⟩

theorem Writes.stays {a b : Adapter} (writes : Writes a b) : Stays a b := by
  induction writes with
  | refl => exact .refl a
  | tail before write ih => exact ih.trans write.stays

theorem stays_sendFor (a : Adapter) (l : Link) (c : Command) : Stays a (a.sendFor l c).2 := by
  unfold sendFor
  split
  case h_1 l linked => exact a.stays_sendOver (linked ▸ rfl) l c
  case h_2 unlinked => exact ⟨rfl, rfl, rfl, rfl⟩

theorem Act.continues {a b : Adapter} (act : Act a b) : Continues a b := by
  cases act with
  | send known l c => exact (a.stays_sendFor l c).continues
  | stir linked h => exact .of_same (by rw [linked]; rfl) rfl rfl
  | take linked polled =>
    have put (a : Adapter) (linked : a.link.isSome) (l : Link) (gate : Gate) :=
      (a.stays_putGate linked l gate).continues
    rw [hear_eq]
    exact (put a (linked ▸ rfl) _ _).trans ((put _ rfl _ _).trans (continues_attend rfl _))
  | wait linked polled => exact (a.stays_putGate (linked ▸ rfl) _ _).continues
  | lose linked polled gone =>
    exact (a.stays_putGate (linked ▸ rfl) _ _).continues.trans (continues_lose _)
  | turn answers delays => exact .of_same rfl rfl rfl

theorem Work.continues {a b : Adapter} (work : Work a b) : Continues a b := by
  cases work with
  | act act => exact act.continues
  | write write => exact write.stays.continues
  | note fresh => exact .of_same rfl rfl rfl

theorem Works.continues {a b : Adapter} (works : Works a b) : Continues a b := by
  induction works with
  | refl => exact .refl a
  | tail before work ih => exact ih.trans work.continues

/-! ## Taking in -/

section intake

theorem acts_takeFrames (frames : Nat) (a : Adapter) : Acts a (takeFrames frames a).2 := by
  induction frames generalizing a with
  | zero => exact .refl
  | succ frames ih =>
    unfold takeFrames
    split
    case h_1 => exact .refl
    case h_2 l linked =>
      cases polled : l.gate.wire.poll true with
      | mk result wire =>
        rcases result with f | _ | _ | _
        · exact .single (.lose linked polled (.inr ⟨f, rfl⟩))
        · exact .head (.take linked polled) (ih _)
        · exact .single (.lose linked polled (.inl rfl))
        · exact .single (.wait linked polled)

theorem acts_takeIn (a : Adapter) : Acts a a.takeIn.2 := by
  unfold takeIn
  split
  case h_1 => exact .refl
  case h_2 l linked => exact acts_takeFrames _ a

theorem acts_happen (a : Adapter) (number : Nat) (h : Happening) :
    Acts a (a.happen number h).2 := by
  unfold happen
  split
  case h_1 => exact .refl
  case h_2 l linked =>
    split
    case isTrue => exact .head (.stir linked h) (acts_takeIn _)
    case isFalse => exact .refl

end intake

/-! ## The link in use -/

/-- The same link stays in use, and all that is sent goes over it. -/
structure KeepsLink (a b : Adapter) : Prop where
  opened : b.opened = a.opened
  number : b.current?.map Link.number = a.current?.map Link.number
  journal : a.journal.Extends b.journal
  sent : ∃ further, b.journal.sent = a.journal.sent ++ further ∧
    ∀ x ∈ further, a.current?.map Link.number = some x.link

namespace KeepsLink
variable {a b c : Adapter}

theorem of_unsent (opened : b.opened = a.opened)
    (number : b.current?.map Link.number = a.current?.map Link.number)
    (journal : a.journal.Extends b.journal) (sent : b.journal.sent = a.journal.sent) :
    KeepsLink a b :=
  ⟨opened, number, journal, [], by rw [sent, List.append_nil], by simp⟩

/-- What leaves the journal as it is sends nothing. -/
theorem of_same (opened : b.opened = a.opened)
    (number : b.current?.map Link.number = a.current?.map Link.number)
    (journal : b.journal = a.journal) : KeepsLink a b :=
  of_unsent opened number (journal ▸ .refl _) (congrArg _ journal)

theorem refl (a : Adapter) : KeepsLink a a := of_same rfl rfl rfl

theorem publish (a : Adapter) (e : Host.Event) : KeepsLink a (a.publish e) :=
  of_unsent rfl rfl ⟨List.prefix_append _ _, List.prefix_rfl⟩ rfl

theorem trans (h : KeepsLink a b) (h' : KeepsLink b c) : KeepsLink a c := by
  obtain ⟨first, sent, own⟩ := h.sent
  obtain ⟨second, sent', own'⟩ := h'.sent
  refine ⟨h'.opened.trans h.opened, h'.number.trans h.number, h.journal.trans h'.journal,
    first ++ second, by rw [sent', sent, List.append_assoc], fun x mem => ?_⟩
  rcases List.mem_append.mp mem with mem | mem
  · exact own x mem
  · exact h.number ▸ own' x mem

theorem putGate {l : Link} (linked : a.link = some l) (gate : Gate) :
    KeepsLink a (a.putGate l gate) where
  opened := rfl
  number := by simp [current?, Adapter.putGate, linked]
  journal := .crossed _ _ _ _
  sent := by
    refine ⟨_, rfl, fun x mem => ?_⟩
    obtain ⟨payload, -, rfl⟩ := List.mem_map.mp mem
    rw [current?_of_linked linked]
    rfl

theorem sendFor (known : a.current?.isSome) (l : Link) (c : Command) :
    KeepsLink a (a.sendFor l c).2 := by
  cases linked : a.link with
  | some l' =>
    rw [Adapter.sendFor, linked]
    exact putGate linked _
  | none =>
    rw [current?, linked, Option.none_or] at known
    obtain ⟨last, retired⟩ := Option.isSome_iff_exists.mp known
    rw [Adapter.sendFor, linked, retired]
    refine ⟨rfl, by simp [current?, linked, retired], .crossed _ _ _ _, _, rfl,
      fun x mem => ?_⟩
    obtain ⟨payload, -, rfl⟩ := List.mem_map.mp mem
    rw [current?, linked, retired]
    rfl

theorem follow (a : Adapter) (c : Command) : KeepsLink a (a.follow c) := by
  unfold Adapter.follow
  split
  case h_1 l linked => exact putGate linked _
  case h_2 => exact refl a

theorem foldl_follow (a : Adapter) (cs : List Command) :
    KeepsLink a (cs.foldl Adapter.follow a) := by
  induction cs generalizing a with
  | nil => exact refl a
  | cons c cs ih => exact (follow a c).trans (ih _)

/-- The link that is dropped is the one that was in use last. -/
theorem dropLink (a : Adapter) : KeepsLink a a.dropLink := by
  unfold Adapter.dropLink
  split
  case h_1 l linked => exact of_same rfl (by simp [current?, linked]) rfl
  case h_2 => exact refl a

theorem carryOut (a : Adapter) (e : Effects) : KeepsLink a (a.carryOut e) := by
  have published (a : Adapter) (es : List Host.Event) :
      KeepsLink a (es.foldl Adapter.publish a) := by
    rw [foldl_publish]
    exact of_unsent rfl rfl ⟨List.prefix_append _ _, List.prefix_rfl⟩ rfl
  exact (foldl_follow a e.commands).trans (published _ e.events)

theorem attend (a : Adapter) (m : Message) : KeepsLink a (a.attend m) := by
  have noted : KeepsLink a (a.noted m) := of_same rfl rfl rfl
  have done := noted.trans (carryOut _ (a.desktop.hear m).2)
  unfold Adapter.attend
  dsimp only
  split
  · exact done.trans (dropLink _)
  · exact done

theorem hear {l : Link} (linked : a.link = some l) (m : Message) : KeepsLink a (a.hear l m) := by
  rw [hear_eq]
  exact (putGate linked _).trans (attend _ m)

theorem lose (a : Adapter) : KeepsLink a a.lose := by
  unfold Adapter.lose
  dsimp only
  split
  case isTrue =>
    have ended : KeepsLink a { a with lifecycle := .terminated } := of_same rfl rfl rfl
    exact ((ended.trans (publish _ _)).trans (publish _ _)).trans (dropLink _)
  case isFalse => exact dropLink a

end KeepsLink

theorem Act.keepsLink {a b : Adapter} (act : Act a b) : KeepsLink a b := by
  cases act with
  | send known l c => exact .sendFor known l c
  | stir linked h => exact .of_same rfl (by simp [current?, linked]) rfl
  | take linked polled => exact (KeepsLink.putGate linked _).trans (.hear rfl _)
  | wait linked polled => exact .putGate linked _
  | lose linked polled gone => exact (KeepsLink.putGate linked _).trans (.lose _)
  | turn answers delays => exact .of_same rfl rfl rfl

theorem Write.keepsLink {a b : Adapter} (write : Write a b) : KeepsLink a b := by
  cases write with
  | send linked c => exact .putGate linked _
  | fallBack => exact .of_unsent rfl rfl ⟨List.prefix_rfl, List.prefix_rfl⟩ rfl

theorem Work.keepsLink {a b : Adapter} (work : Work a b) : KeepsLink a b := by
  cases work with
  | act act => exact act.keepsLink
  | write write => exact write.keepsLink
  | note fresh => exact .of_same rfl rfl rfl

theorem Works.keepsLink {a b : Adapter} (works : Works a b) : KeepsLink a b := by
  induction works with
  | refl => exact .refl a
  | tail before work ih => exact ih.trans work.keepsLink

/-- A link that was in use is known from then on. -/
theorem Works.isSome_current? {a b : Adapter} (works : Works a b) (known : a.current?.isSome) :
    b.current?.isSome := by
  have same := congrArg Option.isSome works.keepsLink.number
  rwa [Option.isSome_map, Option.isSome_map, known] at same

/-! ## Quiet waits -/

theorem Act.fresh {a b : Adapter} (act : Act a b) (fresh : a.desktop.quiet.IsFresh) :
    b.desktop.quiet.IsFresh := by
  cases act with
  | take linked polled =>
    rw [hear_eq, desktop_attend, Desktop.quiet_hear]
    exact fresh.hear _
  | send known l c =>
    rw [(a.stays_sendFor l c).desktop]
    exact fresh
  | lose linked polled gone =>
    rw [desktop_lose]
    exact fresh
  | stir | wait | turn => exact fresh

theorem Works.fresh {a b : Adapter} (works : Works a b) (fresh : a.desktop.quiet.IsFresh) :
    b.desktop.quiet.IsFresh := by
  induction works with
  | refl => exact fresh
  | tail before work ih =>
    cases work with
    | act act => exact act.fresh ih
    | write write =>
      rw [write.stays.desktop]
      exact ih
    | note kept => exact kept ih

/-! ## Running code -/

theorem acts_sendFor (a : Adapter) (known : a.current?.isSome) (l : Link) (c : Command) :
    Acts a (a.sendFor l c).2 :=
  .single (.send known l c)

theorem acts_await (number : Nat) (e : Evaluation) (hs : List Happening) (a : Adapter) :
    Acts a (await number e hs a).2.2 := by
  induction hs generalizing e a with
  | nil => exact .refl
  | cons h hs ih =>
    have happened := acts_happen a number h
    unfold await
    dsimp only
    split
    case h_1 => exact happened
    case h_2 =>
      split
      case isTrue => exact happened
      case isFalse => exact happened.trans (ih _ _)

theorem acts_settle (hs : List Happening) (a : Adapter) : Acts a (settle hs a) := by
  unfold settle
  split
  case h_2 => exact .refl
  case h_1 l linked =>
    clear linked
    induction hs generalizing a with
    | nil => exact .refl
    | cons h hs ih => exact (acts_happen a l.number h).trans (ih _)

theorem act_turnPage (a : Adapter) (written : Bool) : Act a (a.turnPage written) := by
  cases written with
  | false => exact .turn a.answers a.delays.tail
  | true => exact .turn a.answers.tail a.delays

theorem acts_awaitResult (a : Adapter) (written : Bool) : Acts a (a.awaitResult written).2.2 := by
  have turned : Acts a (a.turnPage written) := .single (a.act_turnPage written)
  unfold awaitResult
  cases a.link with
  | none => exact turned
  | some l => exact turned.trans (acts_await l.number .start _ _)

/-- Running a line of code without a result: the line is sent and awaited, the wait is given up, and
what else happens comes after that. -/
theorem exists_acts_of_quietly_error {a b : Adapter} {l : Link} {text : String} {f : Failure}
    (known : a.current?.isSome) (failed : a.quietly l text = (.error f, b)) :
    ∃ waited, Acts (a.withQuiet Quiet.start) waited ∧ Acts (waited.withQuiet Quiet.giveUp) b := by
  have sent := acts_sendFor (a.withQuiet Quiet.start) known l (Evaluation.command text)
  unfold quietly at failed
  split at failed
  case h_1 f' c same =>
    rw [same] at sent
    cases failed
    exact ⟨c, sent, .refl⟩
  case h_2 result c same =>
    rw [same] at sent
    have awaited := sent.trans (c.acts_awaitResult (result = .written))
    split at failed
    case h_1 f' rest d same' =>
      rw [same'] at awaited
      cases failed
      exact ⟨d, awaited, acts_settle rest _⟩
    case h_2 => cases failed

theorem exists_acts_of_quietly_ok {a b : Adapter} {l : Link} {text output : String}
    (known : a.current?.isSome) (ok : a.quietly l text = (.ok output, b)) :
    Acts (a.withQuiet Quiet.start) b := by
  have sent := acts_sendFor (a.withQuiet Quiet.start) known l (Evaluation.command text)
  unfold quietly at ok
  split at ok
  case h_1 => cases ok
  case h_2 result c same =>
    rw [same] at sent
    have awaited := sent.trans (c.acts_awaitResult (result = .written))
    split at ok
    case h_1 => cases ok
    case h_2 output' rest d same' =>
      rw [same'] at awaited
      cases ok
      exact awaited.trans (acts_settle rest d)

theorem works_start (a : Adapter) : Works a (a.withQuiet Quiet.start) :=
  a.works_withQuiet fun _ idle => absurd idle (Nat.succ_ne_zero _)

theorem works_giveUp (a : Adapter) : Works a (a.withQuiet Quiet.giveUp) :=
  a.works_withQuiet fun _ => Quiet.isFresh_giveUp _

theorem works_quietly (a : Adapter) (known : a.current?.isSome) (l : Link) (text : String) :
    Works a (a.quietly l text).2 := by
  cases result : a.quietly l text with
  | mk outcome b =>
    cases outcome with
    | ok output => exact a.works_start.trans (exists_acts_of_quietly_ok known result).works
    | error f =>
      obtain ⟨waited, before, after⟩ := exists_acts_of_quietly_error known result
      exact (a.works_start.trans before.works).trans (waited.works_giveUp.trans after.works)

theorem works_valuesOf (a : Adapter) (known : a.current?.isSome) (l : Link) (names : List String) :
    Works a (valuesOf l names a).2 := by
  induction names generalizing a with
  | nil => exact .refl
  | cons name rest ih =>
    have first := a.works_quietly known l name
    exact first.trans (ih _ (first.isSome_current? known))

/-! ## Requests that need the session -/

section requests
variable (a : Adapter)

theorem link_of_runningLink {request : String} {l : Link}
    (ok : a.runningLink request = .ok l) : a.link = some l := by
  unfold runningLink at ok
  split at ok
  case isFalse => cases ok
  case isTrue =>
    split at ok
    case h_1 l' linked => exact Except.ok.inj ok ▸ linked
    case h_2 => cases ok

theorem works_evaluate (expression : String) : Works a (a.evaluate expression).2 := by
  unfold evaluate
  split
  case h_1 => exact .refl
  case h_2 l ok =>
    have linked := a.link_of_runningLink ok
    exact a.works_quietly (current?_of_linked linked ▸ rfl) l expression

theorem works_variablesOf (reference : Int64) : Works a (a.variablesOf reference).2 := by
  unfold variablesOf
  split
  · exact .refl
  split
  · exact .refl
  split
  case h_1 => exact .refl
  case h_2 l ok =>
    have known : a.current?.isSome := current?_of_linked (a.link_of_runningLink ok) ▸ rfl
    have listed := a.works_quietly known l listing
    split
    case h_1 f b failed =>
      rw [failed] at listed
      exact listed
    case h_2 names b ok =>
      rw [ok] at listed
      exact listed.trans (b.works_valuesOf (listed.isSome_current? known) l _)

theorem writes_sendOver {l : Link} (linked : a.link = some l) (c : Command) :
    Writes a (a.sendOver l c).2 :=
  .single (.send linked c)

theorem writes_step (request : String) (command : Command.WindowRef → Command) :
    Writes a (a.step request command).2 := by
  unfold step
  split
  case h_1 | h_2 => exact .refl
  case h_3 l window ok active =>
    have sent := a.writes_sendOver (a.link_of_runningLink ok) (command ⟨window⟩)
    generalize a.sendOver l (command ⟨window⟩) = outcome at sent ⊢
    obtain ⟨_ | _, b⟩ := outcome <;> exact sent

theorem writes_pause : Writes a a.pause.2 := by
  unfold pause
  split
  case h_1 => exact .refl
  case h_2 l ok =>
    have sent := a.writes_sendOver (a.link_of_runningLink ok) .weakInterrupt
    split
    case h_1 b same =>
      rw [same] at sent
      exact sent
    case h_2 f b same =>
      rw [same] at sent
      split
      case h_1 => exact sent
      case h_2 => split <;> exact sent.tail (.fallBack b)

theorem writes_threads : Writes a a.threads.2 := by
  unfold threads
  split
  case h_1 => exact .refl
  case h_2 l ok =>
    have sent := a.writes_sendOver (a.link_of_runningLink ok) .getThreads
    generalize a.sendOver l .getThreads = outcome at sent ⊢
    obtain ⟨_ | _, b⟩ := outcome <;> exact sent

theorem writes_sendPlanned (command : Option Command) : Writes a (a.sendPlanned command).2 := by
  unfold sendPlanned
  split
  case h_1 | h_2 => exact .refl
  case h_3 c l linked =>
    have sent := a.writes_sendOver linked c
    generalize a.sendOver l c = outcome at sent ⊢
    obtain ⟨_ | _, b⟩ := outcome <;> exact sent

theorem writes_follow (c : Command) : Writes a (a.follow c) := by
  unfold follow
  split
  case h_1 l linked => exact a.writes_sendOver linked c
  case h_2 => exact .refl

theorem works_setBreakpoints (source : Host.Source) (lines : List Int64) :
    Works a (a.setBreakpoints source lines).2 := by
  unfold setBreakpoints
  split
  case isFalse => exact .refl
  case isTrue =>
    split
    case h_1 => exact .refl
    case h_2 plan desktop planned =>
      have quiet : desktop.quiet = a.desktop.quiet := by
        have asked : a.desktop.after (.request source lines) = desktop := by
          simp only [Desktop.after, planned]
        obtain ⟨deferred, same⟩ := a.desktop.after_request source lines
        rw [← asked, same]
      have noted : Works a { a with desktop } := .single (.note (quiet ▸ id))
      have sent := noted.trans (writes_sendPlanned { a with desktop } plan.command).works
      split
      case h_1 f b same =>
        rw [same] at sent
        exact sent
      case h_2 b same =>
        rw [same] at sent
        dsimp only
        split
        · exact sent.trans (b.writes_follow .getWindowLayout).works
        · exact sent

end requests

end Adapter
end DebugBridge
