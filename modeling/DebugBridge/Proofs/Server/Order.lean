import DebugBridge.Proofs.Server.Schedule
import Mathlib.Data.List.Perm.Basic
import Mathlib.Data.List.Range

/-!
# What a server writes

On every schedule a server answers the requests that it reads in their order, tells the adapter's
events in theirs, and gives every message a number of its own. Where both threads write, neither
comes between the response to `initialize` and the event that follows it: a session that was just
readied has nothing to tell.
-/

namespace DebugBridge

open Host (Event Inbox Outgoing Receipt RequestMessage)

namespace Host.Outgoing

def isResponse : Outgoing → Bool
  | response .. => true
  | event .. => false

/-- The event that tells the host that the adapter is ready. -/
def announces : Outgoing → Bool
  | response .. => false
  | event name _ => name = "initialized"

/-- The response to an `initialize` that succeeded. -/
def readies : Outgoing → Bool
  | response _ command result => result.isOk && command = "initialize"
  | event .. => false

/-- An event that the adapter has published, other than that it is ready. -/
def isNews (o : Outgoing) : Bool := !o.isResponse && !o.announces

theorem isNews_ofEvent {e : Event} (forwarded : Server.forwarded e) : (ofEvent e).isNews := by
  cases e with
  | initialized => cases forwarded
  | stopped | output | terminated => rfl

/-- Announcements stand directly behind the responses that ready the host, and nowhere else. One may
be expected in front, and one may be left open behind. -/
def Paired (expected : Bool) (os : List Outgoing) (left : Bool) : Prop :=
  expected :: os.map readies = os.map announces ++ [left]

section paired
variable {b c d : Bool} {o : Outgoing} {os ps : List Outgoing}

theorem paired_nil : Paired b [] c ↔ b = c := by
  simp [Paired]

theorem paired_cons : Paired b (o :: os) c ↔ b = o.announces ∧ Paired o.readies os c := by
  simp [Paired]

theorem Paired.append (h : Paired b os c) (h' : Paired c ps d) : Paired b (os ++ ps) d := by
  unfold Paired at h h' ⊢
  calc b :: (os ++ ps).map readies
    _ = (os.map announces ++ [c]) ++ ps.map readies := by
      rw [List.map_append, ← h, List.cons_append]
    _ = os.map announces ++ (ps.map announces ++ [d]) := by rw [← h', List.append_assoc]; rfl
    _ = (os ++ ps).map announces ++ [d] := by rw [List.map_append, List.append_assoc]

end paired

end Host.Outgoing

namespace Server.Handled
variable {h : Server.Handled}

theorem filter_isResponse_replies (h : Server.Handled) :
    h.replies.filter Outgoing.isResponse = [.toRequest h.1 h.2] := by
  unfold replies
  split <;> rfl

theorem isNews_of_mem_replies {o : Outgoing} (mem : o ∈ h.replies) : o.isNews = false := by
  unfold replies at mem
  split at mem
  case isTrue => rcases List.mem_pair.mp mem with rfl | rfl <;> rfl
  case isFalse =>
    rw [List.mem_singleton.mp mem]
    rfl

theorem of_announces {o : Outgoing} (mem : o ∈ h.replies) (announces : o.announces) :
    h.2.isOk ∧ h.1.command = "initialize" := by
  unfold replies at mem
  split at mem
  case isTrue ready => simpa using ready
  case isFalse =>
    rw [List.mem_singleton.mp mem] at announces
    cases announces

theorem paired_replies (h : Server.Handled) : Outgoing.Paired false h.replies false := by
  unfold replies
  split
  case isTrue ready =>
    have readies : (Outgoing.toRequest h.1 h.2).readies = true := ready
    simp [Outgoing.paired_cons, Outgoing.paired_nil, readies]
    exact ⟨rfl, rfl, rfl⟩
  case isFalse other =>
    have readies : (Outgoing.toRequest h.1 h.2).readies = false := Bool.eq_false_iff.mpr other
    simp [Outgoing.paired_cons, Outgoing.paired_nil, readies]
    rfl

end Server.Handled

namespace Relay

/-- The event that is still to be written. -/
def held : Relay → List Event
  | holding e _ => [e]
  | idle | finished => []

/-- The number that was drawn for it. -/
def number? : Relay → Option Nat
  | holding _ number => number
  | idle | finished => none

end Relay

namespace Service

/-- What was written, in order. -/
def messages (s : Service) : List Outgoing := s.written.map Prod.snd

theorem messages_write (s : Service) (n : Nat) (o : Outgoing) :
    (s.written ++ [(n, o)]).map Prod.snd = s.messages ++ [o] := by
  rw [List.map_append]
  rfl

/-! ## Numbers -/

/-- Every number that was drawn was written with a message, or is in the hands of a thread. -/
structure Numbers (s : Service) : Prop where
  drawn : (s.written.map Prod.fst ++ (s.number.toList ++ s.relay.number?.toList)).Perm
    (List.range' 1 s.drawn)
  due : s.number.isSome → s.due ≠ []

theorem Step.numbers {s t : Service} (step : Step s t) (h : s.Numbers) : t.Numbers := by
  obtain ⟨drawn, due⟩ := h
  have next (k : Nat) : List.range' 1 (k + 1) = List.range' 1 k ++ [k + 1] := by
    rw [List.range'_concat]
    simp [Nat.add_comm]
  cases step with
  | answer free reads received => exact ⟨drawn, fun number => absurd free (due number)⟩
  | wait | close | fail | undergo => exact ⟨drawn, due⟩
  | @draw o rest due' undrawn =>
    refine ⟨?_, fun _ => due' ▸ List.cons_ne_nil o rest⟩
    rw [undrawn] at drawn
    rw [next]
    refine .trans ?_ (drawn.append_right [s.drawn + 1])
    simp only [Option.toList, List.nil_append, List.append_assoc]
    exact List.Perm.append_left _ List.perm_append_comm
  | write due' number =>
    refine ⟨?_, fun number => by cases number⟩
    rw [number] at drawn
    simpa using drawn
  | @take e idle next' =>
    refine ⟨?_, due⟩
    have none : (relayOf e).number? = s.relay.number? := by
      rw [idle, relayOf]
      split <;> rfl
    rwa [none]
  | drawEvent holds =>
    refine ⟨?_, due⟩
    rw [holds] at drawn
    rw [next]
    refine .trans ?_ (drawn.append_right [s.drawn + 1])
    simp [Relay.number?]
  | @writeEvent e n holds =>
    refine ⟨?_, due⟩
    rw [holds] at drawn
    refine .trans ?_ drawn
    simp only [List.map_append, List.map_cons, List.map_nil, List.append_assoc, Relay.number?,
      Option.toList, List.append_nil]
    exact List.Perm.append_left _ List.perm_append_comm
  | finish idle free ended all =>
    refine ⟨?_, due⟩
    rw [idle] at drawn
    exact drawn

/-! ## Responses -/

/-- Every request that was read was answered once, in order, or its response is due. -/
structure Responses (s : Service) : Prop where
  due : ∀ o ∈ s.due, o.isNews = false
  answered : (s.messages ++ s.due).filter Outgoing.isResponse =
    s.handled.map fun h => .toRequest h.1 h.2

theorem Step.responses {s t : Service} (step : Step s t) (h : s.Responses) : t.Responses := by
  obtain ⟨due, answered⟩ := h
  cases step with
  | @answer m inbox free reads received =>
    rw [free, List.append_nil] at answered
    refine ⟨fun o mem => Server.Handled.isNews_of_mem_replies mem, ?_⟩
    change (s.messages ++ Server.Handled.replies (m, _)).filter Outgoing.isResponse = _
    rw [List.filter_append, answered, Server.Handled.filter_isResponse_replies]
    simp [Service.answered]
  | wait | close | fail | undergo | draw | take | drawEvent | finish => exact ⟨due, answered⟩
  | @write o rest n due' number =>
    rw [due'] at due answered
    refine ⟨fun o mem => due o (List.mem_cons_of_mem _ mem), ?_⟩
    rw [messages, messages_write, List.append_assoc]
    exact answered
  | @writeEvent e n holds =>
    refine ⟨due, ?_⟩
    rw [messages, messages_write, List.append_assoc, List.filter_append, List.filter_append]
    rwa [List.filter_append] at answered

/-! ## Events -/

/-- The events that were taken were written in order, those aside that are told otherwise, but for
the last, which may be in hand. -/
structure News (s : Service) : Prop where
  told : s.told ≤ s.adapter.journal.events.length
  held : ∀ e ∈ s.relay.held, Server.forwarded e ∧ e ∈ s.adapter.journal.events
  written : s.messages.filter Outgoing.isNews ++ s.relay.held.map .ofEvent =
    ((s.adapter.journal.events.take s.told).filter Server.forwarded).map .ofEvent

theorem take_of_prefix {es fs : List Event} {n : Nat} (grows : es <+: fs) (n_le : n ≤ es.length) :
    fs.take n = es.take n := by
  obtain ⟨rest, rfl⟩ := grows
  exact List.take_append_of_le_length n_le

theorem held_relayOf (e : Event) : (relayOf e).held = [e].filter Server.forwarded := by
  unfold relayOf
  split <;> simp [Relay.held, *]

/-- What the adapter publishes meanwhile does not touch what was told. -/
theorem News.grow {s t : Service} (h : s.News)
    (grows : s.adapter.journal.events <+: t.adapter.journal.events) (told : t.told = s.told)
    (relay : t.relay = s.relay) (messages : t.messages = s.messages) : t.News where
  told := by
    rw [told]
    exact Nat.le_trans h.told grows.length_le
  held := by
    intro e mem
    rw [relay] at mem
    obtain ⟨forwarded, mem⟩ := h.held e mem
    exact ⟨forwarded, grows.subset mem⟩
  written := by
    rw [messages, relay, told, take_of_prefix grows h.told]
    exact h.written

theorem Step.news {s t : Service} (step : Step s t) (due : ∀ o ∈ s.due, o.isNews = false)
    (h : s.News) : t.News := by
  cases step with
  | answer free reads received =>
    exact h.grow (s.adapter.events_answer _) rfl rfl rfl
  | wait | close | fail | draw => exact ⟨h.told, h.held, h.written⟩
  | @write o rest n due' number =>
    refine ⟨h.told, h.held, ?_⟩
    have other : o.isNews = false := due o (due' ▸ List.mem_cons_self)
    rw [messages, messages_write, List.filter_append]
    simpa [other] using h.written
  | @take e idle next =>
    obtain ⟨told, held, written⟩ := h
    have less : s.told < s.adapter.journal.events.length := (List.getElem?_eq_some_iff.mp next).1
    refine ⟨less, fun e' mem => ?_, ?_⟩
    · rw [held_relayOf, List.mem_filter, List.mem_singleton] at mem
      obtain ⟨rfl, forwarded⟩ := mem
      exact ⟨forwarded, List.mem_of_getElem? next⟩
    · rw [idle] at written
      have taken : s.adapter.journal.events.take (s.told + 1) =
          s.adapter.journal.events.take s.told ++ [e] := by
        rw [List.take_add_one, next]
        rfl
      dsimp only
      rw [taken, List.filter_append, List.map_append, ← written, held_relayOf]
      simp [Relay.held, messages]
  | drawEvent holds =>
    obtain ⟨told, held, written⟩ := h
    rw [holds] at held written
    exact ⟨told, held, written⟩
  | @writeEvent e n holds =>
    obtain ⟨told, held, written⟩ := h
    rw [holds] at held written
    have news : (Outgoing.ofEvent e).isNews :=
      Outgoing.isNews_ofEvent (held e (List.mem_singleton_self e)).1
    refine ⟨told, fun e mem => (List.not_mem_nil mem).elim, ?_⟩
    rw [messages, messages_write, List.filter_append]
    simpa [news, Relay.held] using written
  | finish idle free ended all =>
    obtain ⟨told, held, written⟩ := h
    rw [idle] at held written
    exact ⟨told, held, written⟩
  | undergo o alien => exact h.grow (s.adapter.movesOn_undergo o).journal.events rfl rfl rfl

/-! ## The announcement -/

/-- Announcements stand directly behind the responses that ready the host. While one is due, the
session has not begun. -/
structure Announced (s : Service) : Prop where
  paired : ∃ left, Outgoing.Paired false s.messages left ∧ Outgoing.Paired left s.due false
  early : (∃ o ∈ s.due, o.announces) → s.adapter.lifecycle.hasBegun = false

theorem Step.announced {s t : Service} (step : Step s t) (sound : s.adapter.Sound)
    (silent : s.adapter.Silent) (news : s.News) (h : s.Announced) : t.Announced := by
  obtain ⟨⟨left, written, due⟩, early⟩ := h
  cases step with
  | @answer m inbox free reads received =>
    rw [free, Outgoing.paired_nil] at due
    subst due
    refine ⟨⟨false, written, Server.Handled.paired_replies _⟩, fun ⟨o, mem, announces⟩ => ?_⟩
    obtain ⟨ok, asked⟩ := Server.Handled.of_announces mem announces
    have readied := Adapter.lifecycle_of_setUp asked ok
    exact congrArg Lifecycle.hasBegun readied
  | wait | close | fail | draw | take | drawEvent | finish => exact ⟨⟨left, written, due⟩, early⟩
  | @write o rest n due' number =>
    rw [due'] at due early
    obtain ⟨same, later⟩ := Outgoing.paired_cons.mp due
    refine ⟨⟨o.readies, ?_, later⟩, fun ⟨o', mem, announces⟩ => ?_⟩
    · rw [messages, messages_write]
      exact written.append (Outgoing.paired_cons.mpr ⟨same, Outgoing.paired_nil.mpr rfl⟩)
    · exact early ⟨o', List.mem_cons_of_mem _ mem, announces⟩
  | @writeEvent e n holds =>
    obtain ⟨forwarded, mem⟩ := news.held e (holds ▸ List.mem_singleton_self e)
    -- an event in hand means that the session has begun, so no announcement is due
    have begun : s.adapter.lifecycle.hasBegun := by
      by_contra early
      have none := silent (Bool.not_eq_true _ ▸ early)
      rw [List.filter_eq_nil_iff] at none
      exact none e mem forwarded
    have unannounced : ∀ o ∈ s.due, o.announces = false := by
      intro o mem
      by_contra announces
      rw [early ⟨o, mem, Bool.not_eq_false _ ▸ announces⟩] at begun
      cases begun
    have free : left = false := by
      cases next : s.due with
      | nil =>
        rw [next] at due
        exact Outgoing.paired_nil.mp due
      | cons o rest =>
        rw [next] at due unannounced
        exact (Outgoing.paired_cons.mp due).1.trans (unannounced o List.mem_cons_self)
    subst free
    have plain : Outgoing.Paired false [.ofEvent e] false := by
      cases e with
      | initialized => cases forwarded
      | stopped | output | terminated => rfl
    refine ⟨⟨false, ?_, due⟩, early⟩
    rw [messages, messages_write]
    exact written.append plain
  | undergo o alien =>
    refine ⟨⟨left, written, due⟩, fun announces => ?_⟩
    have before := early announces
    dsimp only
    rw [Adapter.lifecycle_undergo sound before alien]
    exact before

end Service

/-! ## The end of reading -/

/-- The requests that were handled are those of the stream up to the first that ends the session, or
else all, and in that case what comes behind them is the end of the stream or cannot be read. -/
def Server.Stops (inbox : Inbox) (handled : List Server.Handled) : Server.End → Prop
  | .served => handled.map Prod.fst <+: inbox.receiveAll.1 ∧
      ∃ before last, handled = before ++ [last] ∧ last.isLast ∧ ∀ h ∈ before, h.isLast = false
  | .closed => inbox.receiveAll = (handled.map Prod.fst, .closed) ∧ ∀ h ∈ handled, h.isLast = false
  | .unreadable fault => inbox.receiveAll = (handled.map Prod.fst, .failed fault) ∧
      ∀ h ∈ handled, h.isLast = false

namespace Service

/-- The requests that were handled come first in the stream, and reading goes on behind them until
it has stopped. -/
structure Reads (first : Inbox) (s : Service) : Prop where
  goes : s.ended = none → first.receiveAll =
    (s.handled.map Prod.fst ++ s.inbox.receiveAll.1, s.inbox.receiveAll.2) ∧
      ∀ h ∈ s.handled, h.isLast = false
  stops : ∀ e, s.ended = some e → Server.Stops first s.handled e

theorem Step.reads {first : Inbox} {s t : Service} (step : Step s t) (h : s.Reads first) :
    t.Reads first := by
  cases step with
  | @answer m inbox free reads received =>
    obtain ⟨all, none⟩ := h.goes reads
    rw [Inbox.receiveAll_of_request received] at all
    let answer : Server.Handled := (m, (s.adapter.answer m).1)
    have handled : (s.answered m inbox).handled = s.handled ++ [answer] := rfl
    have ended : (s.answered m inbox).ended = if answer.isLast then some .served else Option.none :=
      rfl
    have read : (s.answered m inbox).handled.map Prod.fst = s.handled.map Prod.fst ++ [m] := by
      rw [handled, List.map_append]
      rfl
    cases last : answer.isLast with
    | true =>
      rw [last] at ended
      refine ⟨fun still => ?_, fun e stopped => ?_⟩
      · rw [ended] at still
        cases still
      · rw [ended] at stopped
        cases stopped
        refine ⟨⟨inbox.receiveAll.1, ?_⟩, s.handled, answer, handled, last, none⟩
        rw [read, all, List.append_assoc]
        rfl
    | false =>
      rw [last] at ended
      refine ⟨fun _ => ⟨?_, fun h mem => ?_⟩, fun e stopped => ?_⟩
      · rw [read, all, List.append_assoc]
        rfl
      · rw [handled] at mem
        rcases List.mem_append.mp mem with mem | mem
        · exact none h mem
        · rwa [List.mem_singleton.mp mem]
      · rw [ended] at stopped
        cases stopped
  | @wait inbox free reads received =>
    have same : s.inbox.receiveAll = inbox.receiveAll := by
      rw [Inbox.receiveAll_of_last received (fun m => by simp),
        Inbox.receiveAll_of_last (Inbox.receive_of_waiting received) (fun m => by simp)]
    refine ⟨fun _ => ?_, h.stops⟩
    rw [← same]
    exact h.goes reads
  | @close inbox free reads received =>
    obtain ⟨all, none⟩ := h.goes reads
    rw [Inbox.receiveAll_of_last received (fun m => by simp), List.append_nil] at all
    refine ⟨fun still => ?_, fun e stopped => ?_⟩
    · cases still
    · cases stopped
      exact ⟨all, none⟩
  | @fail fault inbox free reads received =>
    obtain ⟨all, none⟩ := h.goes reads
    rw [Inbox.receiveAll_of_last received (fun m => by simp), List.append_nil] at all
    refine ⟨fun still => ?_, fun e stopped => ?_⟩
    · cases still
    · cases stopped
      exact ⟨all, none⟩
  | draw | write | take | drawEvent | writeEvent | finish | undergo => exact ⟨h.goes, h.stops⟩

/-! ## Whole schedules -/

/-- The requests are read and answered, as far as they ever will be. -/
def HasAnswered (s : Service) : Prop := s.ended.isSome ∧ s.due = []

/-- What every schedule keeps. -/
structure Orderly (first : Inbox) (s : Service) : Prop where
  sound : s.adapter.Sound
  silent : s.adapter.Silent
  numbers : s.Numbers
  responses : s.Responses
  news : s.News
  announced : s.Announced
  reads : s.Reads first
  /-- The threads finish one after the other. -/
  finished : s.relay = .finished → s.HasAnswered

theorem Step.orderly {first : Inbox} {s t : Service} (step : Step s t) (h : s.Orderly first) :
    t.Orderly first where
  sound := by
    cases step with
    | answer => exact Adapter.sound_undergo h.sound (.stimulus (.request _))
    | undergo o alien => exact Adapter.sound_undergo h.sound o
    | _ => exact h.sound
  silent := by
    cases step with
    | answer => exact Adapter.silent_undergo h.sound h.silent (.stimulus (.request _))
    | undergo o alien => exact Adapter.silent_undergo h.sound h.silent o
    | _ => exact h.silent
  numbers := step.numbers h.numbers
  responses := step.responses h.responses
  news := step.news h.responses.due h.news
  announced := step.announced h.sound h.silent h.news h.announced
  reads := step.reads h.reads
  finished := by
    cases step with
    | answer free reads | wait free reads | close free reads | fail free reads =>
      intro finished
      have ended := (h.finished finished).1
      rw [reads] at ended
      cases ended
    | write due number =>
      intro finished
      have free := (h.finished finished).2
      rw [due] at free
      cases free
    | @take e idle next =>
      intro finished
      dsimp only [relayOf] at finished
      split at finished <;> cases finished
    | drawEvent | writeEvent =>
      intro finished
      cases finished
    | finish idle free ended all => exact fun _ => ⟨ended, free⟩
    | draw | undergo => exact h.finished

theorem orderly_start {a : Adapter} (sound : a.Sound) (silent : a.Silent) (inbox : Inbox) :
    (start a inbox).Orderly inbox where
  sound := sound
  silent := silent
  numbers := ⟨.refl _, fun number => by cases number⟩
  responses := ⟨fun o mem => (List.not_mem_nil mem).elim, rfl⟩
  news := ⟨Nat.zero_le _, fun e mem => (List.not_mem_nil mem).elim, rfl⟩
  announced := ⟨⟨false, rfl, rfl⟩, fun ⟨o, mem, _⟩ => (List.not_mem_nil mem).elim⟩
  reads := ⟨fun _ => ⟨rfl, fun h mem => (List.not_mem_nil mem).elim⟩, fun e ended => by cases ended⟩
  finished := fun finished => by cases finished

theorem Steps.orderly {first : Inbox} {s t : Service} (steps : Steps s t) (h : s.Orderly first) :
    t.Orderly first := by
  induction steps with
  | refl => exact h
  | tail before step ih => exact step.orderly ih

end Service
end DebugBridge
