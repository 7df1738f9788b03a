import DebugBridge.Proofs.Adapter.Prelude
import DebugBridge.Proofs.Server.Receiving

/-!
# The threads of a server

A server answers requests in one thread and relays events in another, while the adapter deals with
the interpreter in more. The two share the output and the numbers: each draws a number for a message
first and writes the message later, and the other may do either in between. Any order of such steps
is a schedule. To handle everything in turn, as `Server.run` does, is one of them.
-/

namespace DebugBridge

open Host (Event Inbox Outgoing RequestMessage)
open Relation (ReflTransGen)

namespace Server

/-- A request with what became of it. -/
abbrev Handled : Type := RequestMessage × Except Failure (Option Json.Value)

/-- No request is read behind this one. -/
def Handled.isLast (h : Handled) : Bool :=
  h.2.isOk && (h.1.command = "disconnect" || h.1.command = "terminate")

theorem Handled.isLast_eq (h : Handled) : h.isLast = (h.2.isOk && endsSession h.1.command) := rfl

/-- What is written for a request, in order. -/
def Handled.replies (h : Handled) : List Outgoing :=
  .toRequest h.1 h.2 ::
    if h.2.isOk && h.1.command = "initialize" then [.ofEvent .initialized] else []

end Server

/-- What the thread that relays events is doing. -/
inductive Relay where
  | idle
  /-- An event is to be written, for which a number may have been drawn. -/
  | holding (e : Event) (number : Option Nat)
  | finished

/-- A server between two steps of its threads. -/
structure Service where
  adapter : Adapter
  inbox : Inbox
  /-- What is still to be written for the request that was read last, in order. -/
  due : List Outgoing
  /-- The number drawn for the first of it. -/
  number : Option Nat
  /-- Why no further request is read. -/
  ended : Option Server.End
  relay : Relay
  /-- How many of the adapter's events were taken to be relayed. -/
  told : Nat
  /-- How many numbers were drawn. -/
  drawn : Nat
  /-- The messages written so far with their numbers, in the order of writing. -/
  written : List (Nat × Outgoing)
  /-- The requests read so far, in order. -/
  handled : List Server.Handled

namespace Service

/-- A service of which nothing was done yet. -/
def start (a : Adapter) (inbox : Inbox) : Service :=
  ⟨a, inbox, [], none, none, .idle, 0, 0, [], []⟩

/-- A request is read and handled. -/
def answered (s : Service) (m : RequestMessage) (inbox : Inbox) : Service :=
  let h : Server.Handled := (m, (s.adapter.answer m).1)
  { s with
    adapter := (s.adapter.answer m).2
    inbox
    due := h.replies
    ended := if h.isLast then some .served else none
    handled := s.handled ++ [h] }

/-- What the relaying thread does with an event that it has taken. -/
def relayOf (e : Event) : Relay := if Server.forwarded e then .holding e none else .idle

/-- A step of one of the threads. -/
inductive Step : Service → Service → Prop
  | answer {s : Service} {m : RequestMessage} {inbox : Inbox} (free : s.due = [])
      (reads : s.ended = none) (received : s.inbox.receive = (.request m, inbox)) :
      Step s (s.answered m inbox)
  /-- No request has come in full. -/
  | wait {s : Service} {inbox : Inbox} (free : s.due = []) (reads : s.ended = none)
      (received : s.inbox.receive = (.waiting, inbox)) : Step s { s with inbox }
  | close {s : Service} {inbox : Inbox} (free : s.due = []) (reads : s.ended = none)
      (received : s.inbox.receive = (.closed, inbox)) :
      Step s { s with inbox, ended := some .closed }
  | fail {s : Service} {fault : Host.Unreadable} {inbox : Inbox} (free : s.due = [])
      (reads : s.ended = none) (received : s.inbox.receive = (.failed fault, inbox)) :
      Step s { s with inbox, ended := some (.unreadable fault) }
  /-- A number is drawn for what is due. -/
  | draw {s : Service} {o : Outgoing} {rest : List Outgoing} (due : s.due = o :: rest)
      (undrawn : s.number = none) :
      Step s { s with drawn := s.drawn + 1, number := some (s.drawn + 1) }
  | write {s : Service} {o : Outgoing} {rest : List Outgoing} {n : Nat} (due : s.due = o :: rest)
      (drawn : s.number = some n) :
      Step s { s with due := rest, number := none, written := s.written ++ [(n, o)] }
  /-- The next event is taken. -/
  | take {s : Service} {e : Event} (idle : s.relay = .idle)
      (next : s.adapter.journal.events[s.told]? = some e) :
      Step s { s with told := s.told + 1, relay := relayOf e }
  /-- A number is drawn for an event. -/
  | drawEvent {s : Service} {e : Event} (holds : s.relay = .holding e none) :
      Step s { s with drawn := s.drawn + 1, relay := .holding e (some (s.drawn + 1)) }
  | writeEvent {s : Service} {e : Event} {n : Nat} (holds : s.relay = .holding e (some n)) :
      Step s { s with relay := .idle, written := s.written ++ [(n, .ofEvent e)] }
  /-- Everything is answered and told. -/
  | finish {s : Service} (idle : s.relay = .idle) (free : s.due = []) (ended : s.ended.isSome)
      (all : s.told = s.adapter.journal.events.length) : Step s { s with relay := .finished }
  /-- The adapter deals with something that does not come from the host. -/
  | undergo {s : Service} (o : Adapter.Occurrence) (alien : o.isRequest = false) :
      Step s { s with adapter := s.adapter.undergo o }

abbrev Steps : Service → Service → Prop := ReflTransGen Step

/-! ## Everything in turn -/

/-- A server as a service that has nothing in hand. -/
def ofServer (s : Server) (handled : List Server.Handled) : Service :=
  ⟨s.adapter, s.inbox, [], none, s.ended, .idle, s.told, s.outbox.messages.length,
    s.outbox.numbered, handled⟩

/-- The service behind a message that was numbered and written at once. -/
def wrote (s : Service) (o : Outgoing) : Service :=
  { s with drawn := s.drawn + 1, written := s.written ++ [(s.drawn + 1, o)] }

theorem ofServer_write (s : Server) (handled : List Server.Handled) (o : Outgoing) :
    ofServer { s with outbox := s.outbox.write o } handled = (ofServer s handled).wrote o := by
  simp [ofServer, wrote, Host.Outbox.numbered, Host.Outbox.write, List.mapIdx_append]

/-- What is due is written in one go. -/
theorem steps_replies (s : Server) (handled : List Server.Handled) (os : List Outgoing) :
    Steps { ofServer s handled with due := os }
      (ofServer { s with outbox := os.foldl Host.Outbox.write s.outbox } handled) := by
  induction os generalizing s with
  | nil => exact .refl
  | cons o rest ih =>
    have next := ih { s with outbox := s.outbox.write o }
    rw [ofServer_write] at next
    exact .head (.draw rfl rfl) (.head (.write rfl rfl) next)

/-- Events are relayed in one go. -/
theorem steps_events (s : Server) (handled : List Server.Handled) (es : List Event)
    (fresh : s.adapter.journal.events.drop s.told = es)
    (told : s.told ≤ s.adapter.journal.events.length) :
    Steps (ofServer s handled) (ofServer { s with
      outbox := (es.filter Server.forwarded).foldl (fun o e => o.write (.ofEvent e)) s.outbox
      told := s.adapter.journal.events.length } handled) := by
  induction es generalizing s with
  | nil =>
    have all : s.told = s.adapter.journal.events.length :=
      Nat.le_antisymm told (List.drop_eq_nil_iff.mp fresh)
    rw [← all]
    exact .refl
  | cons e rest ih =>
    have next : s.adapter.journal.events[s.told]? = some e := by
      rw [← List.head?_drop, fresh]
      rfl
    have less : s.told < s.adapter.journal.events.length := (List.getElem?_eq_some_iff.mp next).1
    have later : s.adapter.journal.events.drop (s.told + 1) = rest := by
      rw [← List.drop_drop, fresh]
      rfl
    have taken : Step (ofServer s handled)
        { ofServer s handled with told := s.told + 1, relay := relayOf e } := .take rfl next
    refine .head taken ?_
    rw [List.filter_cons]
    cases forwarded : Server.forwarded e with
    | false =>
      rw [relayOf, forwarded]
      exact ih { s with told := s.told + 1 } later less
    | true =>
      rw [relayOf, forwarded]
      have rest :=
        ih { s with told := s.told + 1, outbox := s.outbox.write (.ofEvent e) } later less
      rw [ofServer_write { s with told := s.told + 1 }] at rest
      exact .head (.drawEvent rfl) (.head (.writeEvent rfl) rest)

theorem steps_forward (s : Server) (handled : List Server.Handled)
    (told : s.told ≤ s.adapter.journal.events.length) :
    Steps (ofServer s handled) (ofServer s.forward handled) :=
  steps_events s handled _ rfl told

end Service

/-- The server when a request was answered, before events are relayed. -/
def Server.answering (s : Server) (m : RequestMessage) : Server :=
  let h : Handled := (m, (s.adapter.answer m).1)
  { s with
    adapter := (s.adapter.answer m).2
    outbox := h.replies.foldl Host.Outbox.write s.outbox
    ended := if h.isLast then some .served else none }

theorem Server.handle_eq (s : Server) (m : RequestMessage) (reads : s.ended = none) :
    s.handle m = (s.answering m).forward := by
  unfold handle answering
  cases s.adapter.answer m with
  | mk result adapter =>
    cases result with
    | error f =>
      simp [Handled.replies, Handled.isLast_eq, forward, reads, Except.isOk, Except.toBool]
    | ok body =>
      cases last : endsSession m.command <;> by_cases first : m.command = "initialize" <;>
        simp only [Handled.replies, Handled.isLast_eq, last] <;>
        simp [forward, reads, first, Except.isOk, Except.toBool]

theorem Adapter.events_answer (a : Adapter) (m : RequestMessage) :
    a.journal.events <+: (a.answer m).2.journal.events :=
  (a.movesOn_undergo (.stimulus (.request m))).journal.events

namespace Service

/-- A request is answered and all events are relayed behind it. -/
theorem steps_handle (s : Server) (handled : List Server.Handled) {m : RequestMessage}
    {before : Inbox} (reads : s.ended = none) (received : before.receive = (.request m, s.inbox))
    (told : s.told ≤ s.adapter.journal.events.length) :
    Steps (ofServer { s with inbox := before } handled)
      (ofServer (s.handle m) (handled ++ [(m, (s.adapter.answer m).1)])) := by
  let h : Server.Handled := (m, (s.adapter.answer m).1)
  let waiting : Server := { s.answering m with outbox := s.outbox }
  have answered : Step (ofServer { s with inbox := before } handled)
      { ofServer waiting (handled ++ [h]) with due := h.replies } :=
    .answer rfl reads received
  have replied : Steps { ofServer waiting (handled ++ [h]) with due := h.replies }
      (ofServer (s.answering m) (handled ++ [h])) :=
    steps_replies waiting (handled ++ [h]) h.replies
  have relayed : Steps (ofServer (s.answering m) (handled ++ [h]))
      (ofServer (s.answering m).forward (handled ++ [h])) :=
    steps_forward _ _ (Nat.le_trans told (s.adapter.events_answer m).length_le)
  rw [Server.handle_eq s m reads]
  exact .head answered (replied.trans relayed)

theorem told_handle (s : Server) (m : RequestMessage) (reads : s.ended = none) :
    (s.handle m).told ≤ (s.handle m).adapter.journal.events.length := by
  rw [Server.handle_eq s m reads]
  exact Nat.le_refl _

theorem steps_runFor (requests : Nat) (s : Server) (handled : List Server.Handled)
    (told : s.told ≤ s.adapter.journal.events.length) :
    (s.runFor requests).told ≤ (s.runFor requests).adapter.journal.events.length ∧
      ∃ handled', Steps (ofServer s handled) (ofServer (s.runFor requests) handled') := by
  induction requests generalizing s handled with
  | zero => exact ⟨told, handled, .refl⟩
  | succ requests ih =>
    unfold Server.runFor
    split
    case isTrue => exact ⟨told, handled, .refl⟩
    case isFalse unended =>
      have reads : s.ended = none := Option.not_isSome_iff_eq_none.mp unended
      split
      case h_1 m inbox received =>
        have now := steps_handle { s with inbox } handled reads received told
        obtain ⟨told', handled', later⟩ := ih ({ s with inbox }.handle m)
          (handled ++ [(m, (s.adapter.answer m).1)]) (told_handle { s with inbox } m reads)
        exact ⟨told', handled', now.trans later⟩
      case h_2 inbox received => exact ⟨told, handled, .single (.wait rfl reads received)⟩
      case h_3 inbox received => exact ⟨told, handled, .single (.close rfl reads received)⟩
      case h_4 fault inbox received => exact ⟨told, handled, .single (.fail rfl reads received)⟩

/-- A server that does everything in turn follows a schedule, which is complete when the server has
ended and the last events are relayed. -/
theorem steps_run (a : Adapter) (inbox : Inbox) :
    let s := (Server.ofAdapter a inbox).run
    ∃ handled, Steps (start a inbox) (ofServer s handled) ∧
      (s.ended.isSome →
        Steps (start a inbox) { ofServer s.forward handled with relay := .finished }) := by
  intro s
  obtain ⟨told, handled, steps⟩ := steps_runFor (inbox.pending.length + 1)
    (Server.ofAdapter a inbox) [] (Nat.zero_le _)
  have relayed := steps_forward s handled told
  refine ⟨handled, steps, fun ended => ?_⟩
  have finished : Step (ofServer s.forward handled)
      { ofServer s.forward handled with relay := .finished } := .finish rfl rfl ended rfl
  exact (steps.trans relayed).tail finished

end Service
end DebugBridge
