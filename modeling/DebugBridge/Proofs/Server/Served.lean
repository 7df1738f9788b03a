import DebugBridge.Proofs.Server.Order

/-!
# A server that is done

From every point of every schedule a server can deal with all that has come. When it has finished it
has answered every request that it read, and it has told every event that was published until then.
-/

namespace DebugBridge

open Host (Event Inbox Outgoing)

theorem Host.Outbox.map_snd_numbered (o : Host.Outbox) : o.numbered.map Prod.snd = o.messages :=
  List.ext_getElem (by simp [numbered]) (by simp [numbered])

namespace Service

/-! ## Until everything is done -/

/-- All requests that have come are answered, and more may come. -/
def Awaits (s : Service) : Prop :=
  s.ended = none ∧ s.due = [] ∧ s.inbox.receive.1 = .waiting

/-- What is due can be written. -/
theorem exists_steps_written (s : Service) :
    ∃ t, Steps s t ∧ t.due = [] ∧ t.inbox = s.inbox ∧ t.ended = s.ended := by
  obtain ⟨os, due⟩ : ∃ os, s.due = os := ⟨_, rfl⟩
  induction os generalizing s with
  | nil => exact ⟨s, .refl, due, rfl, rfl⟩
  | cons o rest ih =>
    cases number : s.number with
    | some n =>
      obtain ⟨t, steps, done⟩ := ih { s with
        due := rest, number := none, written := s.written ++ [(n, o)] } rfl
      exact ⟨t, .head (.write due number) steps, done⟩
    | none =>
      obtain ⟨t, steps, done⟩ := ih { s with
        due := rest, number := none, drawn := s.drawn + 1,
        written := s.written ++ [(s.drawn + 1, o)] } rfl
      exact ⟨t, .head (.draw due number) (.head (.write due rfl) steps), done⟩

/-- The requests that have come can be answered. -/
theorem exists_steps_answered (s : Service) :
    ∃ t, Steps s t ∧ (t.HasAnswered ∨ t.Awaits) := by
  -- every request takes a byte at least from those that wait
  obtain ⟨n, less⟩ : ∃ n, s.inbox.pending.length < n := ⟨_, Nat.lt_succ_self _⟩
  induction n generalizing s with
  | zero => cases less
  | succ n ih =>
    obtain ⟨t, steps, free, inbox, ended⟩ := exists_steps_written s
    cases reads : t.ended with
    | some e => exact ⟨t, steps, .inl ⟨by rw [reads]; rfl, free⟩⟩
    | none =>
      cases received : t.inbox.receive with
      | mk receipt rest =>
        cases receipt with
        | request m =>
          have fewer : rest.pending.length < n := by
            have := Inbox.pending_lt_of_receive received
            rw [inbox] at this
            omega
          obtain ⟨u, later, done⟩ := ih (t.answered m rest) fewer
          exact ⟨u, (steps.tail (.answer free reads received)).trans later, done⟩
        | closed => exact ⟨_, steps.tail (.close free reads received), .inl ⟨rfl, free⟩⟩
        | failed fault => exact ⟨_, steps.tail (.fail free reads received), .inl ⟨rfl, free⟩⟩
        | waiting => exact ⟨t, steps, .inr ⟨reads, free, by rw [received]⟩⟩

/-- The event in hand can be told. -/
theorem exists_steps_idle (s : Service) (unfinished : s.relay ≠ .finished) :
    ∃ t, Steps s t ∧ t.relay = .idle ∧ t.told = s.told ∧ t.adapter = s.adapter ∧
      (s.HasAnswered → t.HasAnswered) := by
  cases relay : s.relay with
  | idle => exact ⟨s, .refl, relay, rfl, rfl, id⟩
  | holding e number =>
    cases number with
    | some n => exact ⟨_, .single (.writeEvent relay), rfl, rfl, rfl, id⟩
    | none => exact ⟨_, .head (.drawEvent relay) (.single (.writeEvent rfl)), rfl, rfl, rfl, id⟩
  | finished => exact absurd relay unfinished

/-- When the requests are answered, the events can be told that are left. -/
theorem exists_steps_finished (s : Service) (answered : s.HasAnswered)
    (told : s.told ≤ s.adapter.journal.events.length) :
    ∃ t, Steps s t ∧ t.relay = .finished := by
  obtain ⟨n, left⟩ : ∃ n, s.told + n = s.adapter.journal.events.length :=
    ⟨_, Nat.add_sub_cancel' told⟩
  induction n generalizing s with
  | zero =>
    by_cases finished : s.relay = .finished
    · exact ⟨s, .refl, finished⟩
    · obtain ⟨t, steps, idle, same, adapter, keeps⟩ := exists_steps_idle s finished
      obtain ⟨ended, free⟩ := keeps answered
      exact ⟨_, steps.tail (.finish idle free ended (by rw [same, adapter]; exact left)), rfl⟩
  | succ n ih =>
    by_cases finished : s.relay = .finished
    · exact ⟨s, .refl, finished⟩
    · obtain ⟨t, steps, idle, same, adapter, keeps⟩ := exists_steps_idle s finished
      have more : t.told < t.adapter.journal.events.length := by
        rw [same, adapter]
        omega
      let u : Service :=
        { t with told := t.told + 1, relay := relayOf t.adapter.journal.events[t.told] }
      have taken : Step t u := .take idle (List.getElem?_eq_getElem more)
      have left' : t.told + 1 + n = t.adapter.journal.events.length := by
        rw [same, adapter]
        omega
      obtain ⟨v, later, done⟩ := ih u (keeps answered) more left'
      exact ⟨v, (steps.tail taken).trans later, done⟩

/-- Whatever was done so far, all that has come can be dealt with. -/
theorem exists_steps_done {first : Inbox} {s : Service} (h : s.Orderly first) :
    ∃ t, Steps s t ∧ (t.relay = .finished ∨ t.Awaits) := by
  obtain ⟨t, steps, answered | awaits⟩ := exists_steps_answered s
  · have told := (Steps.orderly steps h).news.told
    obtain ⟨u, later, finished⟩ := exists_steps_finished t answered told
    exact ⟨u, steps.trans later, .inl finished⟩
  · exact ⟨t, steps, .inr awaits⟩

/-! ## What was told in the end -/

theorem Step.events {s t : Service} (step : Step s t) :
    s.adapter.journal.events <+: t.adapter.journal.events := by
  cases step with
  | answer => exact s.adapter.events_answer _
  | undergo o alien => exact (s.adapter.movesOn_undergo o).journal.events
  | _ => exact List.prefix_rfl

/-- Once finished, a service has taken all events that were published before its requests were
answered. -/
theorem events_prefix_of_finished {first : Inbox} {t s : Service} (h : t.Orderly first)
    (unanswered : ¬ t.HasAnswered) (steps : Steps t s) :
    t.adapter.journal.events <+: s.adapter.journal.events ∧ (s.relay = .finished →
      t.adapter.journal.events <+: s.adapter.journal.events.take s.told) := by
  induction steps with
  | refl => exact ⟨List.prefix_rfl, fun finished => absurd (h.finished finished) unanswered⟩
  | @tail u v before step ih =>
    obtain ⟨grows, told⟩ := ih
    refine ⟨grows.trans step.events, fun finished => ?_⟩
    have still (finished : u.relay = .finished) (same : v.told = u.told) :
        t.adapter.journal.events <+: v.adapter.journal.events.take v.told := by
      rw [same, take_of_prefix step.events (Steps.orderly before h).news.told]
      exact told finished
    cases step with
    | @take e idle next =>
      dsimp only [relayOf] at finished
      split at finished <;> cases finished
    | drawEvent | writeEvent => cases finished
    | finish idle free ended all =>
      rw [all, List.take_length]
      exact grows
    | _ => exact still finished rfl

/-- A message announces that the adapter is ready when the message before it readies the host, and
only then. -/
theorem announces_iff {os : List Outgoing} (paired : Outgoing.Paired false os false) (i : Nat) :
    (∃ o ∈ os[i]?, o.announces) ↔ ∃ j, i = j + 1 ∧ ∃ o ∈ os[j]?, o.readies := by
  have same : (os.map Outgoing.announces ++ [false])[i]? = (false :: os.map Outgoing.readies)[i]? :=
    congrArg (·[i]?) (Eq.symm paired)
  have announced : (os.map Outgoing.announces ++ [false])[i]? = some true ↔
      ∃ o ∈ os[i]?, o.announces := by
    rw [List.getElem?_append, List.length_map]
    split
    case isTrue => simp
    case isFalse out =>
      rw [List.getElem?_eq_none (Nat.le_of_not_lt out), List.getElem?_singleton]
      split <;> simp
  have readied : (false :: os.map Outgoing.readies)[i]? = some true ↔
      ∃ j, i = j + 1 ∧ ∃ o ∈ os[j]?, o.readies := by
    cases i with
    | zero => simp
    | succ j => simp
  rw [← announced, same, readied]

theorem Numbers.perm {s : Service} (h : s.Numbers) (free : s.due = [])
    (finished : s.relay = .finished) :
    (s.written.map Prod.fst).Perm (List.range' 1 s.written.length) := by
  have undrawn : s.number = none := by
    by_contra drawn
    exact h.due (Option.isSome_iff_ne_none.mpr drawn) free
  have all := h.drawn
  rw [undrawn, finished, Relay.number?, Option.toList, List.append_nil, List.append_nil] at all
  have drawn : s.written.length = s.drawn := by
    simpa using all.length_eq
  rwa [drawn]

/-! ## Serving -/

/-- What holds of a service that was started on a stream and has finished. -/
structure Served (s first : Service) : Prop where
  /-- There is one response to each request that was read, in the order of the requests, with the
  request's number and command. -/
  responses : s.messages.filter Outgoing.isResponse =
    s.handled.map fun h => .response h.1.seq h.1.command h.2
  /-- That the adapter is ready is told directly behind each response to an `initialize` that
  succeeded, and nowhere else. -/
  announcements : ∀ i, (∃ o ∈ s.messages[i]?, o.announces) ↔
    ∃ j, i = j + 1 ∧ ∃ o ∈ s.messages[j]?, o.readies
  /-- Reading stopped at the first request that ended the session, or else at the end of the stream
  or where it cannot be read. -/
  reading : ∃ e, s.ended = some e ∧ Server.Stops first.inbox s.handled e
  /-- The events that were taken are told once and in order, except that the adapter is ready. -/
  news : s.messages.filter Outgoing.isNews =
    ((s.adapter.journal.events.take s.told).filter (· ≠ .initialized)).map .ofEvent
  /-- All events were taken that were published before the last request was answered. -/
  timely : ∀ t, Steps first t → Steps t s → ¬ t.HasAnswered →
    t.adapter.journal.events <+: s.adapter.journal.events.take s.told
  /-- The numbers count the messages from one. -/
  numbers : (s.written.map Prod.fst).Perm (List.range' 1 s.written.length)

/-- On every schedule, from every point of it, a service can deal with all that has come, and
whenever it has finished it has served the host. -/
theorem serves_every_schedule (surroundings : Adapter.Surroundings)
    (earlier : List Adapter.Occurrence) (inbox : Inbox) (s : Service)
    (steps : Steps (start (Adapter.course surroundings earlier) inbox) s) :
    (∃ t, Steps s t ∧ (t.relay = .finished ∨ t.Awaits)) ∧
      (s.relay = .finished → s.Served (start (Adapter.course surroundings earlier) inbox)) := by
  obtain ⟨sound, silent⟩ := Adapter.sound_silent_course surroundings earlier
  have first := orderly_start sound silent inbox
  have now := Steps.orderly steps first
  refine ⟨exists_steps_done now, fun finished => ?_⟩
  obtain ⟨ended, free⟩ := now.finished finished
  -- nothing is in hand any more, so what every schedule keeps is about all that was written
  have responses := now.responses.answered
  have news := now.news.written
  obtain ⟨left, paired, none⟩ := now.announced.paired
  rw [free, List.append_nil] at responses
  rw [finished, Relay.held, List.map_nil, List.append_nil] at news
  rw [free, Outgoing.paired_nil] at none
  subst none
  obtain ⟨e, because⟩ := Option.isSome_iff_exists.mp ended
  exact {
    responses
    announcements := announces_iff paired
    reading := ⟨e, because, now.reads.stops e because⟩
    news
    timely := fun t before after unanswered =>
      (events_prefix_of_finished (Steps.orderly before first) unanswered after).2 finished
    numbers := now.numbers.perm free finished }

/-- A server that does everything in turn and ends has served the host on one of the schedules, and
writes what is written there. -/
theorem exists_schedule_of_run (a : Adapter) (inbox : Inbox)
    (ended : (Server.ofAdapter a inbox).run.ended.isSome) :
    ∃ s, Steps (start a inbox) s ∧ s.relay = .finished ∧
      s.messages = (Server.ofAdapter a inbox).run.forward.outbox.messages := by
  obtain ⟨handled, -, complete⟩ := steps_run a inbox
  exact ⟨_, complete ended, rfl, Host.Outbox.map_snd_numbered _⟩

/-- A message from the host. -/
def request (body : String) : List UInt8 := Text.bytes (Host.framed body)

/-- A host that sets up a session and ends it. -/
def brief : Inbox :=
  .ofReads [.bytes (request "\x7b\"seq\":1,\"command\":\"initialize\"\x7d" ++
    request "\x7b\"seq\":2,\"command\":\"terminate\"\x7d")] .closed

/-- It gets two responses, behind the first that the adapter is ready, and the news that the session
has ended. -/
theorem serves_brief_host :
    let first := start (Adapter.course (Adapter.oneLink []) []) brief
    ∃ s, Steps first s ∧ s.relay = .finished ∧ s.Served first ∧
      s.messages.map Outgoing.isResponse = [true, false, true, false] ∧
      s.messages.map Outgoing.announces = [false, true, false, false] := by
  intro first
  obtain ⟨s, steps, finished, messages⟩ :=
    exists_schedule_of_run (Adapter.course (Adapter.oneLink []) []) brief (by decide +kernel)
  have served := (serves_every_schedule (Adapter.oneLink []) [] brief s steps).2 finished
  refine ⟨s, steps, finished, served, ?_, ?_⟩
  · rw [messages]
    decide +kernel
  · rw [messages]
    decide +kernel

end Service
end DebugBridge
