import DebugBridge.Link.Conversation
import DebugBridge.Proofs.Evaluation.Course

/-!
# The pace of an evaluation

While an evaluation waits, messages come in on one side and are taken on the other, at whatever
pace. The gate hears everything that comes in. The evaluation hears what finds room in its
subscription, and the result depends on the pace only through what does (`evaluateAlong_fst`). As
long as the evaluation keeps up, what comes in decides (`hearAll_incoming`).
-/

namespace DebugBridge

/-- The interpreter starts running code. -/
def busyPrompt : String := "[\"SetPromptType\",\x7b\"type\":0\x7d]"

/-- The interpreter is ready again. -/
def readyPrompt : String := "[\"SetPromptType\",\x7b\"type\":1\x7d]"

def printed (text : String) : String :=
  "[\"AppendSessionOutput\",\x7b\"result\":\"" ++ text ++ "\",\"type\":1\x7d]"

namespace Beat

/-- The message that comes in. -/
def message? : Beat → Option Message
  | arrive (.payload text) => some (.ofPayload text)
  | arrive .hangUp | take => none

/-- The messages that come in, in order. -/
def incoming (beats : List Beat) : List Message := beats.filterMap message?

/-- Whether the link ends. -/
def hungUp (beats : List Beat) : Bool := beats.contains (arrive .hangUp)

end Beat

/-- Hears messages, one after another. -/
def Gate.hearAll (g : Gate) (messages : List Message) : Gate := messages.foldl hear g

theorem Gate.hearAll_append (g : Gate) (a b : List Message) :
    g.hearAll (a ++ b) = (g.hearAll a).hearAll b := List.foldl_append

namespace Attendance

/-- The subscription of the evaluation. -/
def box? (w : Attendance) : Option Subscriber := w.conversation.feed.subscribers[w.number]?

/-- Whether a message that comes in now finds room in the subscription. -/
def receives (w : Attendance) : Bool :=
  w.box?.any fun s => s.attached && s.listening && !s.isFull

/-- Whether a message that comes in is lost to the evaluation. -/
def misses (w : Attendance) : Beat → Bool
  | .arrive (.payload _) => w.box?.any Subscriber.misses
  | .arrive .hangUp | .take => false

/-- No message is lost to the evaluation. -/
def keepsUp : List Beat → Attendance → Bool
  | [], _ => true
  | b :: rest, w => !w.misses b && keepsUp rest (w.beat b)

/-- The messages that come in, each with whether the evaluation receives it. -/
def deliveries : Attendance → List Beat → List Delivery
  | _, [] => []
  | w, b :: rest =>
    match b.message? with
    | some m => ⟨m, w.receives⟩ :: deliveries (w.beat b) rest
    | none => deliveries (w.beat b) rest

theorem messages_deliveries (w : Attendance) (beats : List Beat) :
    Delivery.messages (w.deliveries beats) = Beat.incoming beats := by
  induction beats generalizing w with
  | nil => rfl
  | cons b rest ih =>
    match b with
    | .arrive (.payload text) => exact congrArg (.ofPayload text :: ·) (ih _)
    | .arrive .hangUp => exact ih _
    | .take => exact ih _

theorem gate_take (w : Attendance) : w.take.conversation.gate = w.conversation.gate := by
  unfold take
  split
  case h_1 e m feed _ _ => cases e.hear m <;> rfl
  case h_2 => rfl
  case h_3 => rfl

/-- What comes in has the same effect on the gate at every pace. -/
theorem gate_foldl_beat (beats : List Beat) (w : Attendance) :
    (beats.foldl beat w).conversation.gate =
      w.conversation.gate.hearAll (Beat.incoming beats) := by
  induction beats generalizing w with
  | nil => rfl
  | cons b rest ih =>
    rw [List.foldl_cons, ih]
    match b with
    | .arrive (.payload _) => rfl
    | .arrive .hangUp => rfl
    | .take => exact congrArg (Gate.hearAll · _) w.gate_take

/-! ## What a wait comes to -/

/-- What the wait comes to if it takes what has come in and no more comes, and whether the feed
still offers messages to it. With a result the latter does not matter. -/
def ComesTo (w : Attendance) (p : Evaluation.Progress) (isOpen : Bool) : Prop :=
  match w.progress with
  | .done result => p = .done result
  | .waiting e => ∃ s, w.box? = some s ∧ s.listening ∧ s.attached = isOpen ∧ p = e.hearAll s.buffer

variable {w : Attendance} {p : Evaluation.Progress} {isOpen : Bool}

theorem ComesTo.take (h : w.ComesTo p isOpen) : w.take.ComesTo p isOpen := by
  unfold ComesTo at h
  split at h
  case h_1 result progress =>
    simp only [Attendance.take, progress, ComesTo, h]
  case h_2 e progress =>
    obtain ⟨s, box, listening, attached, rfl⟩ := h
    rw [box?] at box
    cases left : s.buffer with
    | nil =>
      simp only [Attendance.take, progress, Feed.next?, box, left, ComesTo]
      exact ⟨s, box, listening, attached, by rw [left]⟩
    | cons m rest =>
      simp only [Attendance.take, progress, Feed.next?, box, left]
      rw [Evaluation.hearAll_cons]
      cases e.hear m with
      | done result => rfl
      | waiting e' =>
        refine ⟨{ s with buffer := rest }, ?_, listening, attached, rfl⟩
        obtain ⟨bound, -⟩ := List.getElem?_eq_some_iff.mp box
        exact List.getElem?_set_self bound

theorem ComesTo.hangUp (h : w.ComesTo p isOpen) :
    (w.beat (.arrive .hangUp)).ComesTo p false := by
  unfold ComesTo at h
  split at h
  case h_1 result progress =>
    simp only [beat, ComesTo, progress, h]
  case h_2 e progress =>
    obtain ⟨s, box, listening, -, rfl⟩ := h
    rw [box?] at box
    simp only [beat, ComesTo, progress]
    refine ⟨{ s with attached := false }, ?_, listening, rfl, rfl⟩
    rw [box?, Conversation.arrive, Feed.close, List.getElem?_map, box]
    rfl

/-- A message that is received is heard after those that have come in before it. -/
theorem ComesTo.payload (h : w.ComesTo p isOpen) (text : String) :
    (w.beat (.arrive (.payload text))).ComesTo
      (if w.receives then p.hearAll [.ofPayload text] else p) isOpen := by
  unfold ComesTo at h
  split at h
  case h_1 result progress =>
    simp only [beat, ComesTo, progress, h]
    split <;> rfl
  case h_2 e progress =>
    obtain ⟨s, box, listening, rfl, rfl⟩ := h
    simp only [receives, box, Option.any_some, listening, Bool.and_true]
    rw [box?] at box
    simp only [beat, ComesTo, progress]
    refine ⟨s.offer (.ofPayload text), ?_, ?_⟩
    · rw [box?, Conversation.arrive, Conversation.dispatch, Feed.publish, List.getElem?_map, box]
      rfl
    · cases attached : s.attached <;> cases full : s.isFull <;>
        simp [Subscriber.offer, attached, full, listening, Evaluation.hearAll_append]

theorem ComesTo.foldl_beat (h : w.ComesTo p isOpen) (beats : List Beat) :
    (beats.foldl beat w).ComesTo (p.hearAll (Delivery.heard (w.deliveries beats)))
      (isOpen && !Beat.hungUp beats) := by
  induction beats generalizing w p isOpen with
  | nil =>
    rw [deliveries, Delivery.heard_nil, Evaluation.Progress.hearAll_nil]
    simpa [Beat.hungUp] using h
  | cons b rest ih =>
    rw [List.foldl_cons]
    match b with
    | .arrive (.payload text) =>
      have next := ih (h.payload text)
      rw [deliveries, Beat.message?, Delivery.heard_cons]
      by_cases received : w.receives
      · -- What is heard so far and what is heard from here on make one list.
        rw [if_pos received, ← Evaluation.Progress.hearAll_append] at next
        rw [if_pos received]
        exact next
      · rw [if_neg received] at next ⊢
        exact next
    | .arrive .hangUp =>
      have next := ih h.hangUp
      simpa [deliveries, Beat.message?, Beat.hungUp] using next
    | .take => exact ih h.take

theorem ComesTo.finish (h : w.ComesTo p isOpen) (patience : Nat) :
    (w.finish patience).1 = p.result patience isOpen := by
  unfold ComesTo at h
  split at h
  case h_1 result progress =>
    simp only [Attendance.finish, progress, h]
    rfl
  case h_2 e progress =>
    obtain ⟨s, box, -, rfl, rfl⟩ := h
    rw [box?] at box
    simp only [Attendance.finish, progress, Feed.take, box, Evaluation.Progress.hearAll,
      Bool.not_not]

/-- A wait that is cut off from the feed hears no more than what has come in. -/
theorem ComesTo.hearAll_closed (h : w.ComesTo p false) (beats : List Beat) :
    p.hearAll (Delivery.heard (w.deliveries beats)) = p := by
  induction beats generalizing w p with
  | nil => exact p.hearAll_nil
  | cons b rest ih =>
    match b with
    | .arrive (.payload text) =>
      rw [deliveries, Beat.message?, Delivery.heard_cons]
      have next := h.payload text
      by_cases received : w.receives
      · rw [if_pos received] at next ⊢
        -- Only a wait that has its result receives anything here.
        obtain ⟨result, rfl⟩ : ∃ result, p = .done result := by
          unfold ComesTo at h
          split at h
          case h_1 result progress => exact ⟨result, h⟩
          case h_2 e progress =>
            obtain ⟨s, box, -, closed, -⟩ := h
            simp [receives, box, closed] at received
        rfl
      · rw [if_neg received] at next ⊢
        exact ih next
    | .arrive .hangUp => exact ih h.hangUp
    | .take => exact ih h.take

/-- What decides the wait of an evaluation that keeps up is the messages that come in. -/
theorem ComesTo.hearAll_incoming {beats : List Beat} {result : Except Failure String}
    (h : w.ComesTo p isOpen) (kept : w.keepsUp beats)
    (done : p.hearAll (Delivery.heard (w.deliveries beats)) = .done result) :
    p.hearAll (Beat.incoming beats) = .done result := by
  induction beats generalizing w p isOpen with
  | nil => exact done
  | cons b rest ih =>
    rw [keepsUp, Bool.and_eq_true, Bool.not_eq_true'] at kept
    obtain ⟨now, later⟩ := kept
    match b with
    | .arrive .hangUp => exact ih h.hangUp later done
    | .take => exact ih h.take later done
    | .arrive (.payload text) =>
      rw [deliveries, Beat.message?, Delivery.heard_cons] at done
      have next := h.payload text
      change p.hearAll ([.ofPayload text] ++ Beat.incoming rest) = .done result
      rw [Evaluation.Progress.hearAll_append]
      by_cases received : w.receives
      · rw [if_pos received] at next done
        refine ih next later ?_
        rwa [← Evaluation.Progress.hearAll_append]
      · rw [if_neg received] at next done
        -- Nothing is lost, so the wait has its result or is cut off; both ways it hears no more.
        have decided : p = .done result := by
          unfold ComesTo at h
          split at h
          case h_1 earlier progress =>
            rw [h] at done ⊢
            exact done
          case h_2 e progress =>
            obtain ⟨s, box, listening, closed, heard⟩ := h
            simp only [misses, receives, box, Option.any_some, Subscriber.misses, listening,
              Bool.and_true] at now received
            have cutOff : isOpen = false := by
              rw [← closed]
              cases attached : s.attached <;> simp_all
            rw [cutOff] at next
            rwa [next.hearAll_closed] at done
        rw [decided]
        rfl

end Attendance

namespace Conversation
variable {c : Conversation} {text out : String} {patience : Nat} {beats : List Beat}

theorem attend_comesTo (c : Conversation) (text : String) :
    (c.attend text).2.ComesTo (.waiting .start) true := by
  refine ⟨.ofCapacity Evaluation.capacity, ?_, rfl, rfl, rfl⟩
  simp [attend, Attendance.box?, Feed.subscribe, send]

/-- The result of an evaluation is what the messages that it receives come to. -/
theorem evaluateAlong_fst (c : Conversation) (text : String) (patience : Nat)
    (beats : List Beat) :
    (c.evaluateAlong text patience beats).1 =
      match (c.attend text).1 with
      | .error f => .error (.within "sending execute" f)
      | .ok _ =>
        (Evaluation.start.hearAll (Delivery.heard ((c.attend text).2.deliveries beats))).result
          patience (!Beat.hungUp beats) := by
  have comes := ((c.attend_comesTo text).foldl_beat beats).finish patience
  unfold evaluateAlong
  generalize c.attend text = attended at comes
  obtain ⟨f | s, w⟩ := attended
  · rfl
  · exact comes

/-- The gate hears everything that comes in. -/
theorem gate_evaluateAlong (c : Conversation) (text : String) (patience : Nat)
    (beats : List Beat) :
    (c.evaluateAlong text patience beats).2.gate =
      (c.gate.send (Evaluation.command text)).2.hearAll (Beat.incoming beats) := by
  have sent : (c.attend text).2.conversation.gate = (c.gate.send (Evaluation.command text)).2 := rfl
  unfold evaluateAlong
  rw [← sent]
  generalize c.attend text = attended
  obtain ⟨f | s, w⟩ := attended
  · exact Attendance.gate_foldl_beat beats w.leave
  · exact Attendance.gate_foldl_beat beats w

/-- With a result the line of code was accepted, and what the wait received is what gives it. -/
theorem hearAll_of_result (h : (c.evaluateAlong text patience beats).1 = .ok out) :
    (∃ s, (c.attend text).1 = .ok s) ∧
      Evaluation.start.hearAll (Delivery.heard ((c.attend text).2.deliveries beats)) =
        .done (.ok out) := by
  rw [evaluateAlong_fst] at h
  cases sent : (c.attend text).1 with
  | error f =>
    rw [sent] at h
    cases h
  | ok s =>
    rw [sent] at h
    refine ⟨⟨s, rfl⟩, ?_⟩
    dsimp only at h
    cases came : Evaluation.start.hearAll
        (Delivery.heard ((c.attend text).2.deliveries beats)) with
    | waiting e =>
      rw [came] at h
      cases h
    | done result =>
      rw [came] at h
      exact congrArg _ h

/-- With a result the wait has run through a course. -/
theorem exists_course (h : (c.evaluateAlong text patience beats).1 = .ok out) :
    (∃ s, (c.attend text).1 = .ok s) ∧
      ∃ course : Course, course.deliveries = (c.attend text).2.deliveries beats ∧ course.Runs ∧
        out = Message.outputs (Delivery.heard course.early) := by
  obtain ⟨accepted, came⟩ := hearAll_of_result h
  exact ⟨accepted, Course.hearAll_eq_done_iff.mp came⟩

/-- Where the evaluation keeps up, a result is what the messages that come in give. -/
theorem hearAll_incoming (kept : (c.attend text).2.keepsUp beats)
    (h : (c.evaluateAlong text patience beats).1 = .ok out) :
    Evaluation.start.hearAll (Beat.incoming beats) = .done (.ok out) :=
  (c.attend_comesTo text).hearAll_incoming kept (hearAll_of_result h).2

end Conversation
end DebugBridge
