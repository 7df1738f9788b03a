import DebugBridge.Link.Gate

/-!
# What one step of the gate can do

A write goes out or fails. Either way it touches nothing but the link and the two records, of what
was written and of what failed. `Step` lists what sending a command and hearing a message can do
on top of that, with the commands that went out and those whose write failed. The theory of whole
conversations rests on `step_send` and `step_hear` and does not open the gate again.
-/

namespace DebugBridge

/-- What a message says about the state of the interpreter. -/
inductive Notice where
  /-- A prompt is reported. -/
  | prompt (prompt : Int64)
  /-- A save of a window is acknowledged, be it that it failed. -/
  | saved (win : Int64)
  /-- The code that was run had an error. -/
  | error
  /-- The session is at its end. -/
  | ended
  /-- Nothing that the gate heeds. -/
  | other
  deriving DecidableEq

def Message.notice : Message → Notice
  | .command (.setPromptType p) => .prompt p.prompt
  | .command (.replySaveChanges r) => .saved r.win
  | .command (.hadError _) => .error
  | .command (.disconnect _) | .command (.sysError _) | .command (.internalError _) => .ended
  | _ => .other

/-- The command that closes a window. -/
def Command.close (win : Int64) : Command := .closeWindow ⟨win⟩

/-- What is done in one turn of a conversation. -/
inductive Deed where
  /-- A command is sent, and this becomes of it. -/
  | sent (c : Command) (outcome : Except Failure Sent)
  /-- A message comes in. -/
  | heard (m : Message)

/-- What is heard by a deed. By sending nothing is heard. -/
def Deed.notice : Deed → Notice
  | .sent .. => .other
  | .heard m => m.notice

theorem Wire.sent_of_send_ok {w w' : Wire} {payload : String}
    (h : w.send payload = (.ok (), w')) : w'.outlet.sent = w.outlet.sent ++ [payload] := by
  simp only [Wire.send, Outlet.send, Prod.mk.injEq] at h
  obtain ⟨ho, rfl⟩ := h
  split at ho
  · cases ho
  · split at ho
    · simp_all
    · cases ho

theorem Wire.sent_of_send_error {w w' : Wire} {payload : String} {f : LinkFault}
    (h : w.send payload = (.error f, w')) : w'.outlet.sent = w.outlet.sent := by
  simp only [Wire.send, Outlet.send, Prod.mk.injEq] at h
  obtain ⟨ho, rfl⟩ := h
  split at ho
  · simp_all
  · split at ho
    · cases ho
    · simp_all

namespace Gate

/-- Writes lead from one gate to another: some commands went out and some failed, each in order. -/
structure Writes (g : Gate) (wrote failed : List Command) (g' : Gate) : Prop where
  prompt : g'.prompt = g.prompt
  queue : g'.queue = g.queue
  saves : g'.saves = g.saves
  held : g'.held = g.held
  written : g'.written = g.written ++ wrote
  failed : g'.failed = g.failed ++ failed
  sent : g'.wire.outlet.sent = g.wire.outlet.sent ++ wrote.map Command.payload

namespace Writes
variable {g g' g'' : Gate} {a b x y : List Command}

theorem none (g : Gate) : Writes g [] [] g := by constructor <;> simp

theorem trans (h : Writes g a x g') (h' : Writes g' b y g'') :
    Writes g (a ++ b) (x ++ y) g'' where
  prompt := h'.prompt.trans h.prompt
  queue := h'.queue.trans h.queue
  saves := h'.saves.trans h.saves
  held := h'.held.trans h.held
  written := by rw [h'.written, h.written, List.append_assoc]
  failed := by rw [h'.failed, h.failed, List.append_assoc]
  sent := by rw [h'.sent, h.sent, List.map_append, List.append_assoc]

/-- Writes do not look at the queue. -/
theorem ofQueue {queue : List Command} (h : Writes { g with queue } a x g') :
    Writes g a x { g' with queue := g.queue } :=
  ⟨h.prompt, rfl, h.saves, h.held, h.written, h.failed, h.sent⟩

end Writes

/-- A write goes out or fails. -/
theorem write_cases (g : Gate) (c : Command) :
    (∃ g', g.write c = (.ok (), g') ∧ Writes g [c] [] g') ∨
    (∃ f g', g.write c = (.error f, g') ∧ Writes g [] [c] g') := by
  rcases h : g.wire.send c.payload with ⟨_ | _, wire⟩
  · refine .inr ⟨_, _, by rw [write, h], ?_⟩
    constructor <;> simp [Wire.sent_of_send_error h]
  · refine .inl ⟨_, by rw [write, h], ?_⟩
    constructor <;> simp [Wire.sent_of_send_ok h]

/-- A replay writes the whole list, or stops at a command whose write fails and keeps it with all
behind it. -/
theorem replay_cases (l : List Command) (g : Gate) :
    (∃ g', replay l g = (.ok (), { g' with queue := [] }) ∧ Writes g l [] g') ∨
    (∃ f done c rest g', replay l g = (.error f, { g' with queue := c :: rest }) ∧
      l = done ++ c :: rest ∧ Writes g done [c] g') := by
  induction l generalizing g with
  | nil => exact .inl ⟨g, rfl, .none g⟩
  | cons c rest ih =>
    rcases write_cases g c with ⟨g₁, hw, w₁⟩ | ⟨f, g₁, hw, w₁⟩
    · rcases ih g₁ with ⟨g₂, hr, w₂⟩ | ⟨f, done, x, left, g₂, hr, hl, w₂⟩
      · exact .inl ⟨g₂, by simp only [replay, hw, hr], w₁.trans w₂⟩
      · refine .inr ⟨f, c :: done, x, left, g₂, by simp only [replay, hw, hr], ?_, w₁.trans w₂⟩
        rw [hl, List.cons_append]
    · exact .inr ⟨_, [], c, rest, g₁, by rw [replay, hw], rfl, w₁⟩

/-- Of the closes of a list each goes out or fails, in order. -/
theorem writeCloses_writes (g : Gate) (wins : List Int64) :
    ∃ wrote failed, Writes g wrote failed (writeCloses g wins) ∧
      wrote.Sublist (wins.map .close) ∧ (wrote ++ failed).Perm (wins.map .close) := by
  induction wins generalizing g with
  | nil => exact ⟨[], [], .none g, .refl _, .refl _⟩
  | cons win rest ih =>
    have next : writeCloses g (win :: rest) = writeCloses (g.write (.close win)).2 rest := rfl
    rw [next]
    rcases write_cases g (.close win) with ⟨g₁, hw, w₁⟩ | ⟨f, g₁, hw, w₁⟩
    · obtain ⟨wrote, failed, w₂, sub, perm⟩ := ih g₁
      rw [hw]
      exact ⟨.close win :: wrote, failed, w₁.trans w₂, sub.cons_cons _, perm.cons _⟩
    · obtain ⟨wrote, failed, w₂, sub, perm⟩ := ih g₁
      rw [hw]
      refine ⟨wrote, .close win :: failed, w₁.trans w₂, sub.cons _, ?_⟩
      exact List.perm_middle.trans (perm.cons _)

/-- What a deed can do to a gate, with the commands that went out and those whose write failed. -/
inductive Step (g : Gate) : Deed → List Command → List Command → Gate → Prop
  /-- The close of a window whose save is not acknowledged is held. -/
  | hold {win} (awaited : win ∈ g.saves) :
      Step g (.sent (.close win) (.ok .held)) [] [] { g with held := g.held ++ [win] }
  /-- A save goes out and is awaited from now on. -/
  | save {s g'} (w : Writes g [.saveChanges s] [] g') :
      Step g (.sent (.saveChanges s) (.ok .written)) [.saveChanges s] []
        { g' with saves := s.win :: g'.saves.erase s.win }
  /-- Any other urgent command goes out. -/
  | pass {c g'} (urgent : c.isUrgent) (other : ∀ s, c ≠ .saveChanges s)
      (free : ∀ win, c = .close win → win ∉ g.saves) (w : Writes g [c] [] g') :
      Step g (.sent c (.ok .written)) [c] [] g'
  /-- The write of an urgent command fails. -/
  | refuse {c f g'} (urgent : c.isUrgent) (free : ∀ win, c = .close win → win ∉ g.saves)
      (w : Writes g [] [c] g') : Step g (.sent c (.error f)) [] [c] g'
  /-- While the interpreter is busy, any other command is queued. -/
  | wait {c} (gated : ¬ c.isUrgent) (busy : g.isBusy) :
      Step g (.sent c (.ok .queued)) [] [] { g with queue := g.queue ++ [c] }
  /-- While it is ready, the command goes out behind all that is queued. -/
  | drain {c g'} (gated : ¬ c.isUrgent) (ready : ¬ g.isBusy)
      (w : Writes g (g.queue ++ [c]) [] g') :
      Step g (.sent c (.ok .written)) (g.queue ++ [c]) [] { g' with queue := [] }
  /-- One of these writes fails: the queue loses what went out, and the command is not taken. -/
  | stop {c f wrote x left g'} (gated : ¬ c.isUrgent) (ready : ¬ g.isBusy)
      (cut : g.queue = wrote ++ left) (w : Writes g wrote [x] g') :
      Step g (.sent c (.error f)) wrote [x] { g' with queue := left }
  /-- A busy prompt is noted. -/
  | busy {m p} (notice : m.notice = .prompt p) (busy : Command.isBusyPrompt p) :
      Step g (.heard m) [] [] { g with prompt := some p }
  /-- At a ready prompt the queue goes out. -/
  | ready {m p g'} (notice : m.notice = .prompt p) (ready : ¬ Command.isBusyPrompt p)
      (w : Writes { g with prompt := some p } g.queue [] g') :
      Step g (.heard m) g.queue [] { g' with queue := [] }
  /-- One of these writes fails: the command stays queued with all behind it. -/
  | stall {m p wrote x left g'} (notice : m.notice = .prompt p)
      (ready : ¬ Command.isBusyPrompt p) (cut : g.queue = wrote ++ x :: left)
      (w : Writes { g with prompt := some p } wrote [x] g') :
      Step g (.heard m) wrote [x] { g' with queue := x :: left }
  /-- The acknowledgement of a save releases the closes of its window. -/
  | release {m win wrote failed g'} (notice : m.notice = .saved win)
      (w : Writes { g with saves := g.saves.erase win, held := g.held.filter (· ≠ win) }
        wrote failed g')
      (order : wrote.Sublist ((g.held.filter (· = win)).map .close))
      (all : (wrote ++ failed).Perm ((g.held.filter (· = win)).map .close)) :
      Step g (.heard m) wrote failed g'
  /-- An error makes the queued code void. -/
  | fault {m} (notice : m.notice = .error) :
      Step g (.heard m) [] [] { g with queue := g.queue.filter (!·.runsCode) }
  /-- The end of the session makes all void. -/
  | finish {m} (notice : m.notice = .ended) :
      Step g (.heard m) [] [] { g with queue := [], saves := [], held := [] }
  /-- Nothing else is heeded. -/
  | idle {m} (notice : m.notice = .other) : Step g (.heard m) [] [] g

theorem step_writeNow {g : Gate} {c : Command} (urgent : c.isUrgent)
    (other : ∀ s, c ≠ .saveChanges s) (free : ∀ win, c = .close win → win ∉ g.saves) :
    ∃ wrote failed, Step g (.sent c (g.writeNow c).1) wrote failed (g.writeNow c).2 := by
  rcases write_cases g c with ⟨g', hw, w⟩ | ⟨f, g', hw, w⟩
  · rw [writeNow, hw]
    exact ⟨_, _, .pass urgent other free w⟩
  · rw [writeNow, hw]
    exact ⟨_, _, .refuse urgent free w⟩

theorem step_sendGated {g : Gate} {c : Command} (gated : ¬ c.isUrgent) :
    ∃ wrote failed, Step g (.sent c (g.sendGated c).1) wrote failed (g.sendGated c).2 := by
  by_cases busy : g.isBusy
  · rw [sendGated, if_pos busy]
    exact ⟨_, _, .wait gated busy⟩
  rw [sendGated, if_neg busy]
  by_cases vacant : g.queue.isEmpty
  · have none : g.queue = [] := List.isEmpty_iff.mp vacant
    rw [if_pos vacant]
    rcases write_cases g c with ⟨g', hw, w⟩ | ⟨f, g', hw, w⟩
    · have same : g' = { g' with queue := [] } := by rw [← none, ← w.queue]
      rw [writeNow, hw, same]
      exact ⟨_, _, .drain gated busy (by simpa [none] using w)⟩
    · have same : g' = { g' with queue := [] } := by rw [← none, ← w.queue]
      rw [writeNow, hw, same]
      exact ⟨_, _, .stop gated busy (by simp [none]) w⟩
  · rw [if_neg vacant]
    rcases replay_cases (g.queue ++ [c]) { g with queue := g.queue ++ [c] } with
      ⟨g', hr, w⟩ | ⟨f, wrote, x, rest, g', hr, hl, w⟩
    · have step := Step.drain gated busy w.ofQueue
      rw [flush, hr]
      exact ⟨_, _, step⟩
    · have cut : g.queue = wrote ++ (x :: rest).dropLast := by
        rw [← List.dropLast_append_of_ne_nil (List.cons_ne_nil x rest), ← hl,
          List.dropLast_concat]
      have step := Step.stop (f := f) gated busy cut w.ofQueue
      rw [flush, hr]
      exact ⟨_, _, step⟩

/-- Sending a command is a step. -/
theorem step_send (g : Gate) (c : Command) :
    ∃ wrote failed, Step g (.sent c (g.send c).1) wrote failed (g.send c).2 := by
  unfold send
  split
  case h_1 r =>
    by_cases awaited : r.win ∈ g.saves
    · rw [if_pos (by simpa using awaited)]
      exact ⟨_, _, .hold awaited⟩
    · rw [if_neg (by simpa using awaited)]
      refine step_writeNow rfl (by simp) ?_
      rintro win ⟨⟩
      exact awaited
  case h_2 s =>
    rcases write_cases g (.saveChanges s) with ⟨g', hw, w⟩ | ⟨f, g', hw, w⟩
    · rw [hw]
      exact ⟨_, _, .save w⟩
    · rw [hw]
      exact ⟨_, _, .refuse rfl (by simp [Command.close]) w⟩
  case h_3 notClose notSave =>
    by_cases urgent : c.isUrgent
    · rw [if_pos urgent]
      exact step_writeNow urgent notSave (fun win h => absurd h (notClose _))
    · rw [if_neg urgent]
      exact step_sendGated urgent

/-- Hearing a message is a step. -/
theorem step_hear (g : Gate) (m : Message) :
    ∃ wrote failed, Step g (.heard m) wrote failed (g.hear m) := by
  cases m with
  | raw text => exact ⟨_, _, .idle rfl⟩
  | command c =>
    change ∃ wrote failed, Step g (.heard (.command c)) wrote failed (g.observe c)
    unfold observe
    split
    case h_1 p =>
      by_cases busy : Command.isBusyPrompt p.prompt
      · rw [if_pos (by simpa [isBusy] using busy)]
        exact ⟨_, _, .busy rfl busy⟩
      · rw [if_neg (by simpa [isBusy] using busy)]
        rcases replay_cases g.queue { g with prompt := some p.prompt } with
          ⟨g', hr, w⟩ | ⟨f, wrote, x, rest, g', hr, hl, w⟩
        · rw [flush, hr]
          exact ⟨_, _, .ready rfl busy w⟩
        · rw [flush, hr]
          exact ⟨_, _, .stall rfl busy hl w⟩
    case h_2 r =>
      obtain ⟨wrote, failed, w, order, all⟩ := writeCloses_writes
        { g with saves := g.saves.erase r.win, held := g.held.filter (· ≠ r.win) }
        (g.held.filter (· = r.win))
      exact ⟨_, _, .release rfl w order all⟩
    case h_3 => exact ⟨_, _, .fault rfl⟩
    case h_4 => exact ⟨_, _, .finish rfl⟩
    case h_5 => exact ⟨_, _, .finish rfl⟩
    case h_6 => exact ⟨_, _, .finish rfl⟩
    case h_7 =>
      refine ⟨_, _, .idle ?_⟩
      unfold Message.notice
      split <;> simp_all

end Gate
end DebugBridge
