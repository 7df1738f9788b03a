import DebugBridge.Proofs.Gate.Queue

/-!
# Saves and the closes held for them

A window is being saved from the write of a save until its acknowledgement or the end of the
session. In this time, and at no other, its closes are held; the acknowledgement writes them.
-/

namespace DebugBridge

/-- Whether the command saves a window. -/
def Command.saves (win : Int64) : Command → Bool
  | .saveChanges s => s.win = win
  | _ => false

/-- Whether a deed is to write a save of the window. -/
def Deed.saves (win : Int64) : Deed → Bool
  | .sent c (.ok .written) => c.saves win
  | _ => false

/-- The close of a window that is held by a deed, if one is. -/
def Deed.holds (win : Int64) : Deed → List Command
  | .sent (.closeWindow r) (.ok .held) => if r.win = win then [.closeWindow r] else []
  | _ => []

/-- Whether a save of the window is over by what is heard, be it done or void. -/
def Notice.endsSave (win : Int64) : Notice → Bool
  | .saved w => w = win
  | .ended => true
  | .prompt _ | .error | .other => false

namespace Transcript

/-- A save of the window went out, and it is not over since. -/
def saving (win : Int64) : List Turn → Bool
  | [] => false
  | t :: earlier =>
    !t.notice.endsSave win && (t.wrote.any (Command.saves win) || saving win earlier)

/-- The closes of the window that were held since a save of it was last over, in the order sent. -/
def heldCloses (win : Int64) : List Turn → List Command
  | [] => []
  | t :: earlier =>
    if t.notice.endsSave win then [] else heldCloses win earlier ++ t.deed.holds win

end Transcript

open Transcript (Always saving heldCloses)

theorem Deed.holds_of_ne {outcome : Except Failure Sent} (h : outcome ≠ .ok .held) (win : Int64)
    (c : Command) : Deed.holds win (.sent c outcome) = [] := by
  unfold holds
  split
  · simp_all
  · rfl

namespace Command

theorem saves_eq_false {c : Command} (h : ∀ s, c ≠ .saveChanges s) (win : Int64) :
    c.saves win = false := by
  cases c with
  | saveChanges s => exact absurd rfl (h s)
  | _ => rfl

theorem saves_of_isGated {c : Command} (h : c.isGated) (win : Int64) : c.saves win = false :=
  saves_eq_false (fun s same => by subst same; cases h) win

end Command

namespace Gate
variable {g g' : Gate} {deed : Deed} {wrote failed : List Command} {win : Int64}

namespace Step

/-- Whatever goes out is gated, or has just been sent, or is a close whose save is acknowledged. -/
theorem mem_wrote (step : Step g deed wrote failed g') (gated : g.QueueGated) {c : Command}
    (hc : c ∈ wrote) :
    c.isGated ∨ deed = .sent c (.ok .written) ∨
      ∃ win, deed.notice = .saved win ∧ c = .close win := by
  cases step with
  | hold | refuse | wait | busy | fault | finish | idle => exact absurd hc List.not_mem_nil
  | save | pass =>
    rw [List.mem_singleton] at hc
    exact .inr (.inl (hc ▸ rfl))
  | drain =>
    rcases List.mem_append.mp hc with old | new
    · exact .inl (gated c old)
    · rw [List.mem_singleton] at new
      exact .inr (.inl (new ▸ rfl))
  | stop _ _ cut | stall _ _ cut => exact .inl (gated.front cut c hc)
  | ready => exact .inl (gated c hc)
  | release notice _ order =>
    obtain ⟨win, mem, rfl⟩ := List.mem_map.mp (order.subset hc)
    have same := of_decide_eq_true (List.mem_filter.mp mem).2
    exact .inr (.inr ⟨win, same ▸ notice, rfl⟩)

/-- A save goes out exactly when it is sent and written. -/
theorem any_saves (step : Step g deed wrote failed g') (gated : g.QueueGated) :
    wrote.any (Command.saves win) = deed.saves win := by
  have queued {l : List Command} (h : ∀ c ∈ l, c.isGated) : l.any (Command.saves win) = false :=
    List.any_eq_false.mpr fun c hc => by simp [Command.saves_of_isGated (h c hc) win]
  cases step with
  | hold | refuse | wait | busy | fault | finish | idle => rfl
  | save | pass => exact Bool.or_false _
  | drain =>
    rw [List.any_append, queued gated]
    exact Bool.or_false _
  | stop _ _ cut | stall _ _ cut => exact queued (gated.front cut)
  | ready => exact queued gated
  | release _ _ order =>
    refine List.any_eq_false.mpr fun c hc => ?_
    obtain ⟨w, -, rfl⟩ := List.mem_map.mp (order.subset hc)
    exact Bool.false_ne_true

/-- The close of a window is held exactly when a save of it is awaited. -/
theorem held_iff {outcome : Except Failure Sent}
    (step : Step g (.sent (.close win) outcome) wrote failed g') :
    outcome = .ok .held ↔ win ∈ g.saves := by
  cases step with
  | hold awaited => exact iff_of_true rfl awaited
  | pass _ _ free | refuse _ free => exact iff_of_false nofun (free win rfl)
  | wait gated | drain gated | stop gated => exact absurd rfl gated

/-- An urgent command that is written goes out alone. -/
theorem wrote_eq {c : Command} (step : Step g (.sent c (.ok .written)) wrote failed g')
    (urgent : c.isUrgent) : wrote = [c] := by
  cases step with
  | save | pass => rfl
  | drain gated => exact absurd urgent gated

theorem saves_nodup (step : Step g deed wrote failed g') (h : g.saves.Nodup) :
    g'.saves.Nodup := by
  cases step with
  | save w =>
    rw [w.saves, List.nodup_cons]
    exact ⟨fun mem => (h.mem_erase_iff.mp mem).1 rfl, h.erase _⟩
  | hold | wait | busy | fault | idle => exact h
  | pass _ _ _ w | refuse _ _ w | drain _ _ w | stop _ _ _ w | ready _ _ w | stall _ _ _ w =>
    exact w.saves ▸ h
  | release _ w => exact w.saves ▸ h.erase _
  | finish => exact List.nodup_nil

theorem mem_saves_iff (step : Step g deed wrote failed g') (h : g.saves.Nodup) :
    win ∈ g'.saves ↔
      deed.notice.endsSave win = false ∧ (deed.saves win ∨ win ∈ g.saves) := by
  cases step with
  | hold | wait => simp [Deed.notice, Notice.endsSave, Deed.saves]
  | @save s _ w =>
    by_cases same : s.win = win
    · simp [Deed.notice, Notice.endsSave, Deed.saves, Command.saves, same]
    · simp [Deed.notice, Notice.endsSave, Deed.saves, Command.saves, w.saves, h.mem_erase_iff, same,
        Ne.symm same]
  | pass _ other _ w =>
    simp [Deed.notice, Notice.endsSave, Deed.saves, Command.saves_eq_false other, w.saves]
  | drain gated _ w =>
    have now := Command.isGated_of_not_isUrgent gated
    simp [Deed.notice, Notice.endsSave, Deed.saves, Command.saves_of_isGated now, w.saves]
  | refuse _ _ w | stop _ _ _ w => simp [Deed.notice, Notice.endsSave, Deed.saves, w.saves]
  | busy notice | fault notice | idle notice =>
    simp [Deed.notice, notice, Notice.endsSave, Deed.saves]
  | ready notice _ w | stall notice _ _ w =>
    simp [Deed.notice, notice, Notice.endsSave, Deed.saves, w.saves]
  | release notice w =>
    simp [Deed.notice, notice, Notice.endsSave, Deed.saves, w.saves, h.mem_erase_iff, eq_comm]
  | finish notice => simp [Deed.notice, notice, Notice.endsSave]

/-- Closes are held only for windows whose save is awaited. -/
theorem held_subset (step : Step g deed wrote failed g') (h : ∀ w ∈ g.held, w ∈ g.saves) :
    ∀ w ∈ g'.held, w ∈ g'.saves := by
  cases step with
  | hold awaited =>
    intro w hw
    rcases List.mem_append.mp hw with old | new
    · exact h w old
    · rw [List.mem_singleton] at new
      exact new ▸ awaited
  | @save s _ w =>
    intro v hv
    by_cases same : v = s.win
    · exact same ▸ List.mem_cons_self
    · refine List.mem_cons_of_mem _ ((List.mem_erase_of_ne same).mpr ?_)
      rw [w.saves]
      exact h v (w.held ▸ hv)
  | wait | busy | fault | idle => exact h
  | pass _ _ _ w | refuse _ _ w | drain _ _ w | stop _ _ _ w | ready _ _ w | stall _ _ _ w =>
    simpa only [w.held, w.saves] using h
  | release _ w =>
    intro v hv
    rw [w.held, List.mem_filter, decide_eq_true_eq] at hv
    rw [w.saves]
    exact (List.mem_erase_of_ne hv.2).mpr (h v hv.1)
  | finish => exact fun _ hw => absurd hw List.not_mem_nil

/-- A deed adds the closes that it holds; the end of a save takes the closes of its window. -/
theorem held_eq (step : Step g deed wrote failed g') :
    (g'.held.filter (· = win)).map Command.close =
      if deed.notice.endsSave win then []
      else (g.held.filter (· = win)).map .close ++ deed.holds win := by
  cases step with
  | @hold w _ =>
    by_cases same : w = win <;> simp [Deed.notice, Notice.endsSave, Deed.holds, Command.close, same]
  | save w | pass _ _ _ w | drain _ _ w | refuse _ _ w | stop _ _ _ w =>
    simp [Deed.notice, Notice.endsSave, Deed.holds_of_ne, w.held]
  | wait => simp [Deed.notice, Notice.endsSave, Deed.holds_of_ne]
  | busy notice | fault notice | idle notice =>
    simp [Deed.notice, notice, Notice.endsSave, Deed.holds]
  | ready notice _ w | stall notice _ _ w =>
    simp [Deed.notice, notice, Notice.endsSave, w.held, Deed.holds]
  | @release _ v _ _ _ notice w =>
    by_cases same : v = win
    · simp [Deed.notice, notice, Notice.endsSave, w.held, same]
    · have kept : (g.held.filter (· ≠ v)).filter (· = win) = g.held.filter (· = win) := by
        rw [List.filter_filter]
        refine List.filter_congr fun u _ => ?_
        by_cases hu : u = win <;> simp [hu, Ne.symm same]
      rw [w.held, kept]
      simp [Deed.notice, notice, Notice.endsSave, Deed.holds, same]
  | finish notice => simp [Deed.notice, notice, Notice.endsSave]

/-- Only the acknowledgement of a save writes held closes. -/
theorem released (step : Step g deed wrote failed g') (h : deed.notice = .saved win) :
    wrote.Sublist ((g.held.filter (· = win)).map .close) ∧
      (wrote ++ failed).Perm ((g.held.filter (· = win)).map .close) := by
  cases step with
  | hold | save | pass | refuse | wait | drain | stop => cases h
  | busy notice | ready notice | stall notice | fault notice | finish notice | idle notice =>
    rw [Deed.notice, notice] at h
    cases h
  | release notice _ order all =>
    rw [Deed.notice, notice] at h
    cases h
    exact ⟨order, all⟩

end Step

namespace Run
variable {wire : Wire} {turns : List Turn}

theorem saves_nodup (run : Run wire turns g) : g.saves.Nodup := by
  induction run with
  | start => exact List.nodup_nil
  | turn _ step ih => exact step.saves_nodup ih

/-- The windows whose save is awaited are those being saved. -/
theorem mem_saves_iff (run : Run wire turns g) : win ∈ g.saves ↔ saving win turns := by
  induction run with
  | start => exact iff_of_false List.not_mem_nil Bool.false_ne_true
  | turn before step ih =>
    rw [step.mem_saves_iff before.saves_nodup, saving, step.any_saves before.queueGated, ih]
    simp [Turn.notice]

theorem held_subset (run : Run wire turns g) : ∀ w ∈ g.held, w ∈ g.saves := by
  induction run with
  | start => exact fun _ hw => absurd hw List.not_mem_nil
  | turn _ step ih => exact step.held_subset ih

theorem held_eq (run : Run wire turns g) :
    (g.held.filter (· = win)).map Command.close = heldCloses win turns := by
  induction run with
  | start => rfl
  | turn _ step ih => rw [step.held_eq, ih, heldCloses, Turn.notice]

/-- A window is not being saved when a close of it goes out. -/
theorem not_saving_of_close (run : Run wire turns g) (step : Step g deed wrote failed g')
    (hc : .close win ∈ wrote) : saving win (⟨deed, g.queue, wrote, failed⟩ :: turns) = false := by
  by_contra being
  rw [Bool.not_eq_false, ← (run.turn step).mem_saves_iff, step.mem_saves_iff run.saves_nodup]
    at being
  rcases step.mem_wrote run.queueGated hc with wait | sent | ⟨w, saved, same⟩
  · cases wait
  · subst sent
    have free : win ∉ g.saves := fun awaited => nomatch step.held_iff.mpr awaited
    simp [Deed.saves, Command.saves, Command.close, free] at being
  · cases same
    simp [saved, Notice.endsSave] at being

end Run
end Gate

namespace Transcript

/-- How a turn deals with closes, given the turns before it. -/
structure HoldsCloses (turn : Turn) (earlier : List Turn) : Prop where
  /-- A close that is sent is held exactly when its window is being saved. -/
  held_iff : ∀ win outcome, turn.deed = .sent (.close win) outcome →
    (outcome = .ok .held ↔ saving win earlier)
  /-- No close of a window goes out as long as the window is being saved. -/
  unwritten : ∀ win, saving win (turn :: earlier) → .close win ∉ turn.wrote
  /-- The acknowledgement of a save writes closes held for the window, each once at most and in
  order, and nothing else. -/
  released : ∀ win, turn.notice = .saved win → turn.wrote.Sublist (heldCloses win earlier)
  /-- If no write fails, it writes them all. -/
  released_all : ∀ win, turn.notice = .saved win → turn.failed = [] →
    turn.wrote = heldCloses win earlier
  /-- It leaves the closes of other windows as they are. -/
  kept : ∀ win other, turn.notice = .saved win → other ≠ win →
    heldCloses other (turn :: earlier) = heldCloses other earlier
  /-- Otherwise a close goes out only when it is sent, and then alone. -/
  elsewhere : ∀ win, .close win ∈ turn.wrote → turn.notice = .saved win ∨
    turn.deed = .sent (.close win) (.ok .written) ∧ turn.wrote = [.close win]
  /-- A save whose write fails starts nothing. -/
  refused : ∀ s f win, turn.deed = .sent (.saveChanges s) (.error f) →
    saving win (turn :: earlier) = saving win earlier

/-- Closes are held only for windows being saved, namely those that were sent since and are not
yet released, and every turn deals with closes accordingly. -/
theorem closes_held_while_saving (wire : Wire) (moves : List Move) :
    let t := run wire moves
    (∀ win ∈ t.gate.held, saving win t.turns) ∧
    (∀ win, (t.gate.held.filter (· = win)).map Command.close = heldCloses win t.turns) ∧
    Always HoldsCloses t.turns := by
  intro t
  have reached : Gate.Run wire t.turns t.gate := gate_run wire moves
  refine ⟨fun win hw => reached.mem_saves_iff.mp (reached.held_subset win hw),
    fun win => reached.held_eq, reached.always ?_⟩
  intro turns g deed wrote failed g' before step
  constructor
  case held_iff =>
    rintro win outcome rfl
    exact step.held_iff.trans before.mem_saves_iff
  case unwritten =>
    intro win being hc
    exact Bool.false_ne_true ((before.not_saving_of_close step hc).symm.trans being)
  case released =>
    intro win saved
    exact before.held_eq ▸ (step.released saved).1
  case released_all =>
    rintro win saved rfl
    rw [← before.held_eq]
    refine (step.released saved).1.eq_of_length ?_
    simpa using (step.released saved).2.length_eq
  case kept =>
    intro win other saved ne
    cases deed with
    | sent => cases saved
    | heard m => simp [heldCloses, saved, Notice.endsSave, Ne.symm ne, Deed.holds]
  case elsewhere =>
    intro win hc
    rcases step.mem_wrote before.queueGated hc with wait | sent | ⟨w, saved, same⟩
    · cases wait
    · exact .inr ⟨sent, (sent ▸ step).wrote_eq rfl⟩
    · cases same
      exact .inl saved
  case refused =>
    rintro s f win rfl
    simp [saving, Turn.notice, Deed.notice, Notice.endsSave, step.any_saves before.queueGated,
      Deed.saves]

end Transcript
end DebugBridge
