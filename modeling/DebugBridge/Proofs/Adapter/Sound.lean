import DebugBridge.Adapter.Requests
import DebugBridge.Proofs.Desktop.History
import Mathlib.Data.List.Count

/-!
# Sound adapters

An adapter is sound if it has a link exactly while its session runs, and has not told the host that
the session ended before it did, nor told it twice. Whatever the adapter does with its link keeps
it sound, and the session stays in its state or ends.
-/

namespace DebugBridge

/-- A message that ends the session tells the host so once, and no other message does. -/
theorem Desktop.count_terminated_hear (d : Desktop) (m : Message) :
    (d.hear m).2.events.count .terminated = if (d.hear m).2.fatal then 1 else 0 := by
  cases m with
  | raw => rfl
  | command c =>
    cases c with
    | openWindow w =>
      have appeared : (d.appear w).2.events.count .terminated = 0 ∧
          (d.appear w).2.fatal = false := by
        unfold appear
        split <;> exact ⟨rfl, rfl⟩
      have opened : (d.openWindow w).2.fatal = (d.appear w).2.fatal := by
        rw [openWindow_eq]
        split <;> rfl
      simp [hear, hearCommand, events_openWindow, opened, appeared]
    | appendSessionOutput o =>
      simp only [hear, hearCommand]
      split <;> rfl
    | _ => rfl

/-- How the state of a session can change in one go. -/
inductive Lifecycle.Advances : Lifecycle → Lifecycle → Prop
  | stay (state : Lifecycle) : Advances state state
  | setUp : Advances created initialized
  | start (mode : RunMode) : Advances initialized (running mode)
  | stop (state : Lifecycle) : Advances state terminated

namespace Adapter

/-- How often the host was told that the session ended. -/
def ends (a : Adapter) : Nat := a.journal.events.count .terminated

structure Sound (a : Adapter) : Prop where
  linked : a.link.isSome = a.lifecycle.isRunning
  ended : a.ends ≤ if a.lifecycle = .terminated then 1 else 0

/-- The session and all that is known of the interpreter stay as they are, and the host is told
nothing. -/
structure Stays (a b : Adapter) : Prop where
  link : b.link.isSome = a.link.isSome
  lifecycle : b.lifecycle = a.lifecycle
  desktop : b.desktop = a.desktop
  events : b.journal.events = a.journal.events

/-- The session stays in its state or ends, and the adapter stays sound. -/
structure Continues (a b : Adapter) : Prop where
  lifecycle : b.lifecycle = a.lifecycle ∨ b.lifecycle = .terminated
  sound : a.Sound → b.Sound

/-- The session advances, and the adapter stays sound. -/
structure Proceeds (a b : Adapter) : Prop where
  lifecycle : a.lifecycle.Advances b.lifecycle
  sound : a.Sound → b.Sound

section relations
variable {a b c : Adapter}

theorem Stays.refl (a : Adapter) : Stays a a := ⟨rfl, rfl, rfl, rfl⟩

theorem Stays.trans (h : Stays a b) (h' : Stays b c) : Stays a c :=
  ⟨h'.link.trans h.link, h'.lifecycle.trans h.lifecycle, h'.desktop.trans h.desktop,
    h'.events.trans h.events⟩

theorem Continues.of_same (link : b.link.isSome = a.link.isSome)
    (lifecycle : b.lifecycle = a.lifecycle) (ends : b.ends = a.ends) : Continues a b where
  lifecycle := .inl lifecycle
  sound := fun ⟨linked, ended⟩ => by
    refine ⟨?_, ?_⟩
    · rw [link, lifecycle, linked]
    · rw [ends, lifecycle]
      exact ended

theorem Stays.ends (h : Stays a b) : b.ends = a.ends := by
  rw [Adapter.ends, Adapter.ends, h.events]

theorem Stays.continues (h : Stays a b) : Continues a b :=
  .of_same h.link h.lifecycle h.ends

theorem Continues.refl (a : Adapter) : Continues a a := (Stays.refl a).continues

theorem Continues.trans (h : Continues a b) (h' : Continues b c) : Continues a c where
  lifecycle := by
    rcases h'.lifecycle with same | ended
    · rw [same]
      exact h.lifecycle
    · exact .inr ended
  sound := h'.sound ∘ h.sound

theorem Continues.proceeds (h : Continues a b) : Proceeds a b where
  lifecycle := by
    rcases h.lifecycle with same | ended
    · exact same ▸ .stay _
    · exact ended ▸ .stop _
  sound := h.sound

end relations

/-! ## Using the link -/

section link
variable (a : Adapter)

theorem stays_putGate (linked : a.link.isSome) (l' : Link) (gate : Gate) :
    Stays a (a.putGate l' gate) :=
  ⟨linked.symm, rfl, rfl, rfl⟩

theorem stays_sendOver (linked : a.link.isSome) (l : Link) (c : Command) :
    Stays a (a.sendOver l c).2 :=
  ⟨linked.symm, rfl, rfl, rfl⟩

theorem stays_follow (c : Command) : Stays a (a.follow c) := by
  unfold follow
  split
  case h_1 l linked => exact a.stays_sendOver (by rw [linked]; rfl) l c
  case h_2 => exact .refl a

theorem stays_foldl_follow (cs : List Command) : Stays a (cs.foldl follow a) := by
  induction cs generalizing a with
  | nil => exact .refl a
  | cons c cs ih => exact (a.stays_follow c).trans (ih _)

theorem foldl_publish (es : List Host.Event) :
    es.foldl publish a =
      { a with journal := { a.journal with events := a.journal.events ++ es } } := by
  induction es generalizing a with
  | nil => rw [List.foldl_nil, List.append_nil]
  | cons e es ih => simp [ih, publish]

/-- Carries out the effects of a message, all but the end of the session. -/
def carryOut (e : Effects) : Adapter := e.events.foldl publish (e.commands.foldl follow a)

theorem carryOut_eq (e : Effects) :
    a.carryOut e =
      let followed := e.commands.foldl follow a
      { followed with journal :=
          { followed.journal with events := followed.journal.events ++ e.events } } :=
  foldl_publish _ _

section carryOut
variable (e : Effects)

theorem isSome_link_carryOut : (a.carryOut e).link.isSome = a.link.isSome := by
  rw [carryOut_eq]
  exact (a.stays_foldl_follow e.commands).link

theorem lifecycle_carryOut : (a.carryOut e).lifecycle = a.lifecycle := by
  rw [carryOut_eq]
  exact (a.stays_foldl_follow e.commands).lifecycle

theorem desktop_carryOut : (a.carryOut e).desktop = a.desktop := by
  rw [carryOut_eq]
  exact (a.stays_foldl_follow e.commands).desktop

theorem events_carryOut : (a.carryOut e).journal.events = a.journal.events ++ e.events := by
  rw [carryOut_eq]
  exact congrArg (· ++ e.events) (a.stays_foldl_follow e.commands).events

end carryOut

@[simp] theorem ends_publish (e : Host.Event) :
    (a.publish e).ends = a.ends + if e = .terminated then 1 else 0 := by
  simp [ends, publish, List.count_singleton]

@[simp] theorem link_dropLink : a.dropLink.link = none := by
  unfold dropLink
  split
  case h_1 => rfl
  case h_2 none => exact none

@[simp] theorem lifecycle_dropLink : a.dropLink.lifecycle = a.lifecycle := by
  unfold dropLink
  split <;> rfl

@[simp] theorem journal_dropLink : a.dropLink.journal = a.journal := by
  unfold dropLink
  split <;> rfl

@[simp] theorem desktop_dropLink : a.dropLink.desktop = a.desktop := by
  unfold dropLink
  split <;> rfl

/-- Without a link there is none to drop. -/
theorem dropLink_of_unlinked (unlinked : a.link = none) : a.dropLink = a := by
  rw [dropLink, unlinked]

end link

/-! ## Taking in -/

section intake
variable {a : Adapter}

theorem Sound.ends_eq_zero (h : a.Sound) (alive : a.lifecycle ≠ .terminated) : a.ends = 0 := by
  have ended := h.ended
  rw [if_neg alive] at ended
  omega

theorem Sound.running_of_linked (h : a.Sound) (linked : a.link.isSome) :
    a.lifecycle.isRunning := h.linked ▸ linked

theorem not_terminated_of_running (running : a.lifecycle.isRunning) :
    a.lifecycle ≠ .terminated := by
  intro ended
  rw [ended] at running
  cases running

/-- A session that ends drops its link and tells the host once at most. -/
theorem Sound.ended_once {b : Adapter} (h : a.Sound) (alive : a.lifecycle ≠ .terminated)
    (ended : b.lifecycle = .terminated) (unlinked : b.link = none) (told : b.ends ≤ a.ends + 1) :
    b.Sound where
  linked := by
    rw [unlinked, ended]
    rfl
  ended := by
    rw [if_pos ended]
    have := h.ends_eq_zero alive
    omega

/-- Takes note of a message whose effects are still to be carried out. The state of the session
changes here, but the link goes only when they are. -/
def noted (a : Adapter) (m : Message) : Adapter :=
  { a with
    desktop := (a.desktop.hear m).1
    lifecycle := a.lifecycle.after (a.desktop.hear m).2 }

/-- Attends to a message that has passed the gate. -/
def attend (a : Adapter) (m : Message) : Adapter :=
  let done := (a.noted m).carryOut (a.desktop.hear m).2
  if (a.desktop.hear m).2.fatal then done.dropLink else done

theorem hear_eq (a : Adapter) (l : Link) (m : Message) :
    a.hear l m = (a.putGate l (l.gate.hear m)).attend m := rfl

theorem desktop_attend (a : Adapter) (m : Message) :
    (a.attend m).desktop = (a.desktop.hear m).1 := by
  unfold attend
  dsimp only
  split
  · rw [desktop_dropLink, desktop_carryOut]
    rfl
  · rw [desktop_carryOut]
    rfl

theorem continues_attend (linked : a.link.isSome) (m : Message) : Continues a (a.attend m) := by
  have ends : ((a.noted m).carryOut (a.desktop.hear m).2).ends =
      a.ends + if (a.desktop.hear m).2.fatal then 1 else 0 := by
    rw [Adapter.ends, events_carryOut, List.count_append, a.desktop.count_terminated_hear m]
    rfl
  have lifecycle : ((a.noted m).carryOut (a.desktop.hear m).2).lifecycle =
      a.lifecycle.after (a.desktop.hear m).2 :=
    lifecycle_carryOut _ _
  unfold attend
  by_cases fatal : (a.desktop.hear m).2.fatal
  · rw [if_pos fatal] at ends ⊢
    have ended : ((a.noted m).carryOut (a.desktop.hear m).2).dropLink.lifecycle =
        .terminated := by
      rw [lifecycle_dropLink, lifecycle, Lifecycle.after, if_pos fatal]
    refine ⟨.inr ended, fun h => ?_⟩
    have alive := not_terminated_of_running (h.running_of_linked linked)
    refine h.ended_once alive ended (link_dropLink _) ?_
    rw [Adapter.ends, journal_dropLink]
    exact Nat.le_of_eq ends
  · rw [if_neg fatal] at ends ⊢
    refine .of_same ?_ ?_ ends
    · rw [isSome_link_carryOut]
      rfl
    · rw [lifecycle, Lifecycle.after, if_neg fatal]

/-- A link that ends or fails ends the session. -/
theorem continues_lose (a : Adapter) : Continues a a.lose := by
  unfold lose
  by_cases running : a.lifecycle.isRunning
  · rw [if_pos running]
    refine ⟨.inr (lifecycle_dropLink _), fun h => ?_⟩
    refine h.ended_once (not_terminated_of_running running) (lifecycle_dropLink _)
      (link_dropLink _) ?_
    rw [ends, journal_dropLink, ← ends]
    simp only [ends_publish, if_true]
    exact Nat.le_refl _
  · rw [if_neg running]
    refine ⟨.inl (lifecycle_dropLink _), fun h => ?_⟩
    have unlinked : a.link = none := by
      rw [← Option.not_isSome_iff_eq_none, h.linked]
      exact running
    rwa [dropLink_of_unlinked _ unlinked]

theorem desktop_lose (a : Adapter) : a.lose.desktop = a.desktop := by
  unfold lose
  dsimp only
  split <;> exact desktop_dropLink _

end intake

end Adapter
end DebugBridge
