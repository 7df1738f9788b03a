import DebugBridge.Proofs.Adapter.Rebinding
import DebugBridge.Server

/-!
# Before a session begins

Until a session has been started it has no link, so nothing comes in. All that the host is told in
this time is that the adapter is ready, and that it is not told as it happens but with the response.
-/

namespace DebugBridge.Adapter

open Host (Request RequestMessage)

/-! ## Without a link -/

theorem Act.of_unlinked {a b : Adapter} (act : Act a b) (unlinked : a.link = none) :
    b.link = none ∧ b.journal.events = a.journal.events := by
  cases act with
  | send known l c =>
    have stays := a.stays_sendFor l c
    have link := stays.link
    rw [unlinked] at link
    exact ⟨Option.isNone_iff_eq_none.mp (Option.isSome_eq_false_iff.mp link), stays.events⟩
  | stir linked | take linked | wait linked | lose linked =>
    rw [unlinked] at linked
    cases linked
  | turn answers delays => exact ⟨unlinked, rfl⟩

theorem Works.of_unlinked {a b : Adapter} (works : Works a b) (unlinked : a.link = none) :
    b.link = none ∧ b.journal.events = a.journal.events := by
  induction works with
  | refl => exact ⟨unlinked, rfl⟩
  | tail before work ih =>
    obtain ⟨unlinked, same⟩ := ih
    cases work with
    | act act =>
      obtain ⟨unlinked', same'⟩ := act.of_unlinked unlinked
      exact ⟨unlinked', same'.trans same⟩
    | write write =>
      cases write with
      | send linked =>
        rw [unlinked] at linked
        cases linked
      | fallBack => exact ⟨unlinked, same⟩
    | note => exact ⟨unlinked, same⟩

theorem Sound.unlinked {a : Adapter} (h : a.Sound) (early : a.lifecycle.hasBegun = false) :
    a.link = none := by
  have linked := h.linked
  cases running : a.lifecycle.isRunning with
  | true => simp [Lifecycle.hasBegun_of_isRunning running] at early
  | false =>
    rw [running] at linked
    exact Option.isNone_iff_eq_none.mp (Option.isSome_eq_false_iff.mp linked)

/-! ## What the host is told -/

/-- Before the session begins there is nothing to be told to the host as it happens. -/
def Silent (a : Adapter) : Prop :=
  a.lifecycle.hasBegun = false → a.journal.events.filter Server.forwarded = []

theorem silent_of_begun {a : Adapter} (begun : a.lifecycle.hasBegun) : a.Silent := by
  intro early
  rw [begun] at early
  cases early

theorem Response.silent {relinks : Bool} {a b : Adapter} (response : Response relinks a b)
    (sound : a.Sound) (silent : a.Silent) : b.Silent := by
  have next := response.proceeds.lifecycle
  cases begun : a.lifecycle.hasBegun with
  | true => exact silent_of_begun (next.hasBegun begun)
  | false =>
    have unlinked := sound.unlinked begun
    have untold := silent begun
    have running {opened : Adapter} {l : Link} (begun : opened.lifecycle.hasBegun) :
        (opened.install l).Silent := by
      have takes := (acts_takeIn { opened with link := some l }).works.continues.proceeds
      exact silent_of_begun (takes.lifecycle.hasBegun begun)
    cases response with
    | works works =>
      intro _
      rw [(works.of_unlinked unlinked).2]
      exact untold
    | setUp created =>
      intro _
      simp [publish, List.filter_append, untold, Server.forwarded]
    | seek | «open» | refuse => exact fun _ => untold
    | start ready mode opens => exact running rfl
    | rebind asked runs opens =>
      rw [Lifecycle.hasBegun_of_isRunning runs] at begun
      cases begun
    | disconnect alive => exact silent_of_begun (congrArg _ (lifecycle_dropLink _))
    | terminate alive => exact silent_of_begun (congrArg _ (lifecycle_dropLink _))

theorem not_linked {a : Adapter} (unlinked : a.link = none) (number : Nat) :
    ∀ l, a.link = some l → l.number ≠ number := by
  intro l linked
  rw [unlinked] at linked
  cases linked

theorem silent_undergo {a : Adapter} (sound : a.Sound) (silent : a.Silent) (o : Occurrence) :
    (a.undergo o).Silent := by
  cases begun : a.lifecycle.hasBegun with
  | true => exact silent_of_begun ((a.proceeds_undergo o).lifecycle.hasBegun begun)
  | false =>
    have other := not_linked (sound.unlinked begun)
    cases o with
    | stimulus i => exact (a.response i).silent sound silent
    | delivery number m =>
      rw [undergo, deliver_of_ne (other number)]
      exact silent
    | conclusion number =>
      rw [undergo, conclude_of_ne (other number)]
      exact silent

theorem sound_undergo {a : Adapter} (sound : a.Sound) (o : Occurrence) : (a.undergo o).Sound :=
  (a.proceeds_undergo o).sound sound

theorem sound_silent_course (s : Surroundings) (occurrences : List Occurrence) :
    (course s occurrences).Sound ∧ (course s occurrences).Silent :=
  List.foldlRecOn (motive := fun a => a.Sound ∧ a.Silent) occurrences undergo
    ⟨sound_run s [], fun _ => rfl⟩ fun _ both o _ =>
      ⟨sound_undergo both.1 o, silent_undergo both.1 both.2 o⟩

/-! ## What can change the state -/

/-- The host asks for something. -/
def Occurrence.isRequest : Occurrence → Bool
  | stimulus (.request _) => true
  | stimulus (.happening ..) | stimulus (.rebind _) | delivery .. | conclusion _ => false

/-- Only the host can begin a session. -/
theorem lifecycle_undergo {a : Adapter} (sound : a.Sound) (early : a.lifecycle.hasBegun = false)
    {o : Occurrence} (alien : o.isRequest = false) : (a.undergo o).lifecycle = a.lifecycle := by
  have other := not_linked (sound.unlinked early)
  have idle : ¬ a.lifecycle.isRunning := by
    intro running
    rw [Lifecycle.hasBegun_of_isRunning running] at early
    cases early
  cases o with
  | stimulus i =>
    cases i with
    | request m => cases alien
    | happening number h => rw [undergo, respond, happen_of_ne (other number)]
    | rebind w =>
      have stays := (a.stays_openLink w).lifecycle
      rw [undergo, respond, rebind]
      split
      case h_1 f b same =>
        rw [same] at stays
        exact stays
      case h_2 l b same =>
        rw [same] at stays
        rw [stays, if_neg idle]
        exact stays
  | delivery number m => rw [undergo, deliver_of_ne (other number)]
  | conclusion number => rw [undergo, conclude_of_ne (other number)]

theorem lifecycle_of_setUp {a : Adapter} {m : RequestMessage} (asked : m.command = "initialize")
    (ok : (a.answer m).1.isOk) : (a.answer m).2.lifecycle = .initialized := by
  have request : Request.ofMessage m = .ok .setUp := by
    rw [Request.ofMessage, asked]
    rfl
  have answered : a.answer m = a.handle .setUp := by rw [answer, request]
  rw [answered] at ok ⊢
  rw [handle, setUp] at ok ⊢
  split at ok
  case isTrue created => rw [if_pos created]; rfl
  case isFalse => cases ok

end DebugBridge.Adapter
