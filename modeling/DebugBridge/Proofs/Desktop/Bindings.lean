import DebugBridge.Proofs.Desktop.Sources

/-!
# Windows and sources as the calls tell of them

Sources start without windows and take one call after another: a window is bound to a path, or it
is bound to nothing any more. What a window shows can be read off the calls: the path to which it
was bound, if since then neither the window was bound to another path or to nothing nor another
window to the path. Windows and references lead to each other and so do references and paths,
whatever calls are made; and a path keeps its reference.
-/

namespace DebugBridge.Sources

/-- A call that changes what windows show. -/
inductive Call where
  /-- The window shows the path. -/
  | bind (window : Int64) (path : String)
  /-- The window shows nothing. -/
  | unbind (window : Int64)

/-- The sources after a call. -/
def after (s : Sources) : Call → Sources
  | .bind window path => (s.bind window path).2
  | .unbind window => s.unbind window

/-- The sources behind a list of calls, the latest first. -/
def ofCalls : List Call → Sources
  | [] => .empty
  | c :: earlier => (ofCalls earlier).after c

/-- The call leaves a path in the window that shows it. -/
def Call.Leaves (window : Int64) (path : String) : Call → Prop
  | bind w p => w = window ↔ p = path
  | unbind w => w ≠ window

/-- The window was bound to the path, and all calls since leave it there. -/
def Shows (calls : List Call) (window : Int64) (path : String) : Prop :=
  ∃ later earlier, calls = later ++ .bind window path :: earlier ∧
    ∀ c ∈ later, c.Leaves window path

theorem shows_cons {c : Call} {calls : List Call} {window : Int64} {path : String} :
    Shows (c :: calls) window path ↔
      c = .bind window path ∨ c.Leaves window path ∧ Shows calls window path := by
  constructor
  · rintro ⟨later, earlier, cut, kept⟩
    cases later with
    | nil => exact .inl (List.cons.inj cut).1
    | cons d later =>
      rw [List.cons_append, List.cons.injEq] at cut
      obtain ⟨rfl, rfl⟩ := cut
      rw [List.forall_mem_cons] at kept
      exact .inr ⟨kept.1, later, earlier, rfl, kept.2⟩
  · rintro (rfl | ⟨now, later, earlier, rfl, kept⟩)
    · exact ⟨[], calls, rfl, by simp⟩
    · exact ⟨c :: later, earlier, rfl, List.forall_mem_cons.mpr ⟨now, kept⟩⟩

variable {s : Sources} {window : Int64} {path : String} {reference : Int}

/-- In coherent sources a path is in the window that shows its reference. -/
theorem Coherent.windowOfPath?_eq_some_iff (h : s.Coherent) :
    s.windowOfPath? path = some window ↔
      ∃ reference, s.shownBy? window = some reference ∧ s.path? reference = some path := by
  rw [windowOfPath?, Option.bind_eq_some_iff]
  simp only [h.referenced, h.inverse, and_comm]

theorem Coherent.after (h : s.Coherent) (c : Call) : (s.after c).Coherent := by
  cases c with
  | bind window path => exact h.bind window path
  | unbind window => exact h.unbind window

theorem coherent_ofCalls (calls : List Call) : (ofCalls calls).Coherent := by
  induction calls with
  | nil => exact coherent_empty
  | cons c earlier ih => exact ih.after c

/-- A path is in a window behind a call if the call binds the two, or if it was there before and the
call leaves it there. -/
theorem Coherent.windowOfPath?_after (h : s.Coherent) (c : Call) :
    (s.after c).windowOfPath? path = some window ↔
      c = .bind window path ∨ c.Leaves window path ∧ s.windowOfPath? path = some window := by
  rw [(h.after c).windowOfPath?_eq_some_iff, h.windowOfPath?_eq_some_iff]
  cases c with
  | bind w p =>
    constructor
    case mp =>
      rintro ⟨reference, shows, known⟩
      rcases h.shownBy?_bind_eq_some_iff.mp shows with ⟨rfl, rfl⟩ | ⟨apart, unlike, old⟩
      · cases known.symm.trans (h.path?_bind_self w p)
        exact .inl rfl
      · obtain ⟨q, before⟩ := h.known old
        cases known.symm.trans (h.path?_bind_of_path? before w p)
        refine .inr ⟨iff_of_false apart ?_, reference, old, before⟩
        rintro rfl
        exact unlike (h.eq_referenceFor before).symm
    case mpr =>
      rintro (same | ⟨leaves, reference, old, before⟩)
      · cases same
        exact ⟨_, s.shownBy?_bind_self window path, h.path?_bind_self window path⟩
      · by_cases here : w = window
        · cases here
          cases leaves.mp rfl
          exact ⟨_, s.shownBy?_bind_self window path, h.path?_bind_self window path⟩
        · have unlike : s.referenceFor p ≠ reference := by
            rintro rfl
            exact here (leaves.mpr (h.eq_of_path?_referenceFor before).symm)
          exact ⟨reference, h.shownBy?_bind_eq_some_iff.mpr (.inr ⟨here, unlike, old⟩),
            h.path?_bind_of_path? before w p⟩
  | unbind w =>
    rw [Sources.after]
    simp only [path?_unbind, shownBy?_unbind]
    constructor
    case mp =>
      rintro ⟨reference, left, known⟩
      split at left
      case isTrue => cases left
      case isFalse apart => exact .inr ⟨apart, reference, left, known⟩
    case mpr =>
      rintro (same | ⟨apart, reference, old, known⟩)
      · cases same
      · exact ⟨reference, by rw [if_neg apart, old], known⟩

theorem windowOfPath?_ofCalls (calls : List Call) (path : String) (window : Int64) :
    (ofCalls calls).windowOfPath? path = some window ↔ Shows calls window path := by
  induction calls with
  | nil =>
    refine iff_of_false nofun ?_
    rintro ⟨later, earlier, cut, -⟩
    simp at cut
  | cons c earlier ih =>
    rw [ofCalls, (coherent_ofCalls earlier).windowOfPath?_after, ih, shows_cons]

/-! ## References -/

/-- The paths that have a reference are those that were bound. -/
theorem isSome_reference?_ofCalls (calls : List Call) (path : String) :
    ((ofCalls calls).reference? path).isSome ↔ ∃ window, .bind window path ∈ calls := by
  induction calls with
  | nil => exact iff_of_false nofun (by simp)
  | cons c earlier ih =>
    cases c with
    | bind w p =>
      rw [ofCalls, after, reference?_bind]
      by_cases same : p = path
      · rw [if_pos same]
        exact iff_of_true rfl ⟨w, same ▸ List.mem_cons_self⟩
      · simp [same, ih, Ne.symm same]
    | unbind w =>
      rw [ofCalls, after, reference?_unbind]
      simpa using ih

theorem path?_ofCalls_append {calls : List Call} (later : List Call)
    (h : (ofCalls calls).path? reference = some path) :
    (ofCalls (later ++ calls)).path? reference = some path := by
  induction later with
  | nil => exact h
  | cons c later ih =>
    cases c with
    | bind w p => exact (coherent_ofCalls (later ++ calls)).path?_bind_of_path? ih w p
    | unbind w =>
      rw [List.cons_append, ofCalls, after, path?_unbind]
      exact ih

/-- Sources agree with the calls behind which they stand. -/
structure Follows (s : Sources) (calls : List Call) : Prop where
  /-- A window shows what is shown by it, and nothing else. -/
  inverse : ∀ window reference,
    s.shownBy? window = some reference ↔ s.windowOf? reference = some window
  /-- References and paths lead to each other, so two paths never have the same reference. -/
  referenced : ∀ path reference, s.reference? path = some reference ↔ s.path? reference = some path
  /-- The paths that have a reference are those that were bound. -/
  bound : ∀ path, (s.reference? path).isSome ↔ ∃ window, .bind window path ∈ calls
  /-- References count from one. -/
  positive : ∀ path reference, s.reference? path = some reference → 1 ≤ reference
  /-- A path keeps its reference. -/
  kept : ∀ path reference later, s.reference? path = some reference →
    (ofCalls (later ++ calls)).reference? path = some reference
  /-- To bind a window gives the reference that the path has then. -/
  given : ∀ window path, (s.after (.bind window path)).reference? path = some (s.bind window path).1
  /-- The window of a path is the one to which the calls have bound it. -/
  shown : ∀ path window, s.windowOfPath? path = some window ↔ Shows calls window path
  /-- So is the window of its reference, and no other references have one. -/
  shown_reference : ∀ window reference, s.windowOf? reference = some window ↔
    ∃ path, s.path? reference = some path ∧ Shows calls window path

/-- Whatever calls are made, the sources agree with them. -/
theorem follows_ofCalls (calls : List Call) : Follows (ofCalls calls) calls := by
  have coherent := coherent_ofCalls calls
  constructor
  case inverse => exact fun _ _ => coherent.inverse
  case referenced => exact fun _ _ => coherent.referenced
  case bound => exact isSome_reference?_ofCalls calls
  case positive =>
    exact fun path reference known => (coherent.bounds (coherent.referenced.mp known)).1
  case kept =>
    intro path reference later known
    refine (coherent_ofCalls (later ++ calls)).referenced.mpr ?_
    exact path?_ofCalls_append later (coherent.referenced.mp known)
  case given =>
    intro window path
    rw [bind_fst, after, reference?_bind, if_pos rfl]
  case shown => exact windowOfPath?_ofCalls calls
  case shown_reference =>
    intro window reference
    simp only [← windowOfPath?_ofCalls, coherent.windowOfPath?_eq_some_iff]
    constructor
    · intro shown
      have shows := coherent.inverse.mpr shown
      obtain ⟨path, known⟩ := coherent.known shows
      exact ⟨path, known, reference, shows, known⟩
    · rintro ⟨path, known, number, shows, also⟩
      obtain rfl : number = reference :=
        (coherent.eq_referenceFor also).trans (coherent.eq_referenceFor known).symm
      exact coherent.inverse.mp shows

end DebugBridge.Sources
