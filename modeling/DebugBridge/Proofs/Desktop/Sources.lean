import DebugBridge.Desktop.Sources
import Mathlib.Data.List.Nodup

/-!
# References of sources

A path and its reference determine each other: a path is given a reference once, and the two stay
together however windows are bound and unbound. At any time a source is shown by one window at
most, and a window shows one source at most. Both relations are kept in two tables each; binding
and unbinding keep the two in step (`Coherent`).
-/

namespace DebugBridge

namespace Sources

/-- The reference that a path has, or gets when it is first shown. -/
def referenceFor (s : Sources) (path : String) : Int := (s.reference? path).getD s.next

/-! ## What is found behind each operation -/

section lookup
variable (s : Sources) (window shower : Int64) (path other : String) (reference number : Int)

@[simp] theorem refer_fst : (s.refer path).1 = s.referenceFor path := by
  unfold refer referenceFor
  cases s.reference? path <;> rfl

@[simp] theorem shownBy?_refer : (s.refer path).2.shownBy? shower = s.shownBy? shower := by
  unfold refer
  split <;> rfl

@[simp] theorem windowOf?_refer : (s.refer path).2.windowOf? number = s.windowOf? number := by
  unfold refer
  split <;> rfl

@[simp] theorem shownBy?_vacate :
    (s.vacate window reference).shownBy? shower = s.shownBy? shower := by
  unfold vacate
  split
  · split <;> rfl
  · rfl

theorem windowOf?_vacate :
    (s.vacate window reference).windowOf? number =
      if s.shownBy? window = some number ∧ number ≠ reference then none
      else s.windowOf? number := by
  unfold vacate
  cases s.shownBy? window with
  | none => simp
  | some previous =>
    by_cases kept : previous = reference
    · simp +contextual [kept, eq_comm]
    · have erased := Table.get?_erase s.windowOf previous number
      simp only [ne_eq, kept, not_false_eq_true, if_true, windowOf?, erased, Option.some.injEq]
      by_cases here : previous = number
      · simp [← here, kept]
      · simp [here]

theorem windowOf?_occupy :
    (s.occupy window reference).windowOf? number =
      if reference = number then some window else s.windowOf? number :=
  Table.get?_insert s.windowOf reference number window

theorem shownBy?_occupy :
    (s.occupy window reference).shownBy? shower =
      if window = shower then some reference
      else if s.windowOf? reference = some shower then none
      else s.shownBy? shower := by
  refine (Table.get?_insert _ window shower reference).trans ?_
  by_cases self : window = shower
  · rw [if_pos self, if_pos self]
  rw [if_neg self, if_neg self]
  cases s.windowOf? reference with
  | none => simp [shownBy?]
  | some old =>
    by_cases kept : old = window
    · simp [kept, self, shownBy?]
    · simp [kept, Table.get?_erase, shownBy?]

theorem bind_fst : (s.bind window path).1 = s.referenceFor path := refer_fst s path

/-- The window shows the source, and the source that it has shown is in no window. -/
theorem windowOf?_bind :
    (s.bind window path).2.windowOf? number =
      if s.referenceFor path = number then some window
      else if s.shownBy? window = some number then none
      else s.windowOf? number := by
  simp only [bind, refer_fst, windowOf?_occupy, windowOf?_vacate, shownBy?_refer, windowOf?_refer]
  by_cases here : s.referenceFor path = number
  · rw [if_pos here, if_pos here]
  · simp [here, Ne.symm here]

/-- The window shows the source, and the window that has shown it shows nothing. -/
theorem shownBy?_bind :
    (s.bind window path).2.shownBy? shower =
      if window = shower then some (s.referenceFor path)
      else if s.windowOf? (s.referenceFor path) = some shower then none
      else s.shownBy? shower := by
  simp [bind, shownBy?_occupy, windowOf?_vacate]

theorem windowOf?_bind_self :
    (s.bind window path).2.windowOf? (s.referenceFor path) = some window := by
  rw [windowOf?_bind, if_pos rfl]

theorem shownBy?_bind_self :
    (s.bind window path).2.shownBy? window = some (s.referenceFor path) := by
  rw [shownBy?_bind, if_pos rfl]

theorem shownBy?_unbind :
    (s.unbind window).shownBy? shower = if window = shower then none else s.shownBy? shower := by
  unfold unbind
  cases shows : s.shownBy? window with
  | none =>
    by_cases self : window = shower
    · rw [if_pos self, ← self, shows]
    · rw [if_neg self]
  | some => exact Table.get?_erase s.shownBy window shower

theorem windowOf?_unbind :
    (s.unbind window).windowOf? number =
      if s.shownBy? window = some number ∧ s.windowOf? number = some window then none
      else s.windowOf? number := by
  unfold unbind
  cases s.shownBy? window with
  | none => simp
  | some r =>
    change (if s.windowOf? r = some window then s.windowOf.erase r else s.windowOf).get? number = _
    by_cases back : s.windowOf? r = some window
    · rw [if_pos back, Table.get?_erase]
      by_cases here : r = number
      · rw [if_pos here, if_pos ⟨congrArg some here, here ▸ back⟩]
      · rw [if_neg here, if_neg fun h => here (Option.some.inj h.1)]
        rfl
    · have apart : ¬(some r = some number ∧ s.windowOf? number = some window) :=
        fun h => back (Option.some.inj h.1 ▸ h.2)
      rw [if_neg back, if_neg apart]
      rfl

/-- What a path gets by `bind` it gets by `refer`. -/
theorem paths_bind :
    (s.bind window path).2.next = (s.refer path).2.next ∧
      (s.bind window path).2.referenceOf = (s.refer path).2.referenceOf ∧
      (s.bind window path).2.pathOf = (s.refer path).2.pathOf := by
  simp only [bind, occupy, vacate]
  split
  · split <;> exact ⟨rfl, rfl, rfl⟩
  · exact ⟨rfl, rfl, rfl⟩

/-- A path that is bound has its reference, and the others keep theirs. -/
theorem reference?_bind :
    (s.bind window path).2.reference? other =
      if path = other then some (s.referenceFor path) else s.reference? other := by
  rw [reference?, (s.paths_bind window path).2.1]
  unfold refer referenceFor
  cases known : s.reference? path with
  | some r =>
    by_cases same : path = other
    · rw [if_pos same, ← same]
      exact known
    · rw [if_neg same]
      rfl
  | none => exact Table.get?_insert _ _ _ _

theorem paths_unbind :
    (s.unbind window).next = s.next ∧ (s.unbind window).referenceOf = s.referenceOf ∧
      (s.unbind window).pathOf = s.pathOf := by
  unfold unbind
  split <;> exact ⟨rfl, rfl, rfl⟩

@[simp] theorem reference?_unbind : (s.unbind window).reference? path = s.reference? path := by
  rw [reference?, (s.paths_unbind window).2.1, reference?]

@[simp] theorem path?_unbind : (s.unbind window).path? number = s.path? number := by
  rw [path?, (s.paths_unbind window).2.2, path?]

end lookup

/-! ## What the tables have in common -/

/-- The tables of windows and sources are inverse to each other, and so are those of paths and
references. A source that is shown has a path, and references count from one up to the number of
paths. -/
structure Coherent (s : Sources) : Prop where
  inverse : ∀ {window reference},
    s.shownBy? window = some reference ↔ s.windowOf? reference = some window
  referenced : ∀ {path reference},
    s.reference? path = some reference ↔ s.path? reference = some path
  known : ∀ {window reference}, s.shownBy? window = some reference →
    ∃ path, s.path? reference = some path
  bounds : ∀ {reference path}, s.path? reference = some path → 1 ≤ reference ∧ reference < s.next
  next : s.next = s.paths.length + 1

theorem coherent_empty : Coherent .empty where
  inverse := iff_of_false nofun nofun
  referenced := iff_of_false nofun nofun
  known := nofun
  bounds := nofun
  next := rfl

variable {s : Sources} {path other : String} {reference number : Int} {window shower : Int64}

namespace Coherent

/-- The reference that a path has or would get is no other's. -/
theorem eq_of_path?_referenceFor (h : s.Coherent)
    (known : s.path? (s.referenceFor path) = some other) : other = path := by
  rw [referenceFor] at known
  cases has : s.reference? path with
  | none =>
    rw [has, Option.getD_none] at known
    exact absurd (h.bounds known).2 (Int.lt_irrefl _)
  | some r =>
    rw [has, Option.getD_some, h.referenced.mp has] at known
    exact (Option.some.inj known).symm

theorem eq_referenceFor (h : s.Coherent) (known : s.path? reference = some path) :
    reference = s.referenceFor path := by
  rw [referenceFor, h.referenced.mpr known, Option.getD_some]

/-- The path that is bound has its reference then, and the others keep theirs. -/
theorem path?_bind (h : s.Coherent) (window : Int64) (path : String) (reference : Int) :
    (s.bind window path).2.path? reference =
      if s.referenceFor path = reference then some path else s.path? reference := by
  rw [path?, (s.paths_bind window path).2.2]
  unfold refer referenceFor
  cases has : s.reference? path with
  | some r =>
    by_cases here : r = reference
    · rw [Option.getD_some, if_pos here, ← here]
      exact h.referenced.mp has
    · rw [Option.getD_some, if_neg here]
      rfl
  | none => exact Table.get?_insert _ _ _ _

theorem path?_bind_self (h : s.Coherent) (window : Int64) (path : String) :
    (s.bind window path).2.path? (s.referenceFor path) = some path := by
  rw [h.path?_bind, if_pos rfl]

theorem path?_bind_of_path? (h : s.Coherent) (known : s.path? reference = some other)
    (window : Int64) (path : String) :
    (s.bind window path).2.path? reference = some other := by
  rw [h.path?_bind]
  split
  case isTrue here =>
    rw [← here] at known
    rw [h.eq_of_path?_referenceFor known]
  case isFalse => exact known

/-- What the tables have of a window and a source behind a binding. -/
theorem shownBy?_bind_eq_some_iff (h : s.Coherent) :
    (s.bind window path).2.shownBy? shower = some reference ↔
      window = shower ∧ s.referenceFor path = reference ∨
        window ≠ shower ∧ s.referenceFor path ≠ reference ∧
          s.shownBy? shower = some reference := by
  simp only [shownBy?_bind, ← h.inverse]
  by_cases self : window = shower
  · simp [self]
  · by_cases taken : s.shownBy? shower = some (s.referenceFor path)
    · simp [self, taken]
    · have apart : s.shownBy? shower = some reference → s.referenceFor path ≠ reference :=
        fun shows same => taken (same ▸ shows)
      simpa [self, taken] using apart

theorem windowOf?_bind_eq_some_iff (h : s.Coherent) :
    (s.bind window path).2.windowOf? reference = some shower ↔
      window = shower ∧ s.referenceFor path = reference ∨
        window ≠ shower ∧ s.referenceFor path ≠ reference ∧
          s.shownBy? shower = some reference := by
  rw [windowOf?_bind]
  by_cases here : s.referenceFor path = reference
  · simp [here]
  · simp only [here, if_false, h.inverse]
    by_cases left : s.windowOf? reference = some window
    · simp [left, here]
    · have apart : s.windowOf? reference = some shower → window ≠ shower :=
        fun shown same => left (same ▸ shown)
      simpa [left, here] using apart

theorem windowOf?_unbind_eq_some_iff (h : s.Coherent) :
    (s.unbind window).windowOf? reference = some shower ↔
      window ≠ shower ∧ s.windowOf? reference = some shower := by
  simp only [windowOf?_unbind, h.inverse]
  by_cases left : s.windowOf? reference = some window
  · simp [left]
  · have apart : s.windowOf? reference = some shower → window ≠ shower :=
      fun shown same => left (same ▸ shown)
    simpa [left] using apart

/-- A path whose reference is asked for has one of those that are given out by then. -/
theorem bounds_refer (h : s.Coherent) (path : String) :
    1 ≤ s.referenceFor path ∧ s.referenceFor path < (s.refer path).2.next ∧
      s.next ≤ (s.refer path).2.next := by
  unfold refer referenceFor
  cases has : s.reference? path with
  | some r =>
    obtain ⟨positive, bound⟩ := h.bounds (h.referenced.mp has)
    exact ⟨positive, bound, Int.le_refl _⟩
  | none =>
    have count := h.next
    simp only [Option.getD_none]
    omega

theorem next_refer (h : s.Coherent) (path : String) :
    (s.refer path).2.next = (s.refer path).2.paths.length + 1 := by
  unfold refer
  cases has : s.reference? path with
  | some r => exact h.next
  | none =>
    have fresh : s.pathOf.get? s.next = none := by
      cases known : s.pathOf.get? s.next with
      | none => rfl
      | some other => exact absurd (h.bounds known).2 (Int.lt_irrefl _)
    have count := h.next
    simp only [paths, Table.insert_of_get?_eq_none fresh, List.map_append, List.length_append]
    rw [paths] at count
    simpa using count

theorem bind (h : s.Coherent) (window : Int64) (path : String) :
    (s.bind window path).2.Coherent where
  inverse := h.shownBy?_bind_eq_some_iff.trans h.windowOf?_bind_eq_some_iff.symm
  referenced := by
    intro q r
    rw [reference?_bind, h.path?_bind]
    by_cases same : path = q
    · have only : s.path? r = some q → s.referenceFor path = r :=
        fun known => same ▸ (h.eq_referenceFor known).symm
      by_cases here : s.referenceFor path = r
      · rw [if_pos same, if_pos here, here, same]
        exact iff_of_true rfl rfl
      · rw [if_pos same, if_neg here]
        exact iff_of_false (mt Option.some.inj here) (mt only here)
    · by_cases here : s.referenceFor path = r
      · have only : s.reference? q ≠ some r := by
          intro has
          rw [h.referenced, ← here] at has
          exact same (h.eq_of_path?_referenceFor has).symm
        simp [same, here, only]
      · simp [same, here, h.referenced]
  known := by
    intro w r shows
    rcases h.shownBy?_bind_eq_some_iff.mp shows with ⟨-, rfl⟩ | ⟨-, -, before⟩
    · exact ⟨path, h.path?_bind_self window path⟩
    · obtain ⟨q, known⟩ := h.known before
      exact ⟨q, h.path?_bind_of_path? known window path⟩
  bounds := by
    intro r q known
    obtain ⟨positive, below, more⟩ := h.bounds_refer path
    rw [(s.paths_bind window path).1]
    rw [h.path?_bind] at known
    split at known
    case isTrue here => exact here ▸ ⟨positive, below⟩
    case isFalse =>
      have old := h.bounds known
      exact ⟨old.1, by omega⟩
  next := by
    rw [(s.paths_bind window path).1, paths, (s.paths_bind window path).2.2]
    exact h.next_refer path

theorem unbind (h : s.Coherent) (window : Int64) : (s.unbind window).Coherent where
  inverse := by
    intro w r
    rw [shownBy?_unbind, h.windowOf?_unbind_eq_some_iff, ← h.inverse]
    by_cases self : window = w <;> simp [self]
  referenced := by
    intro q r
    rw [reference?_unbind, path?_unbind, h.referenced]
  known := by
    intro w r shows
    rw [shownBy?_unbind] at shows
    split at shows
    case isTrue => cases shows
    case isFalse => simpa using h.known shows
  bounds := by
    intro r q known
    rw [path?_unbind] at known
    rw [(s.paths_unbind window).1]
    exact h.bounds known
  next := by
    rw [(s.paths_unbind window).1, paths, (s.paths_unbind window).2.2]
    exact h.next

end Coherent

/-- The path and the reference belong together: no other path has the reference, and the path has
no other. -/
def Fits (s : Sources) (path : String) (reference : Int) : Prop :=
  ∀ number other, s.path? number = some other → (number = reference ↔ other = path)

theorem Coherent.fits (h : s.Coherent) (path : String) : s.Fits path (s.referenceFor path) := by
  intro number other known
  constructor
  · rintro rfl
    exact h.eq_of_path?_referenceFor known
  · rintro rfl
    exact h.eq_referenceFor known

theorem Coherent.fits_of_path? (h : s.Coherent) (known : s.path? reference = some path) :
    s.Fits path reference :=
  h.eq_referenceFor known ▸ h.fits path

/-- A reference that has a path is one of the numbers up to how many paths there are. -/
theorem Coherent.le_length (h : s.Coherent) (known : s.path? reference = some path) :
    1 ≤ reference ∧ reference ≤ s.paths.length := by
  have bounds := h.bounds known
  have count := h.next
  omega

end Sources
end DebugBridge
