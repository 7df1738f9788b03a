/-!
# Deferred breakpoints

Lines requested for a source that no window shows wait until one does. A request replaces what
waited under the same name. When the source appears, the newest request under either of its names
counts, and all of them are settled.
-/

namespace DebugBridge

/-- How a request names a source. -/
inductive SourceName where
  | path (path : String)
  | reference (reference : Int)
  deriving Repr, DecidableEq

/-- The name is one of the two that a source with this path and reference has. -/
abbrev SourceName.Names (n : SourceName) (path : String) (reference : Int) : Prop :=
  n = .path path ∨ n = .reference reference

/-- The waiting lines of each name, the newest request last. -/
structure Deferred where
  waiting : List (SourceName × List Int64)
  deriving Repr, DecidableEq

namespace Deferred

def empty : Deferred := ⟨[]⟩

/-- Lets lines wait under a name. -/
def defer (d : Deferred) (name : SourceName) (lines : List Int64) : Deferred :=
  ⟨d.waiting.filter (fun e => e.1 ≠ name) ++ [(name, lines)]⟩

/-- The newest lines that wait under either name of a source. -/
def newest? (d : Deferred) (path : String) (reference : Int) : Option (List Int64) :=
  ((d.waiting.filter fun e => e.1 = .path path ∨ e.1 = .reference reference).getLast?).map Prod.snd

/-- What is left when a source has appeared. -/
def settle (d : Deferred) (path : String) (reference : Int) : Deferred :=
  ⟨d.waiting.filter fun e => ¬(e.1 = .path path ∨ e.1 = .reference reference)⟩

/-- How many names lines wait under. -/
def size (d : Deferred) : Nat := d.waiting.length

variable (d : Deferred) (path other : String) (reference number : Int)

theorem newest?_eq_none_iff :
    d.newest? path reference = none ↔ ∀ e ∈ d.waiting, ¬ e.1.Names path reference := by
  simp [newest?, SourceName.Names]

/-- Without waiting lines there is nothing to settle. -/
theorem settle_of_newest?_eq_none (h : d.newest? path reference = none) :
    d.settle path reference = d := by
  rw [newest?_eq_none_iff] at h
  simp only [settle, List.filter_eq_self.mpr fun e he => decide_eq_true (h e he)]

theorem newest?_settle_self : (d.settle path reference).newest? path reference = none := by
  rw [newest?_eq_none_iff]
  exact fun e he => of_decide_eq_true (List.mem_filter.mp he).2

/-- Settling leaves no lines that did not wait before. -/
theorem newest?_settle_eq_none (h : d.newest? other number = none) :
    (d.settle path reference).newest? other number = none := by
  rw [newest?_eq_none_iff] at h ⊢
  exact fun e he => h e (List.mem_filter.mp he).1

/-- Settling one source leaves the lines for any other. -/
theorem newest?_settle_of_ne (hp : other ≠ path) (hr : number ≠ reference) :
    (d.settle path reference).newest? other number = d.newest? other number := by
  have apart (e : SourceName × List Int64) (h : e.1.Names other number) :
      ¬ e.1.Names path reference := by
    rcases h with h | h <;> simp [SourceName.Names, h, hp, hr]
  simp only [newest?, settle, List.filter_filter]
  congr 2
  refine List.filter_congr fun e _ => ?_
  by_cases h : e.1.Names other number
  · simp [h, apart e h]
  · simp [h]

/-- The lines deferred last are the newest for the source that they are for. -/
theorem newest?_defer (name : SourceName) (lines : List Int64) :
    (d.defer name lines).newest? path reference =
      if name.Names path reference then some lines else d.newest? path reference := by
  simp only [newest?, defer, List.filter_append, List.filter_filter]
  split
  case isTrue h =>
    simp [h]
  case isFalse h =>
    have kept : d.waiting.filter (fun e => decide (e.1.Names path reference) && e.1 ≠ name) =
        d.waiting.filter fun e => e.1.Names path reference := by
      refine List.filter_congr fun e _ => ?_
      by_cases he : e.1 = name <;> simp [he, h]
    rw [kept, List.filter_cons_of_neg (by simpa using h), List.filter_nil, List.append_nil]

end Deferred
end DebugBridge
