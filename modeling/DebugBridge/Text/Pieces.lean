/-!
# Cutting lists

A list is cut at each occurrence of a separator. Joining the pieces with the separator gives the
list back.
-/

namespace DebugBridge.Text

variable {α : Type} [DecidableEq α]

/-- The pieces of a list between separators. There is one at least. -/
def pieces (separator : α) : List α → List (List α)
  | [] => [[]]
  | a :: rest =>
    if a = separator then [] :: pieces separator rest
    else
      match pieces separator rest with
      | [] => [[a]]
      | first :: others => (a :: first) :: others

theorem pieces_ne_nil (separator : α) (s : List α) : pieces separator s ≠ [] := by
  cases s with
  | nil => simp [pieces]
  | cons a rest =>
    simp only [pieces]
    split
    · simp
    · split <;> simp

/-- Cutting at a separator is what the core library calls splitting. -/
theorem pieces_eq_splitOn (separator : α) (s : List α) :
    pieces separator s = s.splitOn separator := by
  induction s with
  | nil => rfl
  | cons a rest ih =>
    obtain ⟨first, others, split⟩ := List.exists_cons_of_ne_nil (pieces_ne_nil separator rest)
    rw [List.splitOn_cons_eq_if_modifyHead, ← ih, pieces, split]
    simp

/-- A list without the separator is one piece. -/
theorem pieces_of_not_mem {separator : α} {s : List α} (h : separator ∉ s) :
    pieces separator s = [s] := by
  rw [pieces_eq_splitOn, List.splitOn_eq_singleton h]

/-- Two lists with a separator between them have the pieces of both. -/
theorem pieces_append_separator (separator : α) (s t : List α) :
    pieces separator (s ++ separator :: t) = pieces separator s ++ pieces separator t := by
  simp only [pieces_eq_splitOn, List.splitOn_append_cons_self]

/-- Joining the pieces gives the list back. -/
theorem intercalate_pieces (separator : α) (s : List α) :
    [separator].intercalate (pieces separator s) = s := by
  rw [pieces_eq_splitOn, List.intercalate_splitOn]

/-- Lists without the separator that have been joined are the pieces. -/
theorem pieces_intercalate {separator : α} {parts : List (List α)} (filled : parts ≠ [])
    (free : ∀ part ∈ parts, separator ∉ part) :
    pieces separator ([separator].intercalate parts) = parts := by
  rw [pieces_eq_splitOn, List.splitOn_intercalate separator free filled]

/-- No piece has the separator. -/
theorem not_mem_of_mem_pieces {separator : α} {s piece : List α}
    (h : piece ∈ pieces separator s) : separator ∉ piece := by
  induction s generalizing piece with
  | nil => simp_all [pieces]
  | cons a rest ih =>
    rw [pieces] at h
    split at h
    · rcases List.mem_cons.mp h with rfl | later
      · exact List.not_mem_nil
      · exact ih later
    · rename_i other
      obtain ⟨first, others, split⟩ := List.exists_cons_of_ne_nil (pieces_ne_nil separator rest)
      rw [split] at h ih
      rcases List.mem_cons.mp h with rfl | later
      · exact List.not_mem_cons_of_ne_of_not_mem (Ne.symm other) (ih List.mem_cons_self)
      · exact ih (List.mem_cons_of_mem _ later)

end DebugBridge.Text
