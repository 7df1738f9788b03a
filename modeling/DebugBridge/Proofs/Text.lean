import DebugBridge.Text.Blank
import DebugBridge.Text.Utf8
import Mathlib.Data.List.TakeWhile

/-!
# Line ends and blanks

A text in which no line ends has no byte of a line end. Trimming takes away the blanks in front of
or behind what is not blank.
-/

namespace DebugBridge.Text

/-! ## Line ends -/

theorem bytes_ofList (cs : List Char) :
    bytes (String.ofList cs) = cs.flatMap String.utf8EncodeChar := by
  simp [bytes, String.toByteArray_ofList, List.utf8Encode]

/-- Only the encoding of a line end has the byte of a line end. -/
theorem eq_newline_of_mem {c : Char} (h : 10 ∈ String.utf8EncodeChar c) : c = '\n' := by
  have value : c.val.toNat = 10 := by
    unfold String.utf8EncodeChar at h
    dsimp only at h
    repeat' split at h
    all_goals
      simp only [List.mem_cons, List.not_mem_nil, or_false, ← UInt8.toNat_inj, UInt8.toNat_ofNat',
        UInt8.reduceToNat, Nat.reducePow] at h
      omega
  exact Char.ext (UInt32.toNat_inj.mp value)

theorem newline_not_mem_bytes {line : String} (oneLine : '\n' ∉ line.toList) :
    10 ∉ bytes line := by
  rw [← String.ofList_toList (s := line), bytes_ofList, List.mem_flatMap]
  rintro ⟨c, among, newline⟩
  exact oneLine (eq_newline_of_mem newline ▸ among)

/-! ## Blanks -/

variable {before core after front : List Char} {s : String}

theorem dropWhile_blanks (blank : ∀ c ∈ before, isBlank c) (seen : ∀ c ∈ core, isBlank c = false)
    (filled : core ≠ []) : (before ++ (core ++ after)).dropWhile isBlank = core ++ after := by
  rw [List.dropWhile_append_of_pos blank]
  cases core with
  | nil => exact absurd rfl filled
  | cons c core =>
    rw [List.cons_append, List.dropWhile_cons_of_neg]
    simp [seen c List.mem_cons_self]

theorem trimStart_blanks (blank : ∀ c ∈ before, isBlank c) (seen : ∀ c ∈ core, isBlank c = false)
    (filled : core ≠ []) :
    trimStart (String.ofList (before ++ (core ++ after))) = String.ofList (core ++ after) := by
  rw [trimStart, String.toList_ofList, dropWhile_blanks blank seen filled]

theorem trimEnd_blanks (blank : ∀ c ∈ after, isBlank c) (seen : ∀ c ∈ core, isBlank c = false)
    (filled : core ≠ []) :
    trimEnd (String.ofList (front ++ core ++ after)) = String.ofList (front ++ core) := by
  have dropped : (after.reverse ++ (core.reverse ++ front.reverse)).dropWhile isBlank = _ :=
    dropWhile_blanks (by simpa using blank) (by simpa using seen) (by simpa using filled)
  rw [trimEnd, String.toList_ofList, List.reverse_append, List.reverse_append, dropped,
    ← List.reverse_append, List.reverse_reverse]

theorem trim_blanks (blank : ∀ c ∈ before, isBlank c) (seen : ∀ c ∈ core, isBlank c = false)
    (filled : core ≠ []) : trim (String.ofList (before ++ core)) = String.ofList core := by
  have start := @trimStart_blanks before core [] blank seen filled
  have finish := @trimEnd_blanks core [] [] (by simp) seen filled
  rw [List.append_nil] at start
  rw [List.nil_append, List.append_nil] at finish
  rw [trim, start, finish]

theorem trimEnd_of_blank (blank : ∀ c ∈ s.toList, isBlank c) : trimEnd s = "" := by
  have nothing : s.toList.reverse.dropWhile isBlank = [] :=
    List.dropWhile_eq_nil_iff.mpr (by simpa using blank)
  rw [trimEnd, nothing]
  rfl

theorem isBlank_of_isDigit {c : Char} (digit : c.isDigit) : isBlank c = false := by
  have low : 48 ≤ c.toNat ∧ c.toNat ≤ 57 := by
    simpa [Char.isDigit, UInt32.le_iff_toNat_le] using digit
  simp only [isBlank, blankRanges, List.any_cons, List.any_nil, Bool.or_false,
    Bool.or_eq_false_iff, Bool.and_eq_false_iff, decide_eq_false_iff_not]
  omega

theorem isEmpty_of_mem {c : Char} (among : c ∈ s.toList) : s.isEmpty = false := by
  rw [Bool.eq_false_iff]
  intro empty
  rw [String.isEmpty_iff.mp empty] at among
  cases among

/-- What trimming the end takes away is blank. -/
theorem exists_eq_trimEnd_append (s : String) :
    ∃ blanks, s.toList = (trimEnd s).toList ++ blanks ∧ ∀ c ∈ blanks, isBlank c := by
  refine ⟨(s.toList.reverse.takeWhile isBlank).reverse, ?_, fun c among => ?_⟩
  · rw [trimEnd, String.toList_ofList, ← List.reverse_append, List.takeWhile_append_dropWhile,
      List.reverse_reverse]
  · exact List.mem_takeWhile_imp (List.mem_reverse.mp among)

end DebugBridge.Text
