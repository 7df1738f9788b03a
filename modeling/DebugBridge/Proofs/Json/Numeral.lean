import DebugBridge.Json.Number
import Mathlib.Data.List.TakeWhile

/-!
# Whole numbers in a text

A whole number is written in decimal without leading zeros. What is written is read back as the
same number if it lies within sixty-four bits, signed or unsigned, and no other whole number is
ever read.
-/

namespace DebugBridge.Json.Number

/-- A number that a text can denote: a whole one lies within sixty-four bits, signed or
unsigned. -/
def Fits : Number → Prop
  | whole n => -0x8000000000000000 ≤ n ∧ n < 0x10000000000000000
  | real _ => True

theorem fits_ofInt64 (n : Int64) : (ofInt64 n).Fits := by
  have low := n.le_toInt
  have high := n.toInt_lt
  simp only [ofInt64, Fits]
  omega

/-! ## Decimal digits -/

theorem digitsValue_toDigits (n : Nat) : digitsValue (Nat.toDigits 10 n) = n :=
  Nat.ofDigitChars_toDigits (by decide) (by decide)

theorem isDigit_of_mem_toDigits {n : Nat} {c : Char} (h : c ∈ Nat.toDigits 10 n) : c.isDigit :=
  Nat.isDigit_of_mem_toDigits (by decide) (by decide) h

/-- Only zero is written with a zero in front. -/
theorem head?_toDigits_ne {n : Nat} (positive : n ≠ 0) :
    (Nat.toDigits 10 n).head? ≠ some '0' := by
  induction n using Nat.strongRecOn with
  | ind n ih =>
    by_cases small : n < 10
    · clear ih
      revert positive
      revert n
      decide
    · -- The front digit stays when the last digit is taken away.
      have shorter := ih (n / 10) (by omega) (by omega)
      have filled : Nat.toDigits 10 (n / 10) ≠ [] := Nat.toDigits_ne_nil
      obtain ⟨d, ds, split⟩ := List.exists_cons_of_ne_nil filled
      rw [Nat.toDigits_of_base_le (by decide) (by omega)]
      rw [split] at shorter ⊢
      exact shorter

/-- Digits are written without superfluous zeros. -/
theorem no_leading_zero (n : Nat) :
    ¬ ((Nat.toDigits 10 n).head? = some '0' ∧ 1 < (Nat.toDigits 10 n).length) := by
  rintro ⟨zero, long⟩
  have h : n = 0 := by
    by_contra positive
    exact head?_toDigits_ne positive zero
  subst h
  exact absurd long (by decide)

theorem spanDigits_toDigits (n : Nat) :
    spanDigits (Nat.toDigits 10 n) = (Nat.toDigits 10 n, []) := by
  have all : ∀ c ∈ Nat.toDigits 10 n, c.isDigit := fun c => isDigit_of_mem_toDigits
  rw [spanDigits, List.takeWhile_eq_self_iff.mpr all, List.dropWhile_eq_nil_iff.mpr all]

/-! ## Numerals -/

/-- The characters of a whole number. -/
def numeral (n : Int) : List Char :=
  if n < 0 then '-' :: Nat.toDigits 10 n.natAbs else Nat.toDigits 10 n.natAbs

theorem toList_text_whole (n : Int) : (text (.whole n)).toList = numeral n := by
  cases n with
  | ofNat m =>
    have sign : ¬ Int.ofNat m < 0 := by simp
    rw [numeral, if_neg sign]
    exact Nat.toList_repr
  | negSucc m =>
    rw [numeral, if_pos (Int.negSucc_lt_zero m)]
    change ("-" ++ (m + 1).repr).toList = _
    rw [String.toList_append, Nat.toList_repr]
    rfl

/-- The parts of a whole number as it is written. -/
theorem written?_numeral (n : Int) :
    written? (numeral n) = some ⟨n < 0, Nat.toDigits 10 n.natAbs, none, none⟩ := by
  have filled : (Nat.toDigits 10 n.natAbs).isEmpty = false := by simp [Nat.toDigits_ne_nil]
  have grammatical : ((Nat.toDigits 10 n.natAbs).head? = some '0' &&
      decide (1 < (Nat.toDigits 10 n.natAbs).length)) = false := by
    simpa using no_leading_zero n.natAbs
  by_cases negative : n < 0
  · simp [numeral, written?, negative, spanDigits_toDigits, filled, grammatical, exponent?]
  · have unsigned : ∀ ds, Nat.toDigits 10 n.natAbs ≠ '-' :: ds := by
      intro ds h
      have minus : '-' ∈ Nat.toDigits 10 n.natAbs := by rw [h]; exact List.mem_cons_self
      exact absurd (isDigit_of_mem_toDigits minus) (by decide)
    simp [numeral, written?, negative, spanDigits_toDigits, filled, grammatical, exponent?]

/-- A whole number that fits is read back. -/
theorem value?_numeral {n : Int} (fits : (whole n).Fits) :
    Written.value? ⟨n < 0, Nat.toDigits 10 n.natAbs, none, none⟩ = some (.whole n) := by
  obtain ⟨low, high⟩ := fits
  have size : UInt64.size = 0x10000000000000000 := rfl
  have held : (decide (n.natAbs < UInt64.size) &&
      !(decide (n < 0) && (decide (n.natAbs = 0) || decide (0x8000000000000000 < n.natAbs)))) := by
    simp only [size, Bool.and_eq_true, decide_eq_true_eq, Bool.not_eq_true', Bool.and_eq_false_iff,
      decide_eq_false_iff_not, Bool.or_eq_false_iff]
    omega
  have signed : (if n < 0 then -(n.natAbs : Int) else n.natAbs) = n := by split <;> omega
  rw [Written.value?]
  simp only [digitsValue_toDigits, Option.isNone_none, Bool.true_and, held, if_true,
    decide_eq_true_eq, signed]

/-- No number is read that does not fit. -/
theorem fits_of_value? {w : Written} {n : Number} (h : w.value? = some n) : n.Fits := by
  have size : UInt64.size = 0x10000000000000000 := rfl
  cases n with
  | real bits => trivial
  | whole n =>
    rw [Written.value?] at h
    split at h
    · rename_i held
      cases h
      simp only [size, Bool.and_eq_true, decide_eq_true_eq, Bool.not_eq_true',
        Bool.and_eq_false_iff, Bool.or_eq_false_iff, decide_eq_false_iff_not] at held
      simp only [Fits]
      split
      · rename_i negative
        simp only [negative, Bool.true_eq_false, false_or] at held
        omega
      · omega
    · obtain ⟨f, _, real⟩ := Option.map_eq_some_iff.mp h
      cases real

end DebugBridge.Json.Number
