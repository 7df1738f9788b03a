/-!
# Finite maps

A table is a list of entries with at most one entry for each key. Entries keep the order in which
their keys first came.
-/

namespace DebugBridge

/-- A finite map. -/
abbrev Table (κ α : Type) := List (κ × α)

namespace Table

variable {κ α : Type} [DecidableEq κ]

/-- The value of a key. -/
def get? (t : Table κ α) (key : κ) : Option α := (t.find? fun e => e.1 = key).map Prod.snd

/-- Sets the value of a key. -/
def insert (t : Table κ α) (key : κ) (value : α) : Table κ α :=
  match t with
  | [] => [(key, value)]
  | e :: rest => if e.1 = key then (key, value) :: rest else e :: insert rest key value

/-- Removes a key. -/
def erase (t : Table κ α) (key : κ) : Table κ α := t.filter fun e => e.1 ≠ key

@[simp] theorem get?_nil (key : κ) : get? ([] : Table κ α) key = none := rfl

theorem get?_insert (t : Table κ α) (key other : κ) (value : α) :
    (t.insert key value).get? other = if key = other then some value else t.get? other := by
  induction t with
  | nil => by_cases h : key = other <;> simp [insert, get?, h]
  | cons e rest ih =>
    by_cases hk : e.1 = key
    · subst hk
      by_cases ho : e.1 = other <;> simp [insert, get?, ho]
    · by_cases ho : e.1 = other
      · subst ho
        simp [insert, get?, hk, Ne.symm hk]
      · simp only [get?] at ih
        simp [insert, get?, hk, ho, ih]

/-- A new key comes last. -/
theorem insert_of_get?_eq_none {t : Table κ α} {key : κ} (h : t.get? key = none) (value : α) :
    t.insert key value = t ++ [(key, value)] := by
  induction t with
  | nil => rfl
  | cons e rest ih =>
    by_cases hk : e.1 = key
    · simp [get?, hk] at h
    · have fresh : get? rest key = none := by simpa [get?, hk] using h
      rw [insert, if_neg hk, ih fresh, List.cons_append]

theorem get?_erase (t : Table κ α) (key other : κ) :
    (t.erase key).get? other = if key = other then none else t.get? other := by
  induction t with
  | nil => simp [erase, get?]
  | cons e rest ih =>
    simp only [get?, erase] at ih ⊢
    by_cases hk : e.1 = key
    · by_cases ho : key = other
      · simp_all
      · simp_all
    · by_cases ho : e.1 = other
      · have : key ≠ other := fun h => hk (ho.trans h.symm)
        simp_all
      · simp_all

end Table
end DebugBridge
