import Mathlib.Data.List.Nodup

/-!
# Entries with distinct keys

Where no two entries of a list have one key, looking for a key finds the entry that has it.
-/

namespace DebugBridge

universe u v

/-- In a list whose keys are distinct, what is found under a key is what has it. -/
theorem find?_key_eq_some_iff {α : Type u} {κ : Type v} [DecidableEq κ] {key : α → κ}
    {l : List α} (nodup : (l.map key).Nodup) {k : κ} {x : α} :
    l.find? (fun y => key y = k) = some x ↔ x ∈ l ∧ key x = k := by
  constructor
  case mp =>
    intro found
    exact ⟨List.mem_of_find?_eq_some found, by simpa using List.find?_some found⟩
  case mpr =>
    rintro ⟨mem, rfl⟩
    cases found : l.find? fun y => key y = key x with
    | none =>
      have absent := List.find?_eq_none.mp found x mem
      simp at absent
    | some y =>
      have same : key y = key x := by simpa using List.find?_some found
      rw [List.inj_on_of_nodup_map nodup (List.mem_of_find?_eq_some found) mem same]

end DebugBridge
