import DebugBridge.Proofs.Command.Stability
import DebugBridge.Proofs.Json.Grammar
import DebugBridge.Proofs.Text

/-!
# What a payload is

A payload is a command exactly when its whole text is the JSON array of a name and an object,
where null stands for an object without members. Every other payload is kept as the text it is.
-/

namespace DebugBridge

open Json (Value Object Tree Spelled)

namespace Command

/-! ## Commands made of a name and arguments -/

theorem name_make {f : Form} (mem : f ∈ forms) (a : f.Args) : (f.make a).name = f.name := by
  revert f
  simp [forms, name, parts]

theorem name_bare {m : String × Command} (mem : m ∈ bare) : m.2.name = m.1 := by
  revert m
  simp [bare, name, parts]

theorem mem_bare_of_lookup {name : String} {c : Command} (found : bare.lookup name = some c) :
    (name, c) ∈ bare := by
  obtain ⟨_, _, split, _⟩ := List.lookup_eq_some_iff.mp found
  simp [split]

/-- The command that is made of a name and arguments has the name. -/
theorem name_ofParts (name : String) (args : Object) : (ofParts name args).name = name := by
  unfold ofParts
  split
  case h_1 f found =>
    have same : f.name = name := by simpa using List.find?_some found
    cases f.shape.read? args with
    | none => rfl
    | some a => exact (name_make (List.mem_of_find?_eq_some found) a).trans same
  case h_2 =>
    cases found : bare.lookup name with
    | none => rfl
    | some c => exact name_bare (mem_bare_of_lookup found)

/-- Arguments are kept where the name is not known, or they do not fit its shape. -/
theorem ofParts_eq_other_iff {name : String} {args : Object} :
    ofParts name args = .other name args ↔
      name ∉ knownNames ∨ ∃ f ∈ forms, f.name = name ∧ f.shape.read? args = none := by
  have typed {c : Command} (known : c.isKnown) : c ≠ .other name args := by
    rintro rfl
    cases known
  constructor
  · intro kept
    unfold ofParts at kept
    split at kept
    case h_1 f found =>
      have mem := List.mem_of_find?_eq_some found
      refine .inr ⟨f, mem, by simpa using List.find?_some found, ?_⟩
      cases read : f.shape.read? args with
      | none => rfl
      | some a =>
        rw [read] at kept
        exact absurd kept (typed (isKnown_make mem a))
    case h_2 unformed =>
      refine .inl fun known => ?_
      rcases List.mem_append.mp known with formed | bareName
      · obtain ⟨f, mem, same⟩ := List.mem_map.mp formed
        exact absurd same (by simpa using List.find?_eq_none.mp unformed f mem)
      · cases found : bare.lookup name with
        | none =>
          obtain ⟨m, mem, rfl⟩ := List.mem_map.mp bareName
          exact absurd (List.lookup_eq_none_iff.mp found m mem) (by simp)
        | some c =>
          rw [found] at kept
          exact absurd kept (typed (isKnown_bare (mem_bare_of_lookup found)))
  · rintro (unknown | ⟨f, mem, rfl, unfit⟩)
    · obtain ⟨unformed, notBare⟩ := not_or.mp (mt List.mem_append.mpr unknown)
      have form : forms.find? (fun f => f.name = name) = none := by
        refine List.find?_eq_none.mpr fun f mem same => unformed ?_
        exact List.mem_map.mpr ⟨f, mem, by simpa using same⟩
      have command : bare.lookup name = none := by
        refine List.lookup_eq_none_iff.mpr fun m mem => bne_iff_ne.mpr fun same => notBare ?_
        exact List.mem_map.mpr ⟨m, mem, same.symm⟩
      rw [ofParts, form, command]
      rfl
    · rw [ofParts, find?_forms mem]
      simp [unfit]

end Command

namespace Message

open Command

/-- The text of a payload is the array of a name and of arguments. -/
inductive Holds (payload name : String) : Object → Prop
  | object {args : Object}
      (spelled : Spelled Tree.maxDepth payload.toList (.array [.text name, .object args])) :
      Holds payload name args
  /-- Null stands for an object without members. -/
  | null (spelled : Spelled Tree.maxDepth payload.toList (.array [.text name, .null])) :
      Holds payload name []

theorem isBlank_of_isSpace {c : Char} (blank : Json.Token.isSpace c) : Text.isBlank c := by
  simp only [Json.Token.isSpace, Bool.or_eq_true, decide_eq_true_eq] at blank
  rcases blank with ((rfl | rfl) | rfl) | rfl <;> rfl

/-- The text of an array begins with a bracket, blanks aside. -/
theorem bracket_of_spelled {room : Nat} {cs : List Char} {items : List Value}
    (spelled : Spelled room cs (.array items)) :
    ∃ blanks rest, cs = blanks ++ '[' :: rest ∧ ∀ c ∈ blanks, Text.isBlank c := by
  generalize array : Value.array items = v at spelled
  induction spelled with
  | @before _ c _ _ blank later ih =>
    obtain ⟨blanks, rest, rfl, all⟩ := ih array
    exact ⟨c :: blanks, rest, rfl, List.forall_mem_cons.mpr ⟨isBlank_of_isSpace blank, all⟩⟩
  | @behind _ c _ _ blank earlier ih =>
    obtain ⟨blanks, rest, rfl, all⟩ := ih array
    exact ⟨blanks, rest ++ [c], by simp, all⟩
  | emptyArray | array => exact ⟨[], _, rfl, by simp⟩
  | null | yes | no | number | text | emptyObject | object => cases array

theorem startsWith_of_spelled {room : Nat} {payload : String} {items : List Value}
    (spelled : Spelled room payload.toList (.array items)) :
    (Text.trimStart payload).startsWith "[" := by
  obtain ⟨blanks, rest, split, blank⟩ := bracket_of_spelled spelled
  have trimmed : Text.trimStart payload = String.ofList ('[' :: rest) := by
    rw [← String.ofList_toList (s := payload), split]
    exact @Text.trimStart_blanks blanks ['['] rest blank (List.forall_mem_singleton.mpr rfl)
      (List.cons_ne_nil '[' [])
  rw [trimmed, String.startsWith_string_iff]
  exact ⟨rest, String.toList_ofList.symm⟩

/-- What a payload holds is read from it. -/
theorem read_iff {payload : String} {c : Command} :
    (Value.ofString? payload).bind Command.ofValue? = some c ↔
      ∃ name args, Holds payload name args ∧ c = ofParts name args := by
  constructor
  · intro read
    obtain ⟨v, whole, decoded⟩ := Option.bind_eq_some_iff.mp read
    have spelled := Value.ofString?_eq_some_iff.mp whole
    obtain ⟨name, args, rfl, rfl | ⟨rfl, rfl⟩⟩ := exists_of_ofValue? decoded
    · exact ⟨name, args, .object spelled, rfl⟩
    · exact ⟨name, [], .null spelled, rfl⟩
  · rintro ⟨name, args, holds, rfl⟩
    cases holds with
    | object spelled =>
      rw [Value.ofString?_eq_some_iff.mpr spelled]
      rfl
    | null spelled =>
      rw [Value.ofString?_eq_some_iff.mpr spelled]
      rfl

/-- The test for a bracket passes whatever holds a command. -/
theorem ofPayload_eq (payload : String) :
    ofPayload payload =
      match (Value.ofString? payload).bind Command.ofValue? with
      | some c => .command c
      | none => .raw payload := by
  unfold ofPayload
  split
  case isTrue => rfl
  case isFalse other =>
    cases read : (Value.ofString? payload).bind Command.ofValue? with
    | none => rfl
    | some c =>
      obtain ⟨name, args, holds, -⟩ := read_iff.mp read
      cases holds with
      | object spelled | null spelled => exact absurd (startsWith_of_spelled spelled) other

/-- A payload is a command exactly when its whole text is the array of a name and of arguments.
The command has the name, and it keeps the arguments where the name is not known or they do not
fit. Every other payload is kept. The test for a bracket is of no consequence. -/
theorem ofPayload_by_grammar (payload : String) :
    (∀ c, ofPayload payload = .command c ↔
        ∃ name args, Holds payload name args ∧ c = ofParts name args) ∧
      (∀ name args, Holds payload name args → (ofParts name args).name = name ∧
        (ofParts name args = .other name args ↔
          name ∉ knownNames ∨ ∃ f ∈ forms, f.name = name ∧ f.shape.read? args = none)) ∧
      ((¬ ∃ name args, Holds payload name args) → ofPayload payload = .raw payload) ∧
      ofPayload payload =
        match (Value.ofString? payload).bind Command.ofValue? with
        | some c => .command c
        | none => .raw payload := by
  refine ⟨fun c => ?_, fun name args _ => ⟨name_ofParts name args, ofParts_eq_other_iff⟩,
    fun other => ?_, ofPayload_eq payload⟩
  · rw [← read_iff, ofPayload_eq]
    cases (Value.ofString? payload).bind Command.ofValue? with
    | none => simp
    | some c' => simp
  · rw [ofPayload_eq]
    cases read : (Value.ofString? payload).bind Command.ofValue? with
    | none => rfl
    | some c =>
      obtain ⟨name, args, holds, -⟩ := read_iff.mp read
      exact absurd ⟨name, args, holds⟩ other

example : ofPayload " [\"Later\", null]\n" = .command (.other "Later" []) := by cbv

example : ofPayload "[\"GetThreads\",\x7b\x7d,1]" = .raw "[\"GetThreads\",\x7b\x7d,1]" := by cbv

end Message
end DebugBridge
