import DebugBridge.Proofs.Json.Numeral
import DebugBridge.Json.Value

/-!
# Values that a text can denote

The keys of an object that has been read ascend, its numbers fit, and containers are nested no
deeper than the room that the reader has for them. `Value.Readable` says this of a value as a
whole, and `Value.Integral` says that no real occurs in it.
-/

namespace DebugBridge.Json

namespace Object

/-! ## Objects in the order of their keys -/

/-- The keys ascend, so no key occurs twice. -/
def Sorted (object : Object) : Prop := object.Pairwise fun m n => m.1 < n.1

theorem mem_insert {key : String} {value : Value} {object : Object} {m : String × Value}
    (h : m ∈ insert key value object) : m = (key, value) ∨ m ∈ object := by
  induction object with
  | nil => exact .inl (List.mem_singleton.mp h)
  | cons first rest ih =>
    simp only [insert] at h
    split at h
    · exact List.mem_cons.mp h
    · split at h
      · exact (List.mem_cons.mp h).imp_right (List.mem_cons_of_mem _)
      · rcases List.mem_cons.mp h with rfl | later
        · exact .inr List.mem_cons_self
        · exact (ih later).imp_right (List.mem_cons_of_mem _)

theorem Sorted.insert {object : Object} (h : object.Sorted) (key : String) (value : Value) :
    (object.insert key value).Sorted := by
  induction object with
  | nil => exact List.pairwise_singleton _ _
  | cons first rest ih =>
    obtain ⟨ahead, sorted⟩ := List.pairwise_cons.mp h
    simp only [Object.insert]
    split
    · rename_i before
      refine List.pairwise_cons.mpr ⟨fun m mem => ?_, h⟩
      rcases List.mem_cons.mp mem with rfl | later
      · exact before
      · exact String.lt_trans before (ahead m later)
    · rename_i not_before
      split
      · rename_i same
        exact List.pairwise_cons.mpr ⟨fun m mem => same ▸ ahead m mem, sorted⟩
      · rename_i other
        refine List.pairwise_cons.mpr ⟨fun m mem => ?_, ih sorted⟩
        rcases mem_insert mem with rfl | later
        · have le : first.1 ≤ key := String.not_lt.mp not_before
          exact String.not_le.mp fun ge => other (String.le_antisymm ge le)
        · exact ahead m later

/-- The object with further members set, one after the other. -/
def extend (object : Object) (members : List (String × Value)) : Object :=
  members.foldl (fun object m => object.insert m.1 m.2) object

theorem extend_cons (object : Object) (m : String × Value) (members : List (String × Value)) :
    object.extend (m :: members) = (object.insert m.1 m.2).extend members := rfl

theorem ofMembers_eq_extend (members : List (String × Value)) :
    ofMembers members = extend [] members := rfl

theorem mem_extend {members : List (String × Value)} {object : Object} {m : String × Value}
    (h : m ∈ object.extend members) : m ∈ members ∨ m ∈ object := by
  induction members generalizing object with
  | nil => exact .inr h
  | cons first members ih =>
    rcases ih h with here | there
    · exact .inl (List.mem_cons_of_mem _ here)
    · rcases mem_insert there with rfl | before
      · exact .inl List.mem_cons_self
      · exact .inr before

theorem mem_of_mem_ofMembers {members : List (String × Value)} {m : String × Value}
    (h : m ∈ ofMembers members) : m ∈ members :=
  (mem_extend h).resolve_right List.not_mem_nil

theorem Sorted.extend {object : Object} (h : object.Sorted) (members : List (String × Value)) :
    (object.extend members).Sorted := by
  induction members generalizing object with
  | nil => exact h
  | cons m members ih => exact ih (h.insert m.1 m.2)

theorem sorted_ofMembers (members : List (String × Value)) : (ofMembers members).Sorted :=
  Sorted.extend List.Pairwise.nil members

/-- A member whose key comes last goes to the end. -/
theorem insert_of_last {key : String} {value : Value} {object : Object}
    (last : ∀ m ∈ object, m.1 < key) : insert key value object = object ++ [(key, value)] := by
  induction object with
  | nil => rfl
  | cons first rest ih =>
    obtain ⟨here, later⟩ := List.forall_mem_cons.mp last
    have not_before : ¬ key < first.1 := String.lt_asymm here
    have other : key ≠ first.1 := fun same => String.lt_irrefl _ (same ▸ here)
    simp only [insert, not_before, other, if_false, ih later, List.cons_append]

theorem extend_of_sorted {object : Object} {members : List (String × Value)}
    (sorted : Sorted (object ++ members)) : object.extend members = object ++ members := by
  induction members generalizing object with
  | nil => exact (List.append_nil object).symm
  | cons m members ih =>
    have last : ∀ n ∈ object, n.1 < m.1 :=
      fun n mem => (List.pairwise_append.mp sorted).2.2 n mem m List.mem_cons_self
    have split : object ++ m :: members = (object ++ [m]) ++ members := by simp
    rw [split] at sorted ⊢
    rw [extend_cons, insert_of_last last, ih sorted]

/-- Members in the order of their keys are kept as they are. -/
theorem ofMembers_of_sorted {members : List (String × Value)} (sorted : Sorted members) :
    ofMembers members = members :=
  extend_of_sorted sorted

/-! ## Looking up a key -/

theorem get?_cons (m : String × Value) (object : Object) (k : String) :
    get? (m :: object) k = if k = m.1 then some m.2 else object.get? k := by
  obtain ⟨key, value⟩ := m
  by_cases h : k = key
  · simp [get?, h]
  · simp [get?, List.lookup_cons, beq_false_of_ne h, h]

/-- Setting a member changes what is found under its key and nothing else. -/
theorem get?_insert (key : String) (value : Value) (object : Object) (k : String) :
    (object.insert key value).get? k = if k = key then some value else object.get? k := by
  induction object with
  | nil => rw [insert, get?_cons]
  | cons first rest ih =>
    simp only [insert]
    split
    · rw [get?_cons]
    · split
      · rename_i same
        rw [get?_cons, get?_cons]
        split <;> simp_all
      · rename_i other
        rw [get?_cons, get?_cons, ih]
        split
        · rename_i here
          rw [if_neg (here ▸ Ne.symm other)]
        · rfl

theorem get?_eq_none {object : Object} {k : String} (h : k ∉ object.map Prod.fst) :
    object.get? k = none := by
  refine List.lookup_eq_none_iff.mpr fun m mem => ?_
  have other : k ≠ m.1 := fun same => h (same ▸ List.mem_map_of_mem mem)
  simpa using other

theorem get?_extend {members : List (String × Value)}
    (distinct : (members.map Prod.fst).Nodup) (object : Object) (k : String) :
    (object.extend members).get? k = (get? members k).or (object.get? k) := by
  induction members generalizing object with
  | nil => rfl
  | cons m members ih =>
    obtain ⟨fresh, distinct⟩ := List.nodup_cons.mp distinct
    rw [extend_cons, ih distinct, get?_insert, get?_cons]
    split
    · rename_i here
      rw [here, get?_eq_none fresh]
      rfl
    · rfl

/-- Of members with distinct keys every one is found. -/
theorem get?_ofMembers {members : List (String × Value)}
    (distinct : (members.map Prod.fst).Nodup) (k : String) :
    (ofMembers members).get? k = get? members k := by
  rw [ofMembers_eq_extend, get?_extend distinct]
  exact Option.or_none

end Object

namespace Value

/-- A value that a text can denote to a reader with room for some containers inside each
other. -/
inductive Readable : Nat → Value → Prop
  | null {room : Nat} : Readable room .null
  | bool {room : Nat} (b : Bool) : Readable room (.bool b)
  | number {room : Nat} {n : Number} (fits : n.Fits) : Readable room (.number n)
  | text {room : Nat} (s : String) : Readable room (.text s)
  | array {room : Nat} {items : List Value} (readable : ∀ v ∈ items, Readable room v) :
      Readable (room + 1) (.array items)
  | object {room : Nat} {members : Object} (sorted : members.Sorted)
      (readable : ∀ m ∈ members, Readable room m.2) : Readable (room + 1) (.object members)

/-- More room does not make a value unreadable. -/
theorem Readable.mono {room : Nat} {v : Value} (h : v.Readable room) {more : Nat}
    (le : room ≤ more) : v.Readable more := by
  induction h generalizing more with
  | null => exact .null
  | bool b => exact .bool b
  | number fits => exact .number fits
  | text s => exact .text s
  | array _ ih =>
    obtain ⟨n, rfl⟩ := Nat.exists_eq_add_of_le' (Nat.le_of_add_left_le le)
    exact .array fun v mem => ih v mem (Nat.le_of_succ_le_succ le)
  | object sorted _ ih =>
    obtain ⟨n, rfl⟩ := Nat.exists_eq_add_of_le' (Nat.le_of_add_left_le le)
    exact .object sorted fun m mem => ih m mem (Nat.le_of_succ_le_succ le)

/-- A value without reals. -/
inductive Integral : Value → Prop
  | null : Integral .null
  | bool (b : Bool) : Integral (.bool b)
  | whole (n : Int) : Integral (.number (.whole n))
  | text (s : String) : Integral (.text s)
  | array {items : List Value} (integral : ∀ v ∈ items, Integral v) : Integral (.array items)
  | object {members : Object} (integral : ∀ m ∈ members, Integral m.2) :
      Integral (.object members)

/-- A value that can be written so that a reader takes it back. -/
structure Writable (room : Nat) (v : Value) : Prop where
  readable : v.Readable room
  integral : v.Integral

namespace Writable

variable {room : Nat}

theorem mono {v : Value} (h : v.Writable room) {more : Nat} (le : room ≤ more) :
    v.Writable more := ⟨h.readable.mono le, h.integral⟩

theorem int64 (n : Int64) : (Value.int64 n).Writable room :=
  ⟨.number (Number.fits_ofInt64 n), .whole n.toInt⟩

theorem text (s : String) : (Value.text s).Writable room := ⟨.text s, .text s⟩

theorem array {items : List Value} (h : ∀ v ∈ items, v.Writable room) :
    (Value.array items).Writable (room + 1) :=
  ⟨.array fun v mem => (h v mem).readable, .array fun v mem => (h v mem).integral⟩

theorem array_map {α : Type} {toValue : α → Value} (h : ∀ x, (toValue x).Writable room)
    (xs : List α) : (Value.array (xs.map toValue)).Writable (room + 1) := by
  refine array fun v mem => ?_
  obtain ⟨x, _, rfl⟩ := List.mem_map.mp mem
  exact h x

theorem record {members : List (String × Value)} (h : ∀ m ∈ members, m.2.Writable room) :
    (Value.record members).Writable (room + 1) where
  readable := .object (Object.sorted_ofMembers members) fun m mem =>
    (h m (Object.mem_of_mem_ofMembers mem)).readable
  integral := .object fun m mem => (h m (Object.mem_of_mem_ofMembers mem)).integral

theorem empty : (Value.object []).Writable (room + 1) :=
  ⟨.object List.Pairwise.nil (by simp), .object (by simp)⟩

end Writable
end Value
end DebugBridge.Json
