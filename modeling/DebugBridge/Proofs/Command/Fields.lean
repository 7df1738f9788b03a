import DebugBridge.Command.Field
import DebugBridge.Proofs.Json.Readable

/-!
# Fields read and written

What a field is written as is read back as the value of the field, for every kind, and a field
that is not written has the value that stands for an absent one. So a record is read back from
the object that it is written as, provided that the keys of its fields are distinct.
-/

namespace DebugBridge.Command

open Json (Value Object Number)

/-! ## Values of a kind -/

theorem int64?_int64 (n : Int64) : (Value.int64 n).int64? = some n :=
  Number.signed?_eq_some_iff.mpr rfl

theorem text?_text (s : String) : (Value.text s).text? = some s := rfl

namespace Thread

theorem ofValue?_toValue (t : Thread) : ofValue? t.toValue = some t := by
  simp [ofValue?, toValue, Value.record, rowParts?, keys, Object.get?_ofMembers, Object.get?_cons,
    integerPart?, textPart?, Value.text?, int64?_int64]

theorem writable_toValue (t : Thread) : t.toValue.Writable 1 :=
  .record (by simp [Value.Writable.int64, Value.Writable.text])

end Thread

namespace StackEntry

theorem ofValue?_toValue (e : StackEntry) : ofValue? e.toValue = some e := by
  simp [ofValue?, toValue, Value.record, rowParts?, Object.get?_ofMembers, Object.get?_cons,
    textPart?, Value.text?]

theorem writable_toValue (e : StackEntry) : e.toValue.Writable 1 :=
  .record (by simp [Value.Writable.text])

end StackEntry

namespace Kind

theorem readList?_map {α : Type} {item? : Value → Option α} {toValue : α → Value}
    (item : ∀ x, item? (toValue x) = some x) (xs : List α) :
    readList? item? (.array (xs.map toValue)) = some xs := by
  simp only [readList?]
  induction xs with
  | nil => rfl
  | cons x xs ih => simp [item, ih]

/-- What a value is written as is read back. -/
theorem read?_of_write? {k : Kind} {x : k.Carrier} {v : Value} (h : k.write? x = some v) :
    k.read? v = some x := by
  cases k with
  | integer => cases h; exact int64?_int64 x
  | text => cases h; rfl
  | flag => cases h; cases x <;> rfl
  | integers => cases h; exact readList?_map int64?_int64 x
  | texts => cases h; exact readList?_map text?_text x
  | optionalInteger =>
    obtain ⟨n, rfl, rfl⟩ := Option.map_eq_some_iff.mp h
    exact congrArg (Option.map some) (int64?_int64 n)
  | optionalIntegers =>
    obtain ⟨ns, rfl, rfl⟩ := Option.map_eq_some_iff.mp h
    exact congrArg (Option.map some) (readList?_map int64?_int64 ns)
  | threads => cases h; exact readList?_map Thread.ofValue?_toValue x
  | stack => cases h; exact readList?_map StackEntry.ofValue?_toValue x

/-- A value that is not written stands for an absent field. -/
theorem eq_zero_of_write? {k : Kind} {x : k.Carrier} (h : k.write? x = none) : x = k.zero := by
  cases k with
  | optionalInteger => exact Option.map_eq_none_iff.mp h
  | optionalIntegers => exact Option.map_eq_none_iff.mp h
  | integer | text | flag | integers | texts | threads | stack => cases h

/-- What a field is written as holds at most two containers inside each other. -/
theorem writable_of_write? {k : Kind} {x : k.Carrier} {v : Value} (h : k.write? x = some v) :
    v.Writable 2 := by
  cases k with
  | integer => cases h; exact .int64 x
  | text => cases h; exact .text x
  | flag => cases h; exact .int64 _
  | integers => cases h; exact .array_map .int64 x
  | texts => cases h; exact .array_map .text x
  | optionalInteger =>
    obtain ⟨n, rfl, rfl⟩ := Option.map_eq_some_iff.mp h
    exact .int64 n
  | optionalIntegers =>
    obtain ⟨ns, rfl, rfl⟩ := Option.map_eq_some_iff.mp h
    exact .array_map .int64 ns
  | threads => cases h; exact .array_map Thread.writable_toValue x
  | stack => cases h; exact .array_map StackEntry.writable_toValue x

end Kind

/-! ## Records -/

namespace Record

/-- A written member is one of the fields with a value that it is written as. -/
theorem exists_of_mem_write {fs : List Field} {r : Record fs} {m : String × Value}
    (h : m ∈ write fs r) : ∃ f ∈ fs, ∃ x : f.kind.Carrier, m.1 = f.key ∧
      f.kind.write? x = some m.2 := by
  induction fs with
  | nil => cases h
  | cons f fs ih =>
    obtain ⟨x, rest⟩ := r
    rcases List.mem_append.mp h with here | later
    · obtain ⟨v, written, rfl⟩ := Option.map_eq_some_iff.mp (Option.mem_toList.mp here)
      exact ⟨f, List.mem_cons_self, x, rfl, written⟩
    · obtain ⟨g, mem, found⟩ := ih later
      exact ⟨g, List.mem_cons_of_mem _ mem, found⟩

theorem key_mem_of_mem_write {fs : List Field} {r : Record fs} {k : String}
    (h : k ∈ (write fs r).map Prod.fst) : k ∈ fs.map Field.key := by
  obtain ⟨m, written, rfl⟩ := List.mem_map.mp h
  obtain ⟨f, mem, _, key, _⟩ := exists_of_mem_write written
  exact key ▸ List.mem_map_of_mem mem

theorem nodup_keys_write {fs : List Field} (distinct : (fs.map Field.key).Nodup)
    (r : Record fs) : ((write fs r).map Prod.fst).Nodup := by
  induction fs with
  | nil => exact List.nodup_nil
  | cons f fs ih =>
    obtain ⟨x, rest⟩ := r
    obtain ⟨fresh, distinct⟩ := List.nodup_cons.mp distinct
    rw [write]
    cases f.kind.write? x with
    | none => exact ih distinct rest
    | some v =>
      exact List.nodup_cons.mpr ⟨fun mem => fresh (key_mem_of_mem_write mem), ih distinct rest⟩

/-- An object in which every field is found as it is written gives the record back. -/
theorem read?_of_get? {fs : List Field} (distinct : (fs.map Field.key).Nodup) {r : Record fs}
    {object : Object} (h : ∀ f ∈ fs, object.get? f.key = Object.get? (write fs r) f.key) :
    read? fs object = some r := by
  induction fs with
  | nil => rfl
  | cons f fs ih =>
    obtain ⟨x, rest⟩ := r
    obtain ⟨fresh, distinct⟩ := List.nodup_cons.mp distinct
    obtain ⟨here, later⟩ := List.forall_mem_cons.mp h
    rw [write] at here later
    cases written : f.kind.write? x with
    | none =>
      simp only [written, Option.map_none, Option.toList_none, List.nil_append] at here later
      rw [Object.get?_eq_none fun mem => fresh (key_mem_of_mem_write mem)] at here
      simp [read?, here, ih distinct later, Kind.eq_zero_of_write? written]
    | some v =>
      simp only [written, Option.map_some, Option.toList_some, List.cons_append, List.nil_append,
        Object.get?_cons, if_true] at here later
      have others : ∀ g ∈ fs, object.get? g.key = Object.get? (write fs rest) g.key := by
        intro g mem
        rw [later g mem, if_neg]
        exact fun same => fresh (same ▸ List.mem_map_of_mem mem)
      simp [read?, here, ih distinct others, Kind.read?_of_write? written]

/-- A record is read back from the object that it is written as. -/
theorem read?_ofMembers_write {fs : List Field} (distinct : (fs.map Field.key).Nodup)
    (r : Record fs) : read? fs (Object.ofMembers (write fs r)) = some r :=
  read?_of_get? distinct fun f _ => Object.get?_ofMembers (nodup_keys_write distinct r) f.key

end Record

namespace Shape

variable {α : Type}

theorem read?_write {s : Shape α} (distinct : (s.fields.map Field.key).Nodup) (a : α) :
    s.read? (s.write a) = some a := by
  rw [read?, write, Record.read?_ofMembers_write distinct, Option.map_some, s.build_parts]

theorem writable_write (s : Shape α) (a : α) : (Value.object (s.write a)).Writable 3 := by
  refine .record fun m mem => ?_
  obtain ⟨f, _, x, _, written⟩ := Record.exists_of_mem_write mem
  exact Kind.writable_of_write? written

end Shape
end DebugBridge.Command
