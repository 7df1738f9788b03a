import DebugBridge.Proofs.Command.Decoding
import Mathlib.Logic.Relation

/-!
# Arguments that say the same

A peer may send members for which a command has no field, may leave out a member that has the zero
value of its field, and may write a flag as a truth value or as a number. A `Change` is one of
these. What a field finds in an object is not altered by a change, so any number of them, in any
order, leaves the command as it is (`Message.decodes_changed_arguments`).
-/

namespace DebugBridge

open Json (Value Object Number Tree)

namespace Json.Object

/-- The object without the member of a key. -/
def erase (object : Object) (key : String) : Object := object.filter fun m => m.1 ≠ key

/-- Taking a member away changes what is found under its key and nothing else. -/
theorem get?_erase (object : Object) (key k : String) :
    (object.erase key).get? k = if k = key then none else object.get? k := by
  induction object with
  | nil => simp [erase, get?]
  | cons m rest ih =>
    rw [get?_cons]
    by_cases dropped : m.1 = key
    · rw [erase, List.filter_cons_of_neg (by simpa using dropped)]
      refine Eq.trans ih ?_
      split
      · rfl
      · rename_i other
        rw [if_neg fun same => other (same.trans dropped)]
    · rw [erase, List.filter_cons_of_pos (by simpa using dropped), get?_cons]
      split
      · rename_i here
        rw [if_neg fun same => dropped (here.symm.trans same)]
      · exact ih

end Json.Object

namespace Command

/-! ## Changes of arguments -/

/-- The truth that the value of a flag tells. A number tells whether it is other than zero, and
null tells nothing true. -/
inductive Tells : Value → Bool → Prop
  | bool (b : Bool) : Tells (.bool b) b
  | number (n : Number) : Tells (.number n) (!n.isZero)
  | null : Tells .null false

/-- The values that say of a field what its absence says. -/
inductive IsZero : Kind → Value → Prop
  | integer : IsZero .integer (.number (.whole 0))
  | text : IsZero .text (.text "")
  | flag {v : Value} (untrue : Tells v false) : IsZero .flag v
  | integers : IsZero .integers (.array [])
  | texts : IsZero .texts (.array [])
  | optionalInteger : IsZero .optionalInteger .null
  | optionalIntegers : IsZero .optionalIntegers .null
  | threads : IsZero .threads (.array [])
  | stack : IsZero .stack (.array [])

/-- The keys of the rows in a field that lists rows. -/
inductive HasRows : Kind → List String → Prop
  | threads : HasRows .threads Thread.keys
  | stack : HasRows .stack ["description"]

/-- A change of arguments that have these fields. -/
inductive Change (fields : List Field) : Object → Object → Prop
  /-- A member is set that belongs to no field. -/
  | add (args : Object) {key : String} (value : Value) (foreign : key ∉ fields.map Field.key) :
      Change fields args (args.insert key value)
  /-- The member of a field is left out that has the zero value of its kind. -/
  | leaveOut {args : Object} {f : Field} {v : Value} (field : f ∈ fields)
      (found : args.get? f.key = some v) (zero : IsZero f.kind v) :
      Change fields args (args.erase f.key)
  /-- A flag is written as another value that tells the same. -/
  | rewriteFlag {args : Object} {f : Field} {v w : Value} {b : Bool} (field : f ∈ fields)
      (flag : f.kind = .flag) (found : args.get? f.key = some v) (old : Tells v b)
      (new : Tells w b) : Change fields args (args.insert f.key w)
  /-- A member is set in a row of a field, that belongs to no part of the row. -/
  | addToRow {args : Object} {f : Field} {front behind : List Value} {row : Object}
      {keys : List String} {key : String} (value : Value) (field : f ∈ fields)
      (rows : HasRows f.kind keys)
      (found : args.get? f.key = some (.array (front ++ .object row :: behind)))
      (foreign : key ∉ keys) :
      Change fields args
        (args.insert f.key (.array (front ++ .object (row.insert key value) :: behind)))

/-! ## What fields find -/

namespace Kind

theorem readFlag?_of_tells {v : Value} {b : Bool} (tells : Tells v b) : readFlag? v = some b := by
  cases tells <;> rfl

theorem read?_of_isZero {k : Kind} {v : Value} (zero : IsZero k v) : k.read? v = some k.zero := by
  cases zero with
  | flag untrue => exact readFlag?_of_tells untrue
  | integer | text | integers | texts | optionalInteger | optionalIntegers | threads | stack => rfl

theorem readList?_congr {α : Type} {item? : Value → Option α} {v w : Value}
    (same : item? v = item? w) (front behind : List Value) :
    readList? item? (.array (front ++ v :: behind)) =
      readList? item? (.array (front ++ w :: behind)) := by
  simp only [readList?, List.mapM_append, List.mapM_cons, same]

/-- The parts of a row are found whatever else the row holds. -/
theorem rowParts?_insert {keys : List String} {key : String} (foreign : key ∉ keys) (row : Object)
    (value : Value) : rowParts? keys (.object (row.insert key value)) =
      rowParts? keys (.object row) := by
  refine congrArg some (List.map_congr_left fun k mem => ?_)
  rw [Object.get?_insert, if_neg]
  exact fun same => foreign (same ▸ mem)

theorem read?_addToRow {k : Kind} {keys : List String} (rows : HasRows k keys) {key : String}
    (foreign : key ∉ keys) (row : Object) (value : Value) (front behind : List Value) :
    k.read? (.array (front ++ .object (row.insert key value) :: behind)) =
      k.read? (.array (front ++ .object row :: behind)) := by
  cases rows with
  | threads =>
    refine readList?_congr ?_ front behind
    rw [Thread.ofValue?, Thread.ofValue?, rowParts?_insert foreign]
  | stack =>
    refine readList?_congr ?_ front behind
    rw [StackEntry.ofValue?, StackEntry.ofValue?, rowParts?_insert foreign]

end Kind

/-- The value that a field finds in an object. -/
def Field.find? (f : Field) (object : Object) : Option f.kind.Carrier :=
  match object.get? f.key with
  | none => some f.kind.zero
  | some v => f.kind.read? v

/-- A record is what its fields find. -/
theorem Record.read?_congr {fs : List Field} {object other : Object}
    (same : ∀ f ∈ fs, f.find? other = f.find? object) : read? fs other = read? fs object := by
  induction fs with
  | nil => rfl
  | cons f fs ih =>
    obtain ⟨here, later⟩ := List.forall_mem_cons.mp same
    have found (o : Object) : read? (f :: fs) o =
        (f.find? o).bind fun value => (read? fs o).bind fun rest => some (value, rest) := by
      rw [read?, Field.find?]
      cases o.get? f.key <;> rfl
    rw [found, found, here, ih later]

/-- A field finds a new value only under its own key. -/
theorem Field.find?_of_get? {f g : Field} {fields : List Field}
    (distinct : (fields.map Field.key).Nodup) (field : f ∈ fields) (mem : g ∈ fields)
    {args changed : Object} (others : ∀ k, k ≠ f.key → changed.get? k = args.get? k)
    (own : f.find? changed = f.find? args) : g.find? changed = g.find? args := by
  by_cases same : g.key = f.key
  · rwa [List.inj_on_of_nodup_map distinct mem field same]
  · rw [find?, find?, others g.key same]

variable {fields : List Field} {args changed : Object}

/-- No field finds another value after a change. -/
theorem Change.find?_eq (distinct : (fields.map Field.key).Nodup)
    (change : Change fields args changed) {g : Field} (mem : g ∈ fields) :
    g.find? changed = g.find? args := by
  cases change with
  | @add key value foreign =>
    have other : g.key ≠ key := fun same => foreign (same ▸ List.mem_map_of_mem mem)
    rw [Field.find?, Field.find?, Object.get?_insert, if_neg other]
  | @leaveOut f v field found zero =>
    refine Field.find?_of_get? distinct field mem (fun k other => ?_) ?_
    · rw [Object.get?_erase, if_neg other]
    · simp only [Field.find?, Object.get?_erase, if_true, found, Kind.read?_of_isZero zero]
  | @rewriteFlag f v w b field flag found old new =>
    refine Field.find?_of_get? distinct field mem (fun k other => ?_) ?_
    · rw [Object.get?_insert, if_neg other]
    · obtain ⟨key, kind⟩ := f
      cases flag
      simp only [Field.find?, Object.get?_insert, if_true, found, Kind.read?,
        Kind.readFlag?_of_tells old, Kind.readFlag?_of_tells new]
  | @addToRow f front behind row keys key value field rows found foreign =>
    refine Field.find?_of_get? distinct field mem (fun k other => ?_) ?_
    · rw [Object.get?_insert, if_neg other]
    · simp only [Field.find?, Object.get?_insert, if_true, found,
        Kind.read?_addToRow rows foreign]

/-- A record is read alike after any number of changes. -/
theorem read?_of_changes (distinct : (fields.map Field.key).Nodup)
    (changes : Relation.ReflTransGen (Change fields) args changed) :
    Record.read? fields changed = Record.read? fields args := by
  induction changes with
  | refl => rfl
  | tail _ change ih => rw [← ih, Record.read?_congr fun f mem => change.find?_eq distinct mem]

/-- A typed command is made of what its fields find. -/
theorem ofParts_of_read?_eq {f : Form} (mem : f ∈ forms) (typed : (ofParts f.name args).isKnown)
    (same : f.shape.read? changed = f.shape.read? args) :
    ofParts f.name changed = ofParts f.name args := by
  rw [ofParts, find?_forms mem] at typed ⊢
  rw [ofParts, find?_forms mem]
  dsimp only at typed ⊢
  rw [same]
  cases read : f.shape.read? args with
  | none =>
    rw [read] at typed
    cases typed
  | some a => rfl

end Command

namespace Message

open Command

/-- A payload that holds changed arguments is received as the command that was made of the
arguments before, when that is typed. -/
theorem decodes_changed_arguments {f : Form} (mem : f ∈ forms) {args changed : Object}
    (typed : (ofParts f.name args).isKnown)
    (changes : Relation.ReflTransGen (Change f.shape.fields) args changed) :
    ofParts f.name changed = ofParts f.name args ∧
      ∀ payload, Holds payload f.name changed →
        ofPayload payload = .command (ofParts f.name args) := by
  have read := read?_of_changes (fields_distinct mem) changes
  have same := ofParts_of_read?_eq mem typed (congrArg (Option.map f.shape.build) read)
  refine ⟨same, fun payload holds => ?_⟩
  rw [ofPayload_eq, read_iff.mpr ⟨f.name, changed, holds, rfl⟩, same]

/-- A tracer is opened by a truth value as by a number, without the null that stands for no thread,
and with a member that windows do not have. -/
theorem tracer_opened_by_truth_value :
    let form : Form := ⟨"OpenWindow", _, Window.shape, .openWindow⟩
    let args : Object :=
      [("debugger", .number (.whole 1)), ("tid", .null), ("token", .number (.whole 7))]
    let changed : Object :=
      [("debugger", .bool true), ("later", .array []), ("token", .number (.whole 7))]
    let payload := "[\"OpenWindow\",\x7b\"token\":7,\"later\":[],\"debugger\":true\x7d]"
    form ∈ forms ∧ (ofParts form.name args).isKnown ∧
      Relation.ReflTransGen (Change form.shape.fields) args changed ∧
      Holds payload form.name changed ∧ ofPayload payload = .command (ofParts form.name args) := by
  intro form args changed payload
  have mem : form ∈ forms := by simp [forms, form]
  have typed : (ofParts form.name args).isKnown := rfl
  have flag : Change form.shape.fields args
      [("debugger", .bool true), ("tid", .null), ("token", .number (.whole 7))] :=
    .rewriteFlag (f := ⟨"debugger", .flag⟩) (by decide) rfl rfl (.number (.whole 1)) (.bool true)
  have thread : Change form.shape.fields
      [("debugger", .bool true), ("tid", .null), ("token", .number (.whole 7))]
      [("debugger", .bool true), ("token", .number (.whole 7))] :=
    .leaveOut (f := ⟨"tid", .optionalInteger⟩) (by decide) rfl .optionalInteger
  have later : Change form.shape.fields
      [("debugger", .bool true), ("token", .number (.whole 7))] changed :=
    @Change.add _ _ "later" (.array []) (by decide)
  have changes : Relation.ReflTransGen (Change form.shape.fields) args changed :=
    ((Relation.ReflTransGen.single flag).tail thread).tail later
  have tokens : Json.Token.ofChars? payload.toList =
      some [.openArray, .text (some "OpenWindow"), .comma, .openObject, .text (some "token"),
        .colon, .number (some (.whole 7)), .comma, .text (some "later"), .colon, .openArray,
        .closeArray, .comma, .text (some "debugger"), .colon, .bool true, .closeObject,
        .closeArray] := by
    decide
  have read : Value.ofString? payload = some (.array [.text "OpenWindow", .object changed]) := by
    rw [Value.ofString?, Tree.ofString?, tokens]
    rfl
  have holds : Holds payload form.name changed := .object (Value.ofString?_eq_some_iff.mp read)
  exact ⟨mem, typed, changes, holds, (decodes_changed_arguments mem typed changes).2 payload holds⟩

end Message
end DebugBridge
