import DebugBridge.Json.Value

/-!
# Fields of command arguments

A field has a key and a kind. The kind fixes which values the field may have, how they are read
and written, and the zero value that stands for an absent field. A record assigns a value to each
field of a list; reading one never looks at other members of the object.
-/

namespace DebugBridge.Command

open Json (Value Object)

/-- A thread as the interpreter lists it. -/
structure Thread where
  tid : Int64
  description : String
  state : String
  flags : String
  treq : String
  deriving Repr, DecidableEq

/-- One level of the stack as the interpreter lists it. -/
structure StackEntry where
  description : String
  deriving Repr, DecidableEq

/-- Kinds of fields. -/
inductive Kind where
  | integer
  | text
  | flag
  | integers
  | texts
  | optionalInteger
  | optionalIntegers
  | threads
  | stack
  deriving Repr, DecidableEq

/-- A field of a command's arguments. -/
structure Field where
  key : String
  kind : Kind
  deriving Repr, DecidableEq

/-- The parts of a row with these keys: an object names them, an array lists them from the first
on. Parts may be absent, but an array may not hold more. -/
def rowParts? (keys : List String) : Value → Option (List (Option Value))
  | .object members => some (keys.map (Object.get? members))
  | .array items =>
    if items.length ≤ keys.length then
      some (items.map some ++ List.replicate (keys.length - items.length) none)
    else none
  | _ => none

/-- A part that is an integer, or absent. -/
def integerPart? : Option Value → Option Int64
  | none => some 0
  | some v => v.int64?

/-- A part that is a text, or absent. -/
def textPart? : Option Value → Option String
  | none => some ""
  | some v => v.text?

namespace Thread

def keys : List String := ["tid", "description", "state", "flags", "Treq"]

def ofValue? (v : Value) : Option Thread := do
  match ← rowParts? keys v with
  | [tid, description, state, flags, treq] =>
    pure ⟨← integerPart? tid, ← textPart? description, ← textPart? state, ← textPart? flags,
      ← textPart? treq⟩
  | _ => none

def toValue (t : Thread) : Value :=
  .record [("tid", .int64 t.tid), ("description", .text t.description), ("state", .text t.state),
    ("flags", .text t.flags), ("Treq", .text t.treq)]

end Thread

namespace StackEntry

def ofValue? (v : Value) : Option StackEntry := do
  match ← rowParts? ["description"] v with
  | [description] => pure ⟨← textPart? description⟩
  | _ => none

def toValue (e : StackEntry) : Value := .record [("description", .text e.description)]

end StackEntry

namespace Kind

/-- The values of a field of a kind. -/
abbrev Carrier : Kind → Type
  | integer => Int64
  | text => String
  | flag => Bool
  | integers => List Int64
  | texts => List String
  | optionalInteger => Option Int64
  | optionalIntegers => Option (List Int64)
  | threads => List Thread
  | stack => List StackEntry

/-- The value that stands for an absent field. -/
def zero : (k : Kind) → k.Carrier
  | integer => (0 : Int64)
  | text => ""
  | flag => false
  | integers => ([] : List Int64)
  | texts => ([] : List String)
  | optionalInteger => (none : Option Int64)
  | optionalIntegers => (none : Option (List Int64))
  | threads => ([] : List Thread)
  | stack => ([] : List StackEntry)

/-- A flag may be a truth value, a number that is zero or not, or null for false. -/
def readFlag? : Value → Option Bool
  | .bool b => some b
  | .null => some false
  | .number n => some !n.isZero
  | _ => none

/-- A list whose items are all read. -/
def readList? {α : Type} (item? : Value → Option α) : Value → Option (List α)
  | .array items => items.mapM item?
  | _ => none

/-- A value that may be null. -/
def readOptional? {α : Type} (item? : Value → Option α) : Value → Option (Option α)
  | .null => some none
  | v => (item? v).map some

/-- Reads the value of a field. -/
def read? : (k : Kind) → Value → Option k.Carrier
  | integer => Value.int64?
  | text => Value.text?
  | flag => readFlag?
  | integers => readList? Value.int64?
  | texts => readList? Value.text?
  | optionalInteger => readOptional? Value.int64?
  | optionalIntegers => readOptional? (readList? Value.int64?)
  | threads => readList? Thread.ofValue?
  | stack => readList? StackEntry.ofValue?

/-- Writes the value of a field. Optional fields without a value are not written. -/
def write? : (k : Kind) → k.Carrier → Option Value
  | integer, n => some (.int64 n)
  | text, s => some (.text s)
  | flag, b => some (.int64 (if b then 1 else 0))
  | integers, ns => some (.array (ns.map .int64))
  | texts, ss => some (.texts ss)
  | optionalInteger, n => n.map .int64
  | optionalIntegers, ns => ns.map fun ns => .array (ns.map .int64)
  | threads, ts => some (.array (ts.map Thread.toValue))
  | stack, es => some (.array (es.map StackEntry.toValue))

end Kind

/-- A value for each field of a list. -/
abbrev Record : List Field → Type
  | [] => Unit
  | f :: fs => f.kind.Carrier × Record fs

namespace Record

/-- Reads the fields of an object. Absent members give zero values; a member that does not fit
its field gives nothing. -/
def read? : (fs : List Field) → Object → Option (Record fs)
  | [], _ => some ()
  | f :: fs, object => do
    let value ← match object.get? f.key with
      | none => some f.kind.zero
      | some v => f.kind.read? v
    let rest ← read? fs object
    pure (value, rest)

/-- The members that the fields are written as, in the order of the fields. -/
def write : (fs : List Field) → Record fs → List (String × Value)
  | [], _ => []
  | f :: fs, (value, rest) =>
    ((f.kind.write? value).map fun v => (f.key, v)).toList ++ write fs rest

end Record

/-- How the arguments of a command are laid out: their fields, and the value they make up. -/
structure Shape (α : Type) where
  fields : List Field
  build : Record fields → α
  parts : α → Record fields
  build_parts : ∀ a, build (parts a) = a := by intro a; rfl

namespace Shape

variable {α : Type}

/-- Reads arguments from an object. -/
def read? (s : Shape α) (object : Object) : Option α := (Record.read? s.fields object).map s.build

/-- Writes arguments as an object. -/
def write (s : Shape α) (a : α) : Object := Object.ofMembers (Record.write s.fields (s.parts a))

end Shape
end DebugBridge.Command
