import DebugBridge.Json.Misfit

/-!
# Forms

A form says how a record is read from a value: from an object by the keys of its slots, or from a
list by their order. Members of an object that belong to no slot are passed over. Members are
judged in the order in which the object has them, and only then are slots found empty; a list is
judged item by item.
-/

namespace DebugBridge.Json

/-- A part of a record. -/
structure Slot (α : Type) where
  key : String
  read : Value → Except Misfit α
  /-- The part of an object that has no such member, unless it must have one. -/
  absent : Option α
  /-- The part of a list that ends before it, unless it must reach so far. -/
  beyond : Option α

namespace Slot

variable {α : Type}

/-- A part that must be there. -/
def required (key : String) (read : Value → Except Misfit α) : Slot α := ⟨key, read, none, none⟩

/-- A part that may be left out of an object, or be null, but has its place in a list. -/
def placed (key : String) (read : Value → Except Misfit α) : Slot (Option α) :=
  ⟨key, Value.asOptional read, some none, none⟩

/-- A part that may be left out, or be null. -/
def optional (key : String) (read : Value → Except Misfit α) : Slot (Option α) :=
  ⟨key, Value.asOptional read, some none, some none⟩

end Slot

/-- How a record is read. -/
structure Form (α : Type) where
  /-- How many slots there are. -/
  size : Nat
  /-- What is wrong with a member of an object. -/
  misfit? : String × Value → Option Misfit
  /-- The record in an object without misfits. -/
  ofObject : Object → Except Misfit α
  /-- The record at the start of a list, and what follows it. The text says what was expected. -/
  ofItems : String → List Value → Except Misfit (α × List Value)

namespace Form

variable {α β : Type}

/-- The form without slots. -/
def empty (a : α) : Form α := ⟨0, fun _ => none, fun _ => .ok a, fun _ items => .ok (a, items)⟩

/-- A form with one more slot behind the others. -/
def slot (form : Form (α → β)) (s : Slot α) : Form β where
  size := form.size + 1
  misfit? m :=
    if m.1 = s.key then
      match s.read m.2 with
      | .ok _ => none
      | .error e => some e
    else form.misfit? m
  ofObject members := do
    let f ← form.ofObject members
    match Object.get? members s.key, s.absent with
    | some v, _ => f <$> s.read v
    | none, some a => pure (f a)
    | none, none => throw (.missing s.key)
  ofItems expected items := do
    let (f, rest) ← form.ofItems expected items
    match rest, s.beyond with
    | v :: rest, _ => do
      let a ← s.read v
      pure (f a, rest)
    | [], some a => pure (f a, [])
    | [], none => throw (.tooShort form.size expected)

/-- What a list of a form must be. -/
def expectation (form : Form α) (name : String) : String :=
  s!"struct {name} with {form.size} " ++ if form.size = 1 then "element" else "elements"

/-- Reads a record of a form. The name is told when the value does not fit. -/
def read (form : Form α) (name : String) : Value → Except Misfit α
  | .object members =>
    match members.findSome? form.misfit? with
    | some e => .error e
    | none => form.ofObject members
  | .array items => do
    let (a, rest) ← form.ofItems (form.expectation name) items
    if rest.isEmpty then pure a else throw (.tooLong items.length)
  | v => .error (.wrongType v s!"struct {name}")

end Form
end DebugBridge.Json
