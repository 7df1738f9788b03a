import DebugBridge.Json.Tree
import DebugBridge.Json.Value

/-!
# Reading JSON values

A tree has a value when every token in it denotes something and containers are nested at most
one hundred and twenty-seven deep. Members are sorted by key; of a repeated key the last one
counts.
-/

namespace DebugBridge.Json

namespace Tree

/-- How many containers may stand inside each other, the outermost included. -/
def maxDepth : Nat := 127

mutual

/-- The value of a tree, if its containers fit into the room that is left for them. -/
def value? (room : Nat) : Tree → Option Value
  | .null => some .null
  | .bool b => some (.bool b)
  | .number n => n.map .number
  | .text s => s.map .text
  | .array items => if room = 0 then none else (values? (room - 1) items).map .array
  | .object members =>
    if room = 0 then none
    else (membersValue? (room - 1) members).map fun ms => .object (Object.ofMembers ms)

/-- The values of a list of trees. -/
def values? (room : Nat) : List Tree → Option (List Value)
  | [] => some []
  | t :: ts => do
    let v ← t.value? room
    let vs ← values? room ts
    pure (v :: vs)

/-- The members with their values, in the order written. -/
def membersValue? (room : Nat) : List (Option String × Tree) → Option (List (String × Value))
  | [] => some []
  | (k, t) :: rest => do
    let k ← k
    let v ← t.value? room
    let ms ← membersValue? room rest
    pure ((k, v) :: ms)

end

end Tree

/-- The value that a text is, if it is one. -/
def Value.ofString? (s : String) : Option Value :=
  (Tree.ofString? s).bind (Tree.value? Tree.maxDepth)

end DebugBridge.Json
