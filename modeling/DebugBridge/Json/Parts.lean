import DebugBridge.Json.Reader

/-!
# Parts of a record

A record may be written as an object that names its parts or as an array that lists them from the
first on. An object may have other members, which are not looked at, but may not name a part twice;
an array may end early but may not hold more than there are parts.
-/

namespace DebugBridge.Json.Tree

/-- The member with a key, which may be absent but may not be repeated. -/
def part? (members : List (Option String × Tree)) (key : String) : Option (Option Tree) :=
  match members.filter fun m => m.1 = some key with
  | [] => some none
  | [m] => some (some m.2)
  | _ => none

/-- The parts with these keys. -/
def parts? (keys : List String) : Tree → Option (List (Option Tree))
  | .object members =>
    if members.all fun m => m.1.isSome then keys.mapM (part? members) else none
  | .array items =>
    if items.length ≤ keys.length then
      some (items.map some ++ List.replicate (keys.length - items.length) none)
    else none
  | _ => none

/-- The value of a part that holds no other values. -/
def scalar? (t : Tree) : Option Value := t.value? 0

end DebugBridge.Json.Tree
