/-!
# TOML values

Numbers with a fraction and moments in time are kept as written.
-/

namespace DebugBridge.Toml

/-- A TOML value. -/
inductive Value where
  | text (value : String)
  | integer (value : Int64)
  | real (written : String)
  | bool (value : Bool)
  | moment (written : String)
  | array (items : List Value)
  | table (members : List (String × Value))
  deriving Repr, Inhabited

namespace Value

def text? : Value → Option String
  | .text s => some s
  | _ => none

/-- The natural number below a bound that a value is. -/
def natural? (bound : Nat) : Value → Option Nat
  | .integer n => if 0 ≤ n.toInt ∧ n.toInt < bound then some n.toInt.toNat else none
  | _ => none

/-- The parts of a record: a table names them, an array lists them from the first on. Members and
items that are no part are passed over. A moment is a record without any of the parts. -/
def parts? (keys : List String) : Value → Option (List (Option Value))
  | .table members => some (keys.map fun k => members.lookup k)
  | .array items => some (keys.mapIdx fun i _ => items[i]?)
  | .moment _ => some (keys.map fun _ => none)
  | _ => none

end Value
end DebugBridge.Toml
