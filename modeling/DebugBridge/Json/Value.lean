import DebugBridge.Json.Number

/-!
# JSON values

An object is a list of members. The readers of this library keep it sorted by key, which is the
order of the keys' bytes, with one member per key; `Object.insert` is the only operation they
build it with. An envelope that is only written may list its members in an order of its own.
-/

namespace DebugBridge.Json

/-- A JSON value. -/
inductive Value where
  | null
  | bool (value : Bool)
  | number (value : Number)
  | text (value : String)
  | array (items : List Value)
  | object (members : List (String × Value))
  deriving Repr, Inhabited

/-- The members of an object. -/
abbrev Object := List (String × Value)

namespace Value

def int64 (n : Int64) : Value := .number (.ofInt64 n)

def nat (n : Nat) : Value := .number (.ofNat n)

def texts (items : List String) : Value := .array (items.map .text)

/-! ## Views -/

/-- The integer that a value is, if it fits sixty-four signed bits. -/
def int64? : Value → Option Int64
  | .number (.whole n) => Number.signed? n
  | _ => none

/-- The natural number below a bound that a value is. -/
def natural? (bound : Nat) : Value → Option Nat
  | .number (.whole n) => if 0 ≤ n ∧ n < bound then some n.toNat else none
  | _ => none

def text? : Value → Option String
  | .text s => some s
  | _ => none

def array? : Value → Option (List Value)
  | .array vs => some vs
  | _ => none

def isNull : Value → Bool
  | .null => true
  | _ => false

mutual

/-- Structural equality; reals are compared by their bits. -/
def beq : Value → Value → Bool
  | .null, .null => true
  | .bool a, .bool b => a == b
  | .number a, .number b => a == b
  | .text a, .text b => a == b
  | .array a, .array b => beqItems a b
  | .object a, .object b => beqMembers a b
  | _, _ => false

def beqItems : List Value → List Value → Bool
  | [], [] => true
  | a :: as, b :: bs => beq a b && beqItems as bs
  | _, _ => false

def beqMembers : List (String × Value) → List (String × Value) → Bool
  | [], [] => true
  | (k, a) :: as, (l, b) :: bs => k == l && beq a b && beqMembers as bs
  | _, _ => false

end

instance : BEq Value := ⟨beq⟩

end Value

namespace Object

/-- Sets a member. A present key keeps its place and loses its old value; a new one goes where
the order of keys puts it. -/
def insert (key : String) (value : Value) : Object → Object
  | [] => [(key, value)]
  | (k, v) :: rest =>
    if key < k then (key, value) :: (k, v) :: rest
    else if key = k then (key, value) :: rest
    else (k, v) :: insert key value rest

/-- The object with the given members; of a repeated key the last value counts. -/
def ofMembers (members : List (String × Value)) : Object :=
  members.foldl (fun object m => object.insert m.1 m.2) []

/-- The value of a key. -/
def get? (object : Object) (key : String) : Option Value := object.lookup key

/-- The members whose values are present, as an object. -/
def ofOptional (members : List (String × Option Value)) : Object :=
  ofMembers (members.filterMap fun m => m.2.map fun v => (m.1, v))

end Object

/-- The object with the given members, sorted by key. -/
def Value.record (members : List (String × Value)) : Value := .object (Object.ofMembers members)

end DebugBridge.Json
