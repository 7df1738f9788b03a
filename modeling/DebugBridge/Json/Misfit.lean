import DebugBridge.Json.Value
import DebugBridge.Text.Quoted

/-!
# Values that do not fit

A reader that expects a certain kind of value says what it found and what it expected.
-/

namespace DebugBridge.Json

/-- Why a value does not fit. -/
inductive Misfit where
  /-- A value of another type. -/
  | wrongType (found : Value) (expected : String)
  /-- A whole number outside the range. -/
  | outOfRange (found : Int) (expected : String)
  /-- A list that ends too early, with the number of items it has. -/
  | tooShort (length : Nat) (expected : String)
  /-- A list with too many items. -/
  | tooLong (length : Nat)
  /-- An object without a member it needs. -/
  | missing (key : String)
  deriving Repr

/-- What a value looks like to a reader that expected another. -/
def Value.describe : Value → String
  | .null => "null"
  | .bool true => "boolean `true`"
  | .bool false => "boolean `false`"
  | .number (.whole n) => "integer `" ++ toString n ++ "`"
  | .number r => "floating point `" ++ r.text ++ "`"
  | .text s => "string " ++ Text.quoted s
  | .array _ => "sequence"
  | .object _ => "map"

/-- The wording of a misfit. -/
def Misfit.message : Misfit → String
  | wrongType found expected => s!"invalid type: {found.describe}, expected {expected}"
  | outOfRange found expected =>
    "invalid value: integer `" ++ toString found ++ "`, expected " ++ expected
  | tooShort length expected => s!"invalid length {length}, expected {expected}"
  | tooLong length => s!"invalid length {length}, expected fewer elements in array"
  | missing key => "missing field `" ++ key ++ "`"

namespace Value

/-- The value as a text. -/
def asText : Value → Except Misfit String
  | .text s => .ok s
  | v => .error (.wrongType v "a string")

/-- The value as a signed integer of sixty-four bits. -/
def asInt64 : Value → Except Misfit Int64
  | .number (.whole n) =>
    match Number.signed? n with
    | some m => .ok m
    | none => .error (.outOfRange n "i64")
  | v => .error (.wrongType v "i64")

/-- The value as an unsigned integer of sixteen bits. -/
def asUInt16 : Value → Except Misfit UInt16
  | .number (.whole n) =>
    if 0 ≤ n ∧ n < UInt16.size then .ok (UInt16.ofNat n.toNat) else .error (.outOfRange n "u16")
  | v => .error (.wrongType v "u16")

/-- The value as a list. -/
def asList {α : Type} (item : Value → Except Misfit α) : Value → Except Misfit (List α)
  | .array items => items.mapM item
  | v => .error (.wrongType v "a sequence")

/-- The value, which may be null instead. -/
def asOptional {α : Type} (read : Value → Except Misfit α) : Value → Except Misfit (Option α)
  | .null => .ok none
  | v => (read v).map some

end Value
end DebugBridge.Json
