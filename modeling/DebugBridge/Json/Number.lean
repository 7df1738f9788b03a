import DebugBridge.Decimal.Shortest

/-!
# Numbers of a JSON text

A number is whole when it is written without fraction and exponent and lies within sixty-four
bits, signed or unsigned. Every other number is a binary64 number, known by its bits; so is `-0`.
-/

namespace DebugBridge.Json

/-- A number of a JSON text. -/
inductive Number where
  | whole (value : Int)
  | real (bits : UInt64)
  deriving Repr, DecidableEq

namespace Number

def ofInt64 (n : Int64) : Number := .whole n.toInt

def ofNat (n : Nat) : Number := .whole n

/-- The integer of sixty-four bits that a whole number is. -/
def signed? (n : Int) : Option Int64 :=
  if -0x8000000000000000 ≤ n ∧ n < 0x8000000000000000 then some (Int64.ofInt n) else none

theorem signed?_eq_some_iff {n : Int} {m : Int64} : signed? n = some m ↔ n = m.toInt := by
  have low := m.le_toInt
  have high := m.toInt_lt
  constructor
  · intro h
    simp only [signed?] at h
    split at h
    · rename_i bounds
      cases h
      rw [Int64.toInt_ofInt_of_le] <;> omega
    · cases h
  · rintro rfl
    simp only [signed?]
    rw [if_pos (by omega), Int64.ofInt_toInt]

/-- Whether a number is zero, of either sign. -/
def isZero : Number → Bool
  | .whole n => n = 0
  | .real bits => bits &&& 0x7FFFFFFFFFFFFFFF = 0

/-- The layout of a real's magnitude: positional while the leading digit stands between the fifth
place after the point and the sixteenth before it, with at least one digit after the point;
otherwise one digit before the point and a signed exponent. -/
def layout (d : Decimal.Digits) : String :=
  let ds := Nat.toDigits 10 d.digits
  let n : Int := ds.length
  let lead := d.exponent + n - 1
  if -5 ≤ lead && lead ≤ 15 then
    if 0 ≤ d.exponent then String.ofList (ds ++ List.replicate d.exponent.toNat '0') ++ ".0"
    else if 0 ≤ lead then
      String.ofList (ds.take (lead + 1).toNat ++ '.' :: ds.drop (lead + 1).toNat)
    else "0." ++ String.ofList (List.replicate (-lead - 1).toNat '0' ++ ds)
  else
    let mark := if lead < 0 then "e-" else "e+"
    let tail := ds.drop 1
    String.ofList (ds.take 1 ++ if tail.isEmpty then [] else '.' :: tail) ++ mark
      ++ toString lead.natAbs

/-- The text of a number. A real is written with the fewest digits that read back. -/
def text : Number → String
  | .whole n => toString n
  | .real bits =>
    let sign := if bits >>> 63 = 1 then "-" else ""
    sign ++ match Decimal.Dyadic.ofBits? bits with
      | some x => layout (Decimal.shortest x)
      | none => "0.0"

/-! ## Reading -/

/-- The parts of a written number: sign, digits before the point, digits after it, and exponent. -/
structure Written where
  negative : Bool
  integer : List Char
  fraction : Option (List Char)
  exponent : Option (Bool × List Char)
  deriving Repr, DecidableEq

/-- The value of a run of decimal digits. -/
def digitsValue (ds : List Char) : Nat := ds.foldl (fun n c => 10 * n + (c.toNat - '0'.toNat)) 0

/-- The longest start made of digits, and the rest. -/
def spanDigits (cs : List Char) : List Char × List Char :=
  (cs.takeWhile Char.isDigit, cs.dropWhile Char.isDigit)

/-- The exponent that a text consists of: a mark, an optional sign and digits. -/
def exponent? : List Char → Option (Option (Bool × List Char))
  | [] => some none
  | mark :: cs =>
    if mark = 'e' || mark = 'E' then
      let (negative, ds) := match cs with
        | '-' :: ds => (true, ds)
        | '+' :: ds => (false, ds)
        | ds => (false, ds)
      if ds.isEmpty || !ds.all Char.isDigit then none else some (some (negative, ds))
    else none

/-- The parts of a number as the grammar has it: no leading zeros, digits on both sides of a
point, digits in an exponent. -/
def written? (cs : List Char) : Option Written :=
  let (negative, cs) := match cs with
    | '-' :: cs => (true, cs)
    | cs => (false, cs)
  let (integer, cs) := spanDigits cs
  if integer.isEmpty || (integer.head? = some '0' && 1 < integer.length) then none
  else match cs with
    | '.' :: cs =>
      let (fraction, cs) := spanDigits cs
      if fraction.isEmpty then none
      else (exponent? cs).map fun e => ⟨negative, integer, some fraction, e⟩
    | cs => (exponent? cs).map fun e => ⟨negative, integer, none, e⟩

/-- Appends digits to a significand while it stays below `2 ^ 64`, and says how many were taken. -/
def gather (significand taken : Nat) : List Char → Nat × Nat
  | [] => (significand, taken)
  | d :: ds =>
    let next := 10 * significand + (d.toNat - '0'.toNat)
    if next < UInt64.size then gather next (taken + 1) ds else (significand, taken)

/-- Divides by `10 ^ 308` until the remaining power of ten is in reach of one division. Zero ends
it early. -/
def lower (f : Float) : Nat → Nat → Float
  | 0, _ => f
  | rounds + 1, e =>
    if e ≤ 308 then f / Float.ofScientific 1 false e
    else if f == 0.0 then f
    else lower (f / Float.ofScientific 1 false 308) rounds (e - 308)

/-- The real near `significand * 10 ^ exponent`: the significand is rounded first, then scaled by
one multiplication or by divisions, each rounded. Nothing is returned beyond the largest real. -/
def scaled? (significand : Nat) (exponent : Int) : Option Float :=
  let f := Float.ofNat significand
  if 0 ≤ exponent then
    if 308 < exponent then if significand = 0 then some f else none
    else
      let product := f * Float.ofScientific 1 false exponent.toNat
      if product.isInf then none else some product
  else some (lower f 4 exponent.natAbs)

/-- The greatest exponent that is kept apart from larger ones. -/
def exponentLimit : Nat := 0x7FFFFFFF

/-- The value of a written number, unless it is too large to be held. -/
def Written.value? (w : Written) : Option Number :=
  let magnitude := digitsValue w.integer
  if w.fraction.isNone && w.exponent.isNone && magnitude < UInt64.size
      && !(w.negative && (magnitude = 0 || 0x8000000000000000 < magnitude)) then
    some (.whole (if w.negative then -magnitude else magnitude))
  else
    let (significand, taken) := gather 0 0 w.integer
    let dropped := w.integer.length - taken
    let (significand, places) := gather significand 0 (w.fraction.getD [])
    let start : Int := dropped - places
    let magnitude? : Option Float :=
      match w.exponent with
      | none => scaled? significand start
      | some (negative, ds) =>
        let e := digitsValue ds
        if exponentLimit < e then
          if significand ≠ 0 && !negative then none else some 0.0
        else scaled? significand (if negative then start - e else start + e)
    magnitude?.map fun f => .real (if w.negative then (-f).toBits else f.toBits)

/-- The number that a text is, if it is one and can be held. -/
def ofChars? (cs : List Char) : Option Number := (written? cs).bind Written.value?

end Number
end DebugBridge.Json
