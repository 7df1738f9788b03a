/-!
# The shortest decimal of a binary number

A positive binary64 number stands for every real that rounds to it. Of the decimals among those
reals the one with the fewest digits is chosen, and of those the nearest to the number; an exact
tie goes to the even digit. All comparisons are between natural numbers.
-/

namespace DebugBridge.Decimal

/-- A positive binary64 number `mantissa * 2 ^ exponent`. -/
structure Dyadic where
  mantissa : Nat
  exponent : Int
  /-- The gap below the number is half the gap above it. -/
  narrowBelow : Bool
  deriving Repr, DecidableEq

/-- A decimal `digits * 10 ^ exponent`. -/
structure Digits where
  digits : Nat
  exponent : Int
  deriving Repr, DecidableEq

namespace Dyadic

/-- The number whose magnitude has these sixty-four bits, if it is finite and not zero. -/
def ofBits? (bits : UInt64) : Option Dyadic :=
  let biased := ((bits >>> 52) &&& 0x7FF).toNat
  let fraction := (bits &&& 0xFFFFFFFFFFFFF).toNat
  if biased = 0x7FF then none
  else if biased = 0 then if fraction = 0 then none else some ⟨fraction, -1074, false⟩
  else some ⟨0x10000000000000 + fraction, (biased : Int) - 1075, fraction = 0 && 1 < biased⟩

/-- Compares `a * 10 ^ i` with `n * 2 ^ j`. -/
def compareScaled (a : Nat) (i : Int) (n : Nat) (j : Int) : Ordering :=
  compare (a * Nat.pow 10 i.toNat * Nat.pow 2 (-j).toNat)
    (n * Nat.pow 2 j.toNat * Nat.pow 10 (-i).toNat)

/-- Whether the decimal rounds to the number: it lies between the halfway points to the two
neighbours, ends included exactly when the mantissa is even. -/
def readsBack (x : Dyadic) (d : Digits) : Bool :=
  let low := if x.narrowBelow then 4 * x.mantissa - 1 else 4 * x.mantissa - 2
  let high := 4 * x.mantissa + 2
  let even := x.mantissa % 2 = 0
  let atLow := compareScaled d.digits d.exponent low (x.exponent - 2)
  let atHigh := compareScaled d.digits d.exponent high (x.exponent - 2)
  (atLow = .gt || (even && atLow = .eq)) && (atHigh = .lt || (even && atHigh = .eq))

/-- The number as a fraction of naturals. -/
def fraction (x : Dyadic) : Nat × Nat :=
  (x.mantissa * Nat.pow 2 x.exponent.toNat, Nat.pow 2 (-x.exponent).toNat)

/-- The least `k` with the number below `10 ^ k`. -/
def scale (x : Dyadic) : Int :=
  let (num, den) := x.fraction
  if den ≤ num then ((Nat.toDigits 10 (num / den)).length : Int)
  else 1 - ((Nat.toDigits 10 ((den - 1) / num)).length : Int)

/-- The greatest multiple of `10 ^ e` that is not above the number, counted in such units. -/
def below (x : Dyadic) (e : Int) : Nat :=
  let (num, den) := x.fraction
  num * Nat.pow 10 (-e).toNat / (den * Nat.pow 10 e.toNat)

/-- The decimal with unit `10 ^ e` that reads back, of its two candidates the nearer one. -/
def onGrid? (x : Dyadic) (e : Int) : Option Digits :=
  let f := x.below e
  let lower : Digits := ⟨f, e⟩
  let upper : Digits := ⟨f + 1, e⟩
  match x.readsBack lower, x.readsBack upper with
  | true, true =>
    match compareScaled (2 * f + 1) e (2 * x.mantissa) x.exponent with
    | .gt => some lower
    | .lt => some upper
    | .eq => some (if f % 2 = 0 then lower else upper)
  | true, false => some lower
  | false, true => some upper
  | false, false => none

/-- The number itself as a decimal. -/
def exact (x : Dyadic) : Digits :=
  if 0 ≤ x.exponent then ⟨x.mantissa * Nat.pow 2 x.exponent.toNat, 0⟩
  else ⟨x.mantissa * Nat.pow 5 (-x.exponent).toNat, x.exponent⟩

end Dyadic

/-- Moves trailing zeros of the digits into the exponent, at most `room` of them. -/
def Digits.strip : Nat → Digits → Digits
  | 0, d => d
  | room + 1, d =>
    if d.digits ≠ 0 ∧ d.digits % 10 = 0 then strip room ⟨d.digits / 10, d.exponent + 1⟩ else d

/-- The shortest decimal that reads back: one digit is tried first, then two, up to seventeen. -/
def shortest (x : Dyadic) : Digits :=
  let k := x.scale
  let found := (List.range 17).findSome? fun (n : Nat) => x.onGrid? (k - (n + 1))
  Digits.strip 400 (found.getD x.exact)

end DebugBridge.Decimal
