import DebugBridge.Json.Token
import DebugBridge.Text.Pieces
import DebugBridge.Toml.Value

/-!
# Scalars of a TOML text

Numbers, truth values and moments are runs of letters, digits and a few signs. A run is one of
them as a whole or nothing.
-/

namespace DebugBridge.Toml.Scalar

/-- The characters of which such runs are made. -/
def isSymbol (c : Char) : Bool :=
  c.isAlphanum || c = '_' || c = '+' || c = '-' || c = '.' || c = ':'

/-- The digits of a run in which single underscores may stand between digits. -/
def digits? (isDigit : Char → Bool) (run : List Char) : Option (List Char) :=
  let groups := Text.pieces '_' run
  if groups.all fun g => !g.isEmpty && g.all isDigit then some groups.flatten else none

/-- The digits of a decimal number without useless zeros in front. -/
def decimal? (run : List Char) : Option (List Char) := do
  let ds ← digits? Char.isDigit run
  if ds.head? = some '0' && run.length ≠ 1 then none else some ds

/-- A sign in front of a run, and the rest. -/
def signed : List Char → Bool × List Char
  | '-' :: run => (true, run)
  | '+' :: run => (false, run)
  | run => (false, run)

/-- The value of digits in a base up to sixteen. -/
def valueOf (base : Nat) (ds : List Char) : Nat :=
  ds.foldl (fun n c => base * n + (Json.Token.hexDigit? c).getD 0) 0

def isHex (c : Char) : Bool := (Json.Token.hexDigit? c).isSome

/-- An integer of sixty-four bits. -/
def held? (n : Int) : Option Value :=
  (Json.Number.signed? n).map .integer

/-- The integer that a run is. Bases other than ten are marked and take no sign. -/
def integer? : List Char → Option Value
  | '0' :: 'x' :: run => (digits? isHex run).bind fun ds => held? (valueOf 16 ds)
  | '0' :: 'o' :: run =>
    (digits? (fun c => '0' ≤ c && c ≤ '7') run).bind fun ds => held? (valueOf 8 ds)
  | '0' :: 'b' :: run =>
    (digits? (fun c => c = '0' || c = '1') run).bind fun ds => held? (valueOf 2 ds)
  | run =>
    let (negative, run) := signed run
    (decimal? run).bind fun ds => held? (if negative then -(valueOf 10 ds : Int) else valueOf 10 ds)

/-- A run cut at the first of some characters, which is left out. -/
def cutAt (isMark : Char → Bool) (run : List Char) : List Char × Option (List Char) :=
  (run.takeWhile (!isMark ·),
    match run.dropWhile (!isMark ·) with
    | [] => none
    | _ :: rest => some rest)

/-- Whether a number is beyond the largest that sixty-four bits can hold as a real. -/
def isTooLarge (significand : Nat) (exponent : Int) : Bool :=
  if significand = 0 then false
  else if 400 < exponent then true
  else if exponent < -100000 then false
  else (match exponent with
    | .ofNat e => Float.ofScientific significand false e
    | .negSucc e => Float.ofScientific significand true (e + 1)).isInf

/-- Whether a run is a number with a fraction, an exponent or both. Too large a number is none,
unless it is negative. -/
def isReal (run : List Char) : Bool :=
  let (negative, body) := signed run
  if body = ['i', 'n', 'f'] || body = ['n', 'a', 'n'] then true
  else
    let (mantissa, exponent) := cutAt (fun c => c = 'e' || c = 'E') body
    let (whole, fraction) := cutAt (· = '.') mantissa
    let e? : Option Int := match exponent with
      | none => some 0
      | some e =>
        let (down, e) := signed e
        (digits? Char.isDigit e).map fun ds =>
          let n : Int := min (valueOf 10 ds) 1000000
          if down then -n else n
    let f? := match fraction with
      | none => some []
      | some f => digits? Char.isDigit f
    match decimal? whole, f?, e? with
    | some ds, some fs, some e =>
      (exponent.isSome || fraction.isSome)
        && (negative || !isTooLarge (valueOf 10 (ds ++ fs)) (e - fs.length))
    | _, _, _ => false

/-! ## Moments -/

/-- The number that a run of so many digits is. -/
def fixed? (places : Nat) (run : List Char) : Option Nat :=
  if run.length = places && run.all Char.isDigit then some (valueOf 10 run) else none

/-- How many days a month has. -/
def daysIn (year month : Nat) : Nat :=
  if month = 2 then
    if year % 4 = 0 && (year % 100 ≠ 0 || year % 400 = 0) then 29 else 28
  else if month = 4 || month = 6 || month = 9 || month = 11 then 30
  else 31

/-- Whether a run is a day of the calendar. -/
def isDate (run : List Char) : Bool :=
  match Text.pieces '-' run with
  | [y, m, d] =>
    match fixed? 4 y, fixed? 2 m, fixed? 2 d with
    | some y, some m, some d => 1 ≤ m && m ≤ 12 && 1 ≤ d && d ≤ daysIn y m
    | _, _, _ => false
  | _ => false

/-- Whether a run is a number of two digits below a bound. -/
def isBelow (bound : Nat) (run : List Char) : Bool := (fixed? 2 run).any (· < bound)

/-- Whether a run is a time of day. A minute may have a sixty-first second. -/
def isTime (run : List Char) : Bool :=
  match Text.pieces ':' run with
  | [h, m, s] =>
    let (s, fraction) := cutAt (· = '.') s
    isBelow 24 h && isBelow 60 m && isBelow 61 s
      && fraction.all fun f => !f.isEmpty && f.all Char.isDigit
  | _ => false

/-- Whether a run is a distance from universal time behind its sign. -/
def isOffset (run : List Char) : Bool :=
  match Text.pieces ':' run with
  | [h, m] => isBelow 24 h && isBelow 60 m
  | _ => false

/-- Whether a run is a time of day, with or without the distance from universal time. -/
def isZonedTime (run : List Char) : Bool :=
  match run.getLast? with
  | some 'Z' | some 'z' => isTime run.dropLast
  | _ =>
    match cutAt (fun c => c = '+' || c = '-') run with
    | (time, none) => isTime time
    | (time, some offset) => isTime time && isOffset offset

/-- Whether a run is a moment: a day, a time of day, or both. -/
def isMoment (run : List Char) : Bool :=
  isDate run || isTime run
    || match cutAt (fun c => c = 'T' || c = 't') run with
      | (date, some time) => isDate date && isZonedTime time
      | _ => false

/-- The scalar that a run is. -/
def ofRun? (run : List Char) : Option Value :=
  if run = ['t', 'r', 'u', 'e'] then some (.bool true)
  else if run = ['f', 'a', 'l', 's', 'e'] then some (.bool false)
  else if isMoment run then some (.moment (String.ofList run))
  else if isReal run then some (.real (String.ofList run))
  else integer? run

end DebugBridge.Toml.Scalar
