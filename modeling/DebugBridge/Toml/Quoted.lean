import DebugBridge.Toml.Scalar

/-!
# Texts in a TOML text

A text stands between quotes, in which a backslash escapes, or between apostrophes, in which
nothing does. Between three of either it may have several lines. Each function starts behind the
opening and gives what the text says and what follows the closing.
-/

namespace DebugBridge.Toml.Quoted

/-- The characters that may stand in a line. -/
def isPlain (c : Char) : Bool := c = '\t' || (0x20 ≤ c.toNat && c ≠ '\x7f')

/-- What is read of a text, and what follows it. -/
abbrev Piece := List Char × List Char

/-- The character with a code of so many hexadecimal digits. -/
def code? (places : Nat) (cs : List Char) : Option (Char × List Char) :=
  let ds := cs.take places
  let n := Scalar.valueOf 16 ds
  if ds.length = places && ds.all Scalar.isHex && n.isValidChar then
    some (Char.ofNat n, cs.drop places)
  else none

/-- The character that an escape stands for, behind its backslash. -/
def escape? : List Char → Option (Char × List Char)
  | 'b' :: r => some ('\x08', r)
  | 't' :: r => some ('\t', r)
  | 'n' :: r => some ('\n', r)
  | 'f' :: r => some ('\x0c', r)
  | 'r' :: r => some ('\r', r)
  | '"' :: r => some ('"', r)
  | '\\' :: r => some ('\\', r)
  | 'u' :: r => code? 4 r
  | 'U' :: r => code? 8 r
  | _ => none

/-- What follows a line end, if there is one. -/
def lineEnd? : List Char → Option (List Char)
  | '\n' :: r => some r
  | '\r' :: '\n' :: r => some r
  | _ => none

/-- A text of one line between quotes. -/
def basic : Nat → List Char → Option Piece
  | 0, _ => none
  | steps + 1, cs =>
    match cs with
    | [] => none
    | '"' :: r => some ([], r)
    | '\\' :: r => do
      let (c, r) ← escape? r
      let (cs, r) ← basic steps r
      pure (c :: cs, r)
    | c :: r =>
      if isPlain c then do
        let (cs, r) ← basic steps r
        pure (c :: cs, r)
      else none

/-- A text of one line between apostrophes. -/
def literal (cs : List Char) : Option Piece :=
  let isInside := fun c => isPlain c && c ≠ '\''
  match cs.dropWhile isInside with
  | '\'' :: r => some (cs.takeWhile isInside, r)
  | _ => none

/-- The blanks and line ends that a backslash at the end of a line swallows. -/
def swallow : List Char → List Char
  | ' ' :: r => swallow r
  | '\t' :: r => swallow r
  | '\n' :: r => swallow r
  | '\r' :: '\n' :: r => swallow r
  | cs => cs

/-- What follows a backslash that ends its line. -/
def continued? (cs : List Char) : Option (List Char) :=
  (lineEnd? (cs.dropWhile fun c => c = ' ' || c = '\t')).map swallow

/-- A text of several lines between marks, with or without escapes. Up to two marks may stand
together inside it, also right before its end. A line end counts as a line feed. -/
def long (mark : Char) (escapes : Bool) : Nat → List Char → Option Piece
  | 0, _ => none
  | steps + 1, cs =>
    match cs with
    | [] => none
    | c :: r =>
      if c = mark then
        let marks := cs.takeWhile (· = mark)
        let r := cs.dropWhile (· = mark)
        if marks.length < 3 then do
          let (cs, r) ← long mark escapes steps r
          pure (marks ++ cs, r)
        else if marks.length ≤ 5 then some (marks.drop 3, r)
        else none
      else if escapes && c = '\\' then
        match continued? r with
        | some r => long mark escapes steps r
        | none => do
          let (c, r) ← escape? r
          let (cs, r) ← long mark escapes steps r
          pure (c :: cs, r)
      else
        match lineEnd? cs with
        | some r => do
          let (cs, r) ← long mark escapes steps r
          pure ('\n' :: cs, r)
        | none =>
          if isPlain c then do
            let (cs, r) ← long mark escapes steps r
            pure (c :: cs, r)
          else none

/-- A text of several lines. A line end right behind the opening is not part of it. -/
def longFrom (mark : Char) (escapes : Bool) (cs : List Char) : Option Piece :=
  long mark escapes (cs.length + 1) ((lineEnd? cs).getD cs)

/-- A text of one line. -/
def short? : List Char → Option Piece
  | '"' :: r => basic (r.length + 1) r
  | '\'' :: r => literal r
  | _ => none

/-- A text of any kind. -/
def any? : List Char → Option Piece
  | '"' :: '"' :: '"' :: r => longFrom '"' true r
  | '\'' :: '\'' :: '\'' :: r => longFrom '\'' false r
  | cs => short? cs

end DebugBridge.Toml.Quoted
