import DebugBridge.Json.Number

/-!
# Tokens of a JSON text

A text is cut into tokens by a machine that takes one character at a time, so what it does on a
joined text is what it does on the parts in turn (`scan_append`). Escapes and numbers are read
here. A token whose form is right may still denote nothing: half of a surrogate pair, or a number
too large to be held. Such a token has an absent content, which matters only to a reader that
wants it.
-/

namespace DebugBridge.Json

/-- A token. Contents are absent where the form is right and nothing is denoted. -/
inductive Token where
  | openArray
  | closeArray
  | openObject
  | closeObject
  | comma
  | colon
  | null
  | bool (value : Bool)
  | number (content : Option Number)
  | text (content : Option String)
  deriving Repr, DecidableEq

namespace Token

/-- A piece of a written text: a character, or one sixteen-bit unit given by an escape. -/
inductive Piece where
  | char (c : Char)
  | unit (code : Nat)
  deriving Repr, DecidableEq

/-- The characters that pieces denote: a unit outside the surrogates is a character, and a leading
surrogate takes the trailing one that must follow it. -/
def content? : List Piece → Option (List Char)
  | [] => some []
  | .char c :: rest => (content? rest).map (c :: ·)
  | .unit u :: rest =>
    if u < 0xD800 || 0xDFFF < u then (content? rest).map (Char.ofNat u :: ·)
    else if 0xDC00 ≤ u then none
    else match rest with
      | .unit l :: rest =>
        if 0xDC00 ≤ l && l ≤ 0xDFFF then
          (content? rest).map (Char.ofNat (0x10000 + (u - 0xD800) * 0x400 + (l - 0xDC00)) :: ·)
        else none
      | _ => none

/-- Where the machine stands. Pieces and characters are collected latest first. -/
inductive Mode where
  | between
  | word (letters : List Char)
  | numeral (symbols : List Char)
  | inText (pieces : List Piece)
  | escape (pieces : List Piece)
  | hexadecimal (pieces : List Piece) (due : Nat) (code : Nat)
  deriving Repr, DecidableEq

/-- The four blanks of the grammar. -/
def isSpace (c : Char) : Bool := c = ' ' || c = '\t' || c = '\n' || c = '\r'

/-- The characters of which numbers are made. -/
def isNumeral (c : Char) : Bool :=
  c.isDigit || c = '-' || c = '+' || c = '.' || c = 'e' || c = 'E'

/-- The token that a run of lower-case letters is. -/
def ofWord? (letters : List Char) : Option Token :=
  if letters = ['n', 'u', 'l', 'l'] then some .null
  else if letters = ['t', 'r', 'u', 'e'] then some (.bool true)
  else if letters = ['f', 'a', 'l', 's', 'e'] then some (.bool false)
  else none

/-- The token that a run of numeral characters is. -/
def ofNumeral? (symbols : List Char) : Option Token :=
  (Number.written? symbols).map fun w => .number w.value?

/-- The token of a text whose pieces are complete. -/
def ofPieces (pieces : List Piece) : Token := .text ((content? pieces).map String.ofList)

/-- What a character does between tokens: the token that it is, if any, and where the machine
stands after it. -/
def start (c : Char) : Option (List Token × Mode) :=
  if isSpace c then some ([], .between)
  else if c = '[' then some ([.openArray], .between)
  else if c = ']' then some ([.closeArray], .between)
  else if c = '\x7b' then some ([.openObject], .between)
  else if c = '\x7d' then some ([.closeObject], .between)
  else if c = ',' then some ([.comma], .between)
  else if c = ':' then some ([.colon], .between)
  else if c = '"' then some ([], .inText [])
  else if c.isDigit || c = '-' then some ([], .numeral [c])
  else if c.isLower then some ([], .word [c])
  else none

/-- The character that an escape letter stands for. -/
def unescape? : Char → Option Char
  | '"' => some '"'
  | '\\' => some '\\'
  | '/' => some '/'
  | 'b' => some '\x08'
  | 'f' => some '\x0c'
  | 'n' => some '\n'
  | 'r' => some '\r'
  | 't' => some '\t'
  | _ => none

/-- The value of a hexadecimal digit. -/
def hexDigit? (c : Char) : Option Nat :=
  if c.isDigit then some (c.toNat - '0'.toNat)
  else if 'a' ≤ c && c ≤ 'f' then some (c.toNat - 'a'.toNat + 10)
  else if 'A' ≤ c && c ≤ 'F' then some (c.toNat - 'A'.toNat + 10)
  else none

/-- One character: the tokens that it completes, latest last, and where the machine stands
after it. -/
def step (mode : Mode) (c : Char) : Option (List Token × Mode) :=
  match mode with
  | .between => start c
  | .word letters =>
    if c.isLower then some ([], .word (c :: letters))
    else do
      let token ← ofWord? letters.reverse
      let (tokens, mode) ← start c
      pure (token :: tokens, mode)
  | .numeral symbols =>
    if isNumeral c then some ([], .numeral (c :: symbols))
    else do
      let token ← ofNumeral? symbols.reverse
      let (tokens, mode) ← start c
      pure (token :: tokens, mode)
  | .inText pieces =>
    if c = '"' then some ([ofPieces pieces.reverse], .between)
    else if c = '\\' then some ([], .escape pieces)
    else if c.toNat < 0x20 then none
    else some ([], .inText (.char c :: pieces))
  | .escape pieces =>
    if c = 'u' then some ([], .hexadecimal pieces 4 0)
    else (unescape? c).map fun d => ([], .inText (.char d :: pieces))
  | .hexadecimal pieces due code => do
    let d ← hexDigit? c
    let code := 16 * code + d
    if due ≤ 1 then pure ([], .inText (.unit code :: pieces))
    else pure ([], .hexadecimal pieces (due - 1) code)

/-- The tokens that the end of the text completes. -/
def finish : Mode → Option (List Token)
  | .between => some []
  | .word letters => (ofWord? letters.reverse).map ([·])
  | .numeral symbols => (ofNumeral? symbols.reverse).map ([·])
  | .inText _ | .escape _ | .hexadecimal .. => none

/-- The machine over a text: the tokens completed so far, latest first, and where it stands. -/
def scan (state : List Token × Mode) (cs : List Char) : Option (List Token × Mode) :=
  cs.foldlM (fun s c => (step s.2 c).map fun r => (r.1.reverse ++ s.1, r.2)) state

/-- Reading a joined text is reading its parts in turn. -/
theorem scan_append (state : List Token × Mode) (cs ds : List Char) :
    scan state (cs ++ ds) = (scan state cs).bind fun s => scan s ds := by
  simp only [scan, List.foldlM_append]
  rfl

/-- The tokens of a text, in order. -/
def ofChars? (cs : List Char) : Option (List Token) := do
  let (tokens, mode) ← scan ([], .between) cs
  let last ← finish mode
  pure (tokens.reverse ++ last)

end Token
end DebugBridge.Json
