import DebugBridge.Toml.Node
import DebugBridge.Toml.Quoted

/-!
# Reading a TOML text

A document is a list of lines, each with one statement at most. Arrays may go over several lines;
tables between braces may not, and no comma may stand behind their last member. Values nest less
than eighty deep, and a key has less than eighty parts.
-/

namespace DebugBridge.Toml

/-- A reader takes characters from the front of a text, or fails. -/
abbrev Scan := StateT (List Char) Option

namespace Scan

/-- The next character, which stays. -/
def peek? : Scan (Option Char) := fun cs => some (cs.head?, cs)

/-- Takes one character. -/
def next : Scan Char
  | [] => none
  | c :: cs => some (c, cs)

/-- Takes this character. -/
def exactly (c : Char) : Scan Unit := do
  let d ← next
  if d = c then pure () else failure

/-- Takes the characters in front that have a property. -/
def takeWhile (p : Char → Bool) : Scan (List Char) :=
  fun cs => some (cs.takeWhile p, cs.dropWhile p)

/-- Takes blanks. -/
def blanks : Scan Unit := discard (takeWhile fun c => c = ' ' || c = '\t')

/-- Takes a comment if there is one. -/
def comment : Scan Unit := do
  if (← peek?) = some '#' then discard (takeWhile Quoted.isPlain)

/-- Takes a line end. -/
def lineEnd : Scan Unit := fun cs => (Quoted.lineEnd? cs).map ((), ·)

/-- Takes what may stand behind a statement, and the end of the line or the text. -/
def restOfLine : Scan Unit := do
  blanks
  comment
  if (← peek?).isSome then lineEnd

/-- What follows blanks, comments and line ends, from outside a comment or inside one. -/
def behindSpace (inComment : Bool) : List Char → List Char
  | [] => []
  | '\r' :: '\n' :: cs => behindSpace false cs
  | c :: cs =>
    if c = '\n' then behindSpace false cs
    else if inComment then if Quoted.isPlain c then behindSpace true cs else c :: cs
    else if c = ' ' || c = '\t' then behindSpace false cs
    else if c = '#' then behindSpace true cs
    else c :: cs

/-- Takes blanks, comments and line ends. -/
def space : Scan Unit := fun cs => some ((), behindSpace false cs)

/-- How deep values nest, and how many parts a key has, at most. -/
def maxDepth : Nat := 79

/-- Takes one part of a key. -/
def simpleKey : Scan String := do
  match ← peek? with
  | some '"' | some '\'' => fun cs => (Quoted.short? cs).map fun p => (String.ofList p.1, p.2)
  | _ => do
    let cs ← takeWhile fun c => c.isAlphanum || c = '-' || c = '_'
    if cs.isEmpty then failure else pure (String.ofList cs)

/-- Takes the parts of a key that are left. -/
def keyParts : Nat → Scan (List String)
  | 0 => failure
  | parts + 1 => do
    blanks
    let k ← simpleKey
    blanks
    if (← peek?) = some '.' then do
      exactly '.'
      return k :: (← keyParts parts)
    else pure [k]

/-- Takes a key: the path to its last part, and that part. -/
def key : Scan (List String × String) := do
  let ks ← keyParts maxDepth
  pure (ks.dropLast, ks.getLastD "")

/-- Takes a number, a truth value or a moment. A day and a time may be apart by a blank. -/
def scalar : Scan Value := do
  let run ← takeWhile Scalar.isSymbol
  let rest ← get
  match rest with
  | ' ' :: c :: _ =>
    if Scalar.isDate run && c.isDigit then do
      exactly ' '
      let time ← takeWhile Scalar.isSymbol
      if Scalar.isZonedTime time then pure (.moment (String.ofList (run ++ ' ' :: time)))
      else failure
    else (Scalar.ofRun? run : Option Value)
  | _ => (Scalar.ofRun? run : Option Value)

mutual

/-- Takes a value. -/
def value : Nat → Nat → Scan Value
  | 0, _ => failure
  | steps + 1, depth => do
    match ← peek? with
    | some '"' | some '\'' =>
      fun cs => (Quoted.any? cs).map fun p => (.text (String.ofList p.1), p.2)
    | some '[' => do
      if depth = 0 then failure
      exactly '['
      return .array (← items steps (depth - 1))
    | some '\x7b' => do
      if depth = 0 then failure
      exactly '\x7b'
      blanks
      if (← peek?) = some '\x7d' then do
        exactly '\x7d'
        pure (.table [])
      else return .table (Toml.members (← inlineMembers steps (depth - 1) []))
    | _ => scalar

/-- Takes the items of an array that are left, and its end. -/
def items : Nat → Nat → Scan (List Value)
  | 0, _ => failure
  | steps + 1, depth => do
    space
    if (← peek?) = some ']' then do
      exactly ']'
      pure []
    else do
      let v ← value steps depth
      space
      match ← next with
      | ',' => return v :: (← items steps depth)
      | ']' => pure [v]
      | _ => failure

/-- Takes the members of a table between braces that are left, and its end. -/
def inlineMembers : Nat → Nat → Entries → Scan Entries
  | 0, _, _ => failure
  | steps + 1, depth, entries => do
    let (path, k) ← key
    exactly '='
    blanks
    let v ← value steps depth
    blanks
    let entries ← (entries.put k v path true : Option Entries)
    match ← next with
    | ',' => inlineMembers steps depth entries
    | '\x7d' => pure entries
    | _ => failure

end

/-- Takes a header in brackets. -/
def header : Scan Statement := do
  exactly '['
  if (← peek?) = some '[' then do
    exactly '['
    let (path, k) ← key
    exactly ']'
    exactly ']'
    pure (.listed path k)
  else do
    let (path, k) ← key
    exactly ']'
    pure (.header path k)

/-- Takes a key with its value. -/
def pair : Scan Statement := do
  let (path, k) ← key
  exactly '='
  blanks
  -- Every step of reading a value takes a character or looks into something that was opened.
  let v ← value (2 * (← get).length + 2) maxDepth
  pure (.pair path k v)

/-- Takes the statements that are left. -/
def statements : Nat → Scan (List Statement)
  | 0 => failure
  | lines + 1 => do
    blanks
    match ← peek? with
    | none => pure []
    | some '#' | some '\n' | some '\r' => do
      restOfLine
      statements lines
    | some c => do
      let s ← if c = '[' then header else pair
      restOfLine
      return s :: (← statements lines)

end Scan

/-- The table that a text describes, if it describes one. A byte order mark in front does not
count. -/
def Value.ofString? (s : String) : Option Value := do
  let cs := match s.toList with
    | '\ufeff' :: cs => cs
    | cs => cs
  let (statements, _) ← (Scan.statements (cs.length + 1)).run cs
  let entries ← Entries.ofStatements? statements
  pure (.table (members entries))

end DebugBridge.Toml
