import DebugBridge.Json.Token

/-!
# Trees of a JSON text

A tree shows what the grammar says about a text and no more: members in the order written, keys
repeated as often as written, and contents absent where a token denotes nothing. It is built from
the tokens one at a time, with the containers that are still open held in a list.
-/

namespace DebugBridge.Json

/-- The tree of a JSON text. -/
inductive Tree where
  | null
  | bool (value : Bool)
  | number (content : Option Number)
  | text (content : Option String)
  | array (items : List Tree)
  | object (members : List (Option String × Tree))
  deriving Repr, Inhabited

namespace Tree

/-- A container that is not closed yet. Items and members are held latest first; an object may
have a key whose value is still to come. -/
inductive Level where
  | array (items : List Tree)
  | object (members : List (Option String × Tree))
  | member (members : List (Option String × Tree)) (key : Option String)
  deriving Repr, Inhabited

/-- What the grammar lets follow. -/
inductive Due where
  /-- A value. -/
  | value
  /-- A value, or the end of an array that has no items. -/
  | item
  /-- A key, or the end of an object that has no members. -/
  | member
  /-- A key. -/
  | key
  /-- The colon behind a key. -/
  | colon
  /-- A comma, or the end of the container. -/
  | next
  deriving Repr, DecidableEq

/-- What has been built from the tokens so far. -/
structure Build where
  due : Due
  levels : List Level
  done : Option Tree

namespace Build

def empty : Build := ⟨.value, [], none⟩

/-- Adds a complete value to the innermost open container, or ends the text with it. -/
def put (b : Build) (t : Tree) : Option Build :=
  match b.levels with
  | [] => some ⟨.next, [], some t⟩
  | .array items :: outer => some ⟨.next, .array (t :: items) :: outer, none⟩
  | .member members key :: outer => some ⟨.next, .object ((key, t) :: members) :: outer, none⟩
  | .object _ :: _ => none

/-- Closes the innermost open container if it is of the kind that the token closes. -/
def close (b : Build) (array : Bool) : Option Build :=
  match array, b.levels with
  | true, .array items :: outer => put { b with levels := outer } (.array items.reverse)
  | false, .object members :: outer => put { b with levels := outer } (.object members.reverse)
  | _, _ => none

/-- The value that a token is by itself. -/
def leaf? : Token → Option Tree
  | .null => some .null
  | .bool v => some (.bool v)
  | .number n => some (.number n)
  | .text s => some (.text s)
  | _ => none

/-- Takes one token where a value may stand. -/
def value (b : Build) : Token → Option Build
  | .openArray => some { b with due := .item, levels := .array [] :: b.levels }
  | .openObject => some { b with due := .member, levels := .object [] :: b.levels }
  | t => (leaf? t).bind b.put

/-- Takes a key. -/
def key (b : Build) : Token → Option Build
  | .text s =>
    match b.levels with
    | .object members :: outer =>
      some { b with due := .colon, levels := .member members s :: outer }
    | _ => none
  | _ => none

/-- Takes one token. -/
def step (b : Build) (t : Token) : Option Build :=
  match b.due with
  | .value => b.value t
  | .item => if t = .closeArray then b.close true else b.value t
  | .member => if t = .closeObject then b.close false else b.key t
  | .key => b.key t
  | .colon => if t = .colon then some { b with due := .value } else none
  | .next =>
    match t, b.levels with
    | .comma, .array _ :: _ => some { b with due := .value }
    | .comma, .object _ :: _ => some { b with due := .key }
    | .closeArray, _ => b.close true
    | .closeObject, _ => b.close false
    | _, _ => none

end Build

/-- The tree of a sequence of tokens. -/
def ofTokens? (tokens : List Token) : Option Tree :=
  (tokens.foldlM Build.step Build.empty).bind Build.done

/-- The tree of a text. -/
def ofString? (s : String) : Option Tree := (Token.ofChars? s.toList).bind ofTokens?

end Tree
end DebugBridge.Json
