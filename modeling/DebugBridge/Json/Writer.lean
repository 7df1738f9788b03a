import DebugBridge.Json.Value

/-!
# Writing JSON values

The compact form has no blanks. The indented form puts every item and member on a line of its
own, two spaces deeper than its container, and leaves empty containers on one line. Inside a text
only quotes, backslashes and controls are escaped.
-/

namespace DebugBridge.Json

/-- A character inside a written text. -/
def escapeChar (c : Char) : List Char :=
  match c with
  | '"' => ['\\', '"']
  | '\\' => ['\\', '\\']
  | '\x08' => ['\\', 'b']
  | '\x0c' => ['\\', 'f']
  | '\n' => ['\\', 'n']
  | '\r' => ['\\', 'r']
  | '\t' => ['\\', 't']
  | c =>
    if c.toNat < 0x20 then
      ['\\', 'u', '0', '0', Nat.digitChar (c.toNat / 16), Nat.digitChar (c.toNat % 16)]
    else [c]

/-- A text between quotes. -/
def quote (s : String) : String := String.ofList ('"' :: s.toList.flatMap escapeChar ++ ['"'])

namespace Value

mutual

/-- The compact form of a value. -/
def compact : Value → String
  | .null => "null"
  | .bool true => "true"
  | .bool false => "false"
  | .number n => n.text
  | .text s => quote s
  | .array items => "[" ++ compactItems items ++ "]"
  | .object members => "\x7b" ++ compactMembers members ++ "\x7d"

/-- The compact forms of items, with commas between them. -/
def compactItems : List Value → String
  | [] => ""
  | [v] => v.compact
  | v :: vs => v.compact ++ "," ++ compactItems vs

/-- The compact forms of members, with commas between them. -/
def compactMembers : List (String × Value) → String
  | [] => ""
  | [(k, v)] => quote k ++ ":" ++ v.compact
  | (k, v) :: rest => quote k ++ ":" ++ v.compact ++ "," ++ compactMembers rest

end

/-- A new line, indented to a depth. -/
def newLine (depth : Nat) : String := String.ofList ('\n' :: List.replicate (2 * depth) ' ')

mutual

/-- The indented form of a value inside containers nested to a depth. -/
def indentedAt (depth : Nat) : Value → String
  | .array [] => "[]"
  | .object [] => "\x7b\x7d"
  | .array items =>
    "[" ++ newLine (depth + 1) ++ indentedItems (depth + 1) items ++ newLine depth ++ "]"
  | .object members =>
    "\x7b" ++ newLine (depth + 1) ++ indentedMembers (depth + 1) members ++ newLine depth ++ "\x7d"
  | .null => "null"
  | .bool true => "true"
  | .bool false => "false"
  | .number n => n.text
  | .text s => quote s

/-- Items on lines of their own. -/
def indentedItems (depth : Nat) : List Value → String
  | [] => ""
  | [v] => v.indentedAt depth
  | v :: vs => v.indentedAt depth ++ "," ++ newLine depth ++ indentedItems depth vs

/-- Members on lines of their own. -/
def indentedMembers (depth : Nat) : List (String × Value) → String
  | [] => ""
  | [(k, v)] => quote k ++ ": " ++ v.indentedAt depth
  | (k, v) :: rest =>
    quote k ++ ": " ++ v.indentedAt depth ++ "," ++ newLine depth ++ indentedMembers depth rest

end

/-- The indented form of a value. -/
def indented (v : Value) : String := v.indentedAt 0

end Value
end DebugBridge.Json
