import DebugBridge.Text.Graphic

/-!
# Quoted text

Texts inside messages stand between double quotes. A quote, a backslash, the four controls with
a letter of their own and every character that is not graphic are escaped, so a message shows
exactly which characters were received.
-/

namespace DebugBridge.Text

/-- The controls and delimiters that are escaped by one letter. -/
def escapeLetter? : Char → Option Char
  | '\x00' => some '0'
  | '\t' => some 't'
  | '\r' => some 'r'
  | '\n' => some 'n'
  | '\\' => some '\\'
  | '"' => some '"'
  | _ => none

/-- The lower-case hexadecimal digits of a number, without leading zeros. -/
def hex (n : Nat) : String := String.ofList (Nat.toDigits 16 n)

/-- One character as it stands inside quotes. -/
def quoteChar (c : Char) : String :=
  match escapeLetter? c with
  | some letter => String.ofList ['\\', letter]
  | none => if isGraphic c then c.toString else "\\u\x7b" ++ hex c.toNat ++ "\x7d"

/-- A text between double quotes, with everything that cannot be shown as itself escaped. -/
def quoted (s : String) : String := "\"" ++ String.join (s.toList.map quoteChar) ++ "\""

end DebugBridge.Text
