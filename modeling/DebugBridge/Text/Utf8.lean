/-!
# Bytes and text

The bytes of a text are its UTF-8 encoding, held as a list so that cutting and joining are the
operations of `List`. Reading accepts exactly the bytes of some text (`ofBytes?_eq_some_iff`).
Where bytes are no text, `Fault.first` says where the first offending sequence starts and how
long it is.
-/

namespace DebugBridge

/-- A sequence of bytes. -/
abbrev Bytes := List UInt8

namespace Text

/-- The UTF-8 encoding of a text. -/
def bytes (s : String) : Bytes := s.toByteArray.data.toList

/-- The text that a byte sequence encodes, if it encodes one. -/
def ofBytes? (b : Bytes) : Option String := String.fromUTF8? ⟨b.toArray⟩

@[simp] theorem ofBytes?_bytes (s : String) : ofBytes? (bytes s) = some s := by
  simp [ofBytes?, bytes, String.fromUTF8?, String.fromUTF8, s.isValidUTF8]

theorem ofBytes?_eq_some_iff {b : Bytes} {s : String} : ofBytes? b = some s ↔ b = bytes s := by
  constructor
  · intro h
    simp only [ofBytes?, String.fromUTF8?] at h
    split at h
    · cases h; simp [bytes, String.fromUTF8]
    · cases h
  · rintro rfl; simp

@[simp] theorem bytes_empty : bytes "" = [] := rfl

@[simp] theorem bytes_append (s t : String) : bytes (s ++ t) = bytes s ++ bytes t := by
  simp [bytes]

/-- Where bytes stop being text: the number of bytes before the offending sequence, and the
length of that sequence. The length is absent when the bytes end inside a character. -/
structure Fault where
  start : Nat
  length : Option Nat
  deriving Repr, DecidableEq

namespace Fault

/-- How long a sequence its first byte announces, with the admissible second bytes. -/
def announced (b : UInt8) : Option (Nat × UInt8 × UInt8) :=
  if b < 0x80 then some (1, 0, 0)
  else if b < 0xC2 then none
  else if b < 0xE0 then some (2, 0x80, 0xBF)
  else if b = 0xE0 then some (3, 0xA0, 0xBF)
  else if b = 0xED then some (3, 0x80, 0x9F)
  else if b < 0xF0 then some (3, 0x80, 0xBF)
  else if b = 0xF0 then some (4, 0x90, 0xBF)
  else if b < 0xF4 then some (4, 0x80, 0xBF)
  else if b = 0xF4 then some (4, 0x80, 0x8F)
  else none

/-- The first fault among the bytes that follow the first `seen` ones, one step per byte:
`due` bytes of the current sequence, of which `got` are read, are still to come, and the next
of them lies between `low` and `high`. -/
def scan (start got due : Nat) (low high : UInt8) : Bytes → Option Fault
  | [] => if due = 0 then none else some ⟨start, none⟩
  | b :: rest =>
    if due = 0 then
      match announced b with
      | none => some ⟨start, some 1⟩
      | some (1, _, _) => scan (start + 1) 0 0 0 0 rest
      | some (n, lo, hi) => scan start 1 (n - 1) lo hi rest
    else if low ≤ b && b ≤ high then
      if due = 1 then scan (start + got + 1) 0 0 0 0 rest
      else scan start (got + 1) (due - 1) 0x80 0xBF rest
    else some ⟨start, some got⟩

/-- The first place at which the bytes are no text. -/
def first (b : Bytes) : Option Fault := scan 0 0 0 0 0 b

/-- The wording of a fault. -/
def message : Fault → String
  | ⟨start, some n⟩ => s!"invalid utf-8 sequence of {n} bytes from index {start}"
  | ⟨start, none⟩ => s!"incomplete utf-8 byte sequence from index {start}"

end Fault
end Text
end DebugBridge
