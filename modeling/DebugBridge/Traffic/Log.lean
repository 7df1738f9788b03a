import DebugBridge.Text.Pieces
import DebugBridge.Text.Utf8
import DebugBridge.Traffic.Entry

/-!
# Traffic logs

A recorder writes a line for each frame. Reading a log gives the entries of all lines that are
entries and passes over the others; bytes that are no text spoil the whole log.
-/

namespace DebugBridge.Traffic

/-- What was recorded, and how many more lines there is room for, if there is a bound. -/
structure Recorder where
  text : String
  room : Option Nat
  deriving Repr, DecidableEq

namespace Recorder

def ofRoom (room : Option Nat) : Recorder := ⟨"", room⟩

/-- Records an entry. Without room the entry is dropped. -/
def record (r : Recorder) (e : Entry) : Recorder :=
  match r.room with
  | some 0 => r
  | some (n + 1) => ⟨r.text ++ e.toLine ++ "\n", some n⟩
  | none => ⟨r.text ++ e.toLine ++ "\n", none⟩

/-- Records entries in order. -/
def recordAll (r : Recorder) (entries : List Entry) : Recorder := entries.foldl record r

end Recorder

/-- Why a log cannot be read. -/
inductive LogFault where
  /-- The log holds bytes that are no text. -/
  | notText
  deriving Repr, DecidableEq

/-- The wording of a fault. -/
def LogFault.message : LogFault → String
  | notText => "reading traffic log"

/-- The lines of a text in bytes. -/
def lines (content : Bytes) : List Bytes := Text.pieces 10 content

/-- The entries of a log. -/
def entries (content : Bytes) : Except LogFault (List Entry) :=
  match (lines content).mapM Text.ofBytes? with
  | none => .error .notText
  | some texts => .ok (texts.filterMap Entry.ofLine?)

end DebugBridge.Traffic
