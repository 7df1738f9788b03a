import DebugBridge.Proofs.Json.Spelling
import DebugBridge.Proofs.Json.Trees
import DebugBridge.Proofs.Text
import DebugBridge.Traffic.Entry

/-!
# Lines of a traffic log

An entry is written on one line, whatever its payload holds, and read back from it. A line of
blanks is no entry, and a carriage return behind a line is of no consequence.
-/

namespace DebugBridge

open Json (Tree Value Number quote escapeChar)
open Json.Token (Spells IsPiece IsText Lexes hexDigit?)

namespace Json

/-! ## Line ends -/

/-- What a piece of a text is written as holds no line end. -/
theorem newline_not_mem_piece {w : List Char} {piece : Json.Token.Piece}
    (written : IsPiece w piece) : '\n' ∉ w := by
  have digit {c : Char} {n : Nat} (read : hexDigit? c = some n) : '\n' ≠ c := by
    rintro rfl
    cases read
  cases written with
  | char _ _ printed =>
    rw [List.mem_singleton]
    rintro rfl
    exact printed (by decide)
  | @escape c d known =>
    have letter : '\n' ≠ c := by
      rintro rfl
      cases known
    simp [letter]
  | unit first second third fourth =>
    simp [digit first, digit second, digit third, digit fourth]

theorem newline_not_mem_escapeChar (c : Char) : '\n' ∉ escapeChar c := by
  obtain ⟨_, escapes⟩ := Json.Token.exists_escapes c
  exact newline_not_mem_piece escapes.written

/-- A text between quotes is on one line, whatever lines it has. -/
theorem newline_not_mem_quote (s : String) : '\n' ∉ (quote s).toList := by
  simp [quote, newline_not_mem_escapeChar]

theorem newline_not_mem_numeral (n : Int) : '\n' ∉ (Number.text (.whole n)).toList := by
  have digits : '\n' ∉ Nat.toDigits 10 n.natAbs := fun mem =>
    absurd (Number.isDigit_of_mem_toDigits mem) (by decide)
  rw [Number.toList_text_whole, Number.numeral]
  split <;> simp [digits]

end Json

namespace Json.Token

/-! ## Blanks around tokens -/

theorem exists_not_blank_of_isText {w : List Char} {t : Token} (written : IsText w t) :
    ∃ c ∈ w, Text.isBlank c = false := by
  cases written with
  | number written =>
    obtain ⟨-, c, rest, rfl, digit | rfl⟩ := Number.symbols_of_written? written
    · exact ⟨c, List.mem_cons_self, Text.isBlank_of_isDigit digit⟩
    · exact ⟨'-', List.mem_cons_self, rfl⟩
  | openArray | closeArray | openObject | closeObject | comma | colon | null | true | false
  | text =>
    exact ⟨_, List.mem_cons_self, rfl⟩

theorem Lexes.eq_nil_of_blank {cs : List Char} {ts : List Token} (lexed : Lexes cs ts)
    (blank : ∀ c ∈ cs, Text.isBlank c) : ts = [] := by
  induction lexed with
  | nil => rfl
  | space _ later ih => exact ih (List.forall_mem_cons.mp blank).2
  | token first later =>
    obtain ⟨c, mem, seen⟩ := exists_not_blank_of_isText first
    have hidden := blank c (List.mem_append_left _ mem)
    rw [seen] at hidden
    cases hidden

/-- A blank does not complete what the end of the text would leave incomplete. -/
theorem finish_step_space {mode next : Mode} {c : Char} {tokens : List Token} (blank : isSpace c)
    (incomplete : finish mode = none) (h : step mode c = some (tokens, next)) :
    finish next = none := by
  have mark := isMark_space blank
  have among : c = ' ' ∨ c = '\t' ∨ c = '\n' ∨ c = '\r' := by
    simpa [isSpace, or_assoc] using blank
  cases mode with
  | between => cases incomplete
  | word letters =>
    have unknown : ofWord? letters.reverse = none := Option.map_eq_none_iff.mp incomplete
    simp [step, mark.not_lower, unknown] at h
  | numeral symbols =>
    have unknown : ofNumeral? symbols.reverse = none := Option.map_eq_none_iff.mp incomplete
    simp [step, mark.not_numeral, unknown] at h
  | inText pieces =>
    rcases among with rfl | rfl | rfl | rfl <;> cases h
    rfl
  | escape | hexadecimal => rcases among with rfl | rfl | rfl | rfl <;> cases h

/-- A blank behind a text is of no consequence. -/
theorem ofChars?_concat_space {c : Char} (blank : isSpace c) (cs : List Char) :
    ofChars? (cs ++ [c]) = ofChars? cs := by
  rw [ofChars?, ofChars?, scan_append]
  cases scan ([], .between) cs with
  | none => rfl
  | some state =>
    obtain ⟨tokens, mode⟩ := state
    simp only [Option.bind_eq_bind, Option.bind_some, scan_cons, scan_nil]
    cases finished : finish mode with
    | some last =>
      rw [(isMark_space blank).step finished]
      simp [finish]
    | none =>
      cases stepped : step mode c with
      | none => rfl
      | some r =>
        simp [finish_step_space blank finished stepped]

end Json.Token

namespace Traffic.Entry

theorem newline_not_mem_toLine (e : Entry) : '\n' ∉ e.toLine.toList := by
  simp [toLine, toValue, Value.compact, Value.compactMembers, Value.nat, Number.ofNat,
    Json.newline_not_mem_quote, Json.newline_not_mem_numeral]

/-! ## Written lines -/

theorem spells_toLine (e : Entry) : Spells e.toLine.toList e.toValue.tokens := by
  have number : (Number.whole e.milliseconds.toNat).Fits := by
    have small := e.milliseconds.toNat_lt
    simp only [Number.Fits]
    omega
  have members := @Value.spells_compactMembers [("direction", .text e.direction),
    ("timestamp_ms", .nat e.milliseconds.toNat), ("payload", .text e.payload)] (by
      simpa using ⟨Json.Token.spells_quote e.direction, Json.Token.spells_whole number,
        Json.Token.spells_quote e.payload⟩)
  simpa [toLine, toValue, Value.compact, Value.tokens] using
    members.enclosed Json.Token.isMark_openObject Json.Token.isMark_closeObject

theorem natural?_nat {n bound : Nat} (small : n < bound) :
    (Value.nat n).natural? bound = some n := by
  have inside : 0 ≤ (n : Int) ∧ (n : Int) < bound := by omega
  rw [Value.nat, Number.ofNat, Value.natural?, if_pos inside, Int.toNat_natCast]

/-- An entry is read back from its line. -/
theorem ofLine?_toLine (e : Entry) : ofLine? e.toLine = some e := by
  have tree : Tree.ofString? e.toLine = some e.toValue.tree := by
    rw [Tree.ofString?, (spells_toLine e).ofChars?, Option.bind_some, Tree.ofTokens?_tokens]
  have parts : e.toValue.tree.parts? ["direction", "timestamp_ms", "payload"] =
      some [some (.text (some e.direction)), some (Value.nat e.milliseconds.toNat).tree,
        some (.text (some e.payload))] := by
    simp [toValue, Value.tree, Value.memberTrees, Tree.parts?, Tree.part?]
  have text (s : String) : (Tree.text (some s)).scalar? = some (.text s) := rfl
  have number : (Value.nat e.milliseconds.toNat).tree.scalar? =
      some (.nat e.milliseconds.toNat) := rfl
  have small : (Value.nat e.milliseconds.toNat).natural? UInt64.size =
      some e.milliseconds.toNat := natural?_nat e.milliseconds.toNat_lt
  unfold ofLine?
  refine Option.bind_eq_some_iff.mpr ⟨_, tree, Option.bind_eq_some_iff.mpr ⟨_, parts, ?_⟩⟩
  refine Option.bind_eq_some_iff.mpr ⟨_, text e.direction, ?_⟩
  refine Option.bind_eq_some_iff.mpr ⟨_, rfl, ?_⟩
  refine Option.bind_eq_some_iff.mpr ⟨_, number, ?_⟩
  refine Option.bind_eq_some_iff.mpr ⟨_, small, ?_⟩
  refine Option.bind_eq_some_iff.mpr ⟨_, text e.payload, ?_⟩
  refine Option.bind_eq_some_iff.mpr ⟨_, rfl, ?_⟩
  rw [UInt64.ofNat_toNat]
  rfl

/-! ## Blanks -/

/-- A line of blanks is no entry. -/
theorem ofLine?_of_blank {line : String} (blank : ∀ c ∈ line.toList, Text.isBlank c) :
    ofLine? line = none := by
  have empty : Tree.ofString? line = none := by
    rw [Tree.ofString?]
    cases tokens : Json.Token.ofChars? line.toList with
    | none => rfl
    | some ts =>
      rw [(Json.Token.lexes_of_ofChars? tokens).eq_nil_of_blank blank]
      rfl
  rw [ofLine?, empty]
  rfl

/-- A line may end in a carriage return. -/
theorem ofLine?_carriageReturn (line : String) : ofLine? (line ++ "\r") = ofLine? line := by
  have same : (line ++ "\r").toList = line.toList ++ ['\r'] := String.toList_append
  rw [ofLine?, ofLine?, Tree.ofString?, Tree.ofString?, same,
    Json.Token.ofChars?_concat_space rfl]

end Traffic.Entry
end DebugBridge
