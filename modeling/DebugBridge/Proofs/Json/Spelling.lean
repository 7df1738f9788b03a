import DebugBridge.Proofs.Json.Tokens

/-!
# Texts that consist of tokens

A text that is cut into tokens consists of what these tokens are written as, with blanks anywhere
between them (`lexes_of_ofChars?`). So it can be parted wherever its tokens are parted by a mark.
-/

namespace DebugBridge.Json

namespace Token

/-! ## Written forms -/

/-- How a token is written. -/
inductive IsText : List Char → Token → Prop
  | openArray : IsText ['['] .openArray
  | closeArray : IsText [']'] .closeArray
  | openObject : IsText ['\x7b'] .openObject
  | closeObject : IsText ['\x7d'] .closeObject
  | comma : IsText [','] .comma
  | colon : IsText [':'] .colon
  | null : IsText "null".toList .null
  | true : IsText "true".toList (.bool true)
  | false : IsText "false".toList (.bool false)
  | number {cs : List Char} {w : Number.Written} (written : Number.written? cs = some w) :
      IsText cs (.number w.value?)
  | text {cs : List Char} {pieces : List Piece} (written : Pieces cs pieces) :
      IsText ('"' :: cs ++ ['"']) (ofPieces pieces)

/-- A text consists of tokens, with blanks around them. -/
inductive Lexes : List Char → List Token → Prop
  | nil : Lexes [] []
  | space {c : Char} {cs : List Char} {ts : List Token} (blank : isSpace c) (later : Lexes cs ts) :
      Lexes (c :: cs) ts
  | token {w cs : List Char} {t : Token} {ts : List Token} (first : IsText w t)
      (later : Lexes cs ts) : Lexes (w ++ cs) (t :: ts)

theorem Pieces.concat {cs w : List Char} {pieces : List Piece} {piece : Piece}
    (written : Pieces cs pieces) (last : IsPiece w piece) :
    Pieces (cs ++ w) (pieces ++ [piece]) := by
  induction written with
  | nil => simpa using Pieces.cons last .nil
  | cons first others ih =>
    rw [List.append_assoc]
    exact .cons first ih

theorem IsText.lexes {w : List Char} {t : Token} (written : IsText w t) : Lexes w [t] := by
  simpa using Lexes.token written .nil

theorem Lexes.append {cs ds : List Char} {ts us : List Token} (left : Lexes cs ts)
    (right : Lexes ds us) : Lexes (cs ++ ds) (ts ++ us) := by
  induction left with
  | nil => exact right
  | space blank later ih => exact .space blank ih
  | token first later ih =>
    rw [List.append_assoc]
    exact .token first ih

/-! ## What has been read -/

/-- The part of a token that has been read where the machine stands. -/
inductive Held : Mode → List Char → Prop
  | between : Held .between []
  | word (letters : List Char) : Held (.word letters) letters.reverse
  | numeral (symbols : List Char) : Held (.numeral symbols) symbols.reverse
  | inText {cs : List Char} {pieces : List Piece} (written : Pieces cs pieces.reverse) :
      Held (.inText pieces) ('"' :: cs)
  | escape {cs : List Char} {pieces : List Piece} (written : Pieces cs pieces.reverse) :
      Held (.escape pieces) ('"' :: cs ++ ['\\'])
  | hexadecimal {cs ds : List Char} {pieces : List Piece} {ns : List Nat}
      (written : Pieces cs pieces.reverse) (digits : ds.map hexDigit? = ns.map some)
      (few : ds.length < 4) :
      Held (.hexadecimal pieces (4 - ds.length) (ns.foldl (16 * · + ·) 0))
        ('"' :: cs ++ '\\' :: 'u' :: ds)

theorem isText_of_ofWord? {letters : List Char} {t : Token} (h : ofWord? letters = some t) :
    IsText letters t := by
  unfold ofWord? at h
  split at h
  case isTrue word =>
    cases h
    exact word ▸ .null
  case isFalse =>
    split at h
    case isTrue word =>
      cases h
      exact word ▸ .true
    case isFalse =>
      split at h
      case isTrue word =>
        cases h
        exact word ▸ .false
      case isFalse => cases h

theorem isText_of_ofNumeral? {symbols : List Char} {t : Token} (h : ofNumeral? symbols = some t) :
    IsText symbols t := by
  obtain ⟨w, written, rfl⟩ := Option.map_eq_some_iff.mp h
  exact .number written

/-- Four hexadecimal digits are a piece. -/
theorem isPiece_of_digits {ds : List Char} {ns : List Nat} (four : ds.length = 4)
    (digits : ds.map hexDigit? = ns.map some) :
    IsPiece ('\\' :: 'u' :: ds) (.unit (ns.foldl (16 * · + ·) 0)) := by
  have same : ns.length = 4 := by simpa [four] using (congrArg List.length digits).symm
  match ds, ns, four, same with
  | [a, b, c, d], [p, q, r, s], _, _ =>
    simp only [List.map_cons, List.map_nil, List.cons.injEq, and_true] at digits
    obtain ⟨first, second, third, fourth⟩ := digits
    simpa using IsPiece.unit first second third fourth

/-- What has been read completes tokens, and a part of another one is held behind them. -/
def Reads (cs : List Char) (tokens : List Token) (mode : Mode) : Prop :=
  ∃ done held, cs = done ++ held ∧ Lexes done tokens ∧ Held mode held

theorem reads_of_start {c : Char} {tokens : List Token} {mode : Mode}
    (h : start c = some (tokens, mode)) : Reads [c] tokens mode := by
  have mark {t : Token} (written : IsText [c] t) : Reads [c] [t] .between :=
    ⟨[c], [], rfl, written.lexes, .between⟩
  unfold start at h
  repeat' split at h
  all_goals cases h
  · rename_i blank
    exact ⟨[c], [], rfl, .space blank .nil, .between⟩
  · rename_i same
    exact mark (same ▸ .openArray)
  · rename_i same
    exact mark (same ▸ .closeArray)
  · rename_i same
    exact mark (same ▸ .openObject)
  · rename_i same
    exact mark (same ▸ .closeObject)
  · rename_i same
    exact mark (same ▸ .comma)
  · rename_i same
    exact mark (same ▸ .colon)
  · rename_i same
    exact ⟨[], [c], rfl, .nil, same ▸ .inText .nil⟩
  · exact ⟨[], [c], rfl, .nil, .numeral [c]⟩
  · exact ⟨[], [c], rfl, .nil, .word [c]⟩

/-- A token that is complete has the next character behind it. -/
theorem Reads.behind {w cs : List Char} {t : Token} {tokens : List Token} {mode : Mode}
    (written : IsText w t) (reads : Reads cs tokens mode) : Reads (w ++ cs) (t :: tokens) mode := by
  obtain ⟨done, held, rfl, lexed, holds⟩ := reads
  exact ⟨w ++ done, held, by rw [List.append_assoc], .token written lexed, holds⟩

theorem Held.reads {held : List Char} {mode : Mode} (holds : Held mode held) :
    Reads held [] mode :=
  ⟨[], held, rfl, .nil, holds⟩

theorem reads_of_step {held : List Char} {mode next : Mode} {c : Char} {tokens : List Token}
    (before : Held mode held) (h : step mode c = some (tokens, next)) :
    Reads (held ++ [c]) tokens next := by
  cases before with
  | between => exact reads_of_start h
  | word letters =>
    simp only [step] at h
    split at h
    case isTrue =>
      cases h
      rw [← List.reverse_cons]
      exact (Held.word (c :: letters)).reads
    case isFalse =>
      obtain ⟨t, word, h⟩ := Option.bind_eq_some_iff.mp h
      obtain ⟨⟨later, mode⟩, started, h⟩ := Option.bind_eq_some_iff.mp h
      cases h
      exact (reads_of_start started).behind (isText_of_ofWord? word)
  | numeral symbols =>
    simp only [step] at h
    split at h
    case isTrue =>
      cases h
      rw [← List.reverse_cons]
      exact (Held.numeral (c :: symbols)).reads
    case isFalse =>
      obtain ⟨t, number, h⟩ := Option.bind_eq_some_iff.mp h
      obtain ⟨⟨later, mode⟩, started, h⟩ := Option.bind_eq_some_iff.mp h
      cases h
      exact (reads_of_start started).behind (isText_of_ofNumeral? number)
  | @inText cs pieces written =>
    simp only [step] at h
    split at h
    case isTrue quote =>
      cases h
      rw [quote]
      exact ⟨'"' :: cs ++ ['"'], [], by simp, (IsText.text written).lexes, .between⟩
    case isFalse quote =>
      split at h
      case isTrue backslash =>
        cases h
        rw [backslash]
        exact (Held.escape written).reads
      case isFalse backslash =>
        split at h
        case isTrue => cases h
        case isFalse printed =>
          cases h
          have more := written.concat (.char quote backslash printed)
          rw [← List.reverse_cons] at more
          exact (Held.inText more).reads
  | @escape cs pieces written =>
    simp only [step] at h
    split at h
    case isTrue unit =>
      cases h
      have none := @Held.hexadecimal cs [] pieces [] written rfl (by simp)
      rw [unit, List.append_assoc]
      exact none.reads
    case isFalse =>
      obtain ⟨d, known, h⟩ := Option.map_eq_some_iff.mp h
      cases h
      have more := written.concat (.escape known)
      rw [← List.reverse_cons] at more
      rw [List.append_assoc]
      exact (Held.inText more).reads
  | @hexadecimal cs ds pieces ns written digits few =>
    obtain ⟨n, digit, h⟩ := Option.bind_eq_some_iff.mp h
    have more : (ds ++ [c]).map hexDigit? = (ns ++ [n]).map some := by
      rw [List.map_append, List.map_append, digits, List.map_singleton, List.map_singleton, digit]
    have code : (ns ++ [n]).foldl (16 * · + ·) 0 = 16 * ns.foldl (16 * · + ·) 0 + n := by
      rw [List.foldl_append]
      rfl
    rw [← code] at h
    split at h
    case isTrue last =>
      cases h
      have all : (ds ++ [c]).length = 4 := by
        rw [List.length_append, List.length_singleton]
        omega
      have unit := written.concat (isPiece_of_digits all more)
      rw [← List.reverse_cons] at unit
      rw [List.append_assoc]
      exact (Held.inText unit).reads
    case isFalse notLast =>
      cases h
      have few : (ds ++ [c]).length < 4 := by
        rw [List.length_append, List.length_singleton]
        omega
      have due : 4 - ds.length - 1 = 4 - (ds ++ [c]).length := by
        rw [List.length_append, List.length_singleton]
        omega
      rw [due, List.append_assoc]
      exact (Held.hexadecimal written more few).reads

theorem lexes_of_finish {held : List Char} {mode : Mode} {tokens : List Token}
    (before : Held mode held) (h : finish mode = some tokens) : Lexes held tokens := by
  cases before with
  | between =>
    cases h
    exact .nil
  | word letters =>
    obtain ⟨t, word, rfl⟩ := Option.map_eq_some_iff.mp h
    exact (isText_of_ofWord? word).lexes
  | numeral symbols =>
    obtain ⟨t, number, rfl⟩ := Option.map_eq_some_iff.mp h
    exact (isText_of_ofNumeral? number).lexes
  | inText | escape | hexadecimal => cases h

theorem reads_of_scan {cs read : List Char} {tokens last : List Token} {mode next : Mode}
    (before : Reads read tokens.reverse mode)
    (h : scan (tokens, mode) cs = some (last, next)) : Reads (read ++ cs) last.reverse next := by
  induction cs generalizing read tokens mode with
  | nil =>
    cases h
    rwa [List.append_nil]
  | cons c cs ih =>
    rw [scan_cons] at h
    obtain ⟨⟨more, mode'⟩, stepped, h⟩ := Option.bind_eq_some_iff.mp h
    obtain ⟨done, held, rfl, lexed, holds⟩ := before
    obtain ⟨done', held', split, lexed', holds'⟩ := reads_of_step holds stepped
    rw [List.append_cons]
    refine ih ⟨done ++ done', held', ?_, ?_, holds'⟩ h
    · rw [List.append_assoc, split, List.append_assoc]
    · rw [List.reverse_append, List.reverse_reverse]
      exact lexed.append lexed'

/-- A text consists of the tokens that are read from it. -/
theorem lexes_of_ofChars? {cs : List Char} {tokens : List Token} (h : ofChars? cs = some tokens) :
    Lexes cs tokens := by
  obtain ⟨⟨read, mode⟩, scanned, h⟩ := Option.bind_eq_some_iff.mp h
  obtain ⟨last, finished, h⟩ := Option.bind_eq_some_iff.mp h
  cases h
  have start : Reads [] [].reverse .between := ⟨[], [], rfl, .nil, .between⟩
  obtain ⟨done, held, split, lexed, holds⟩ := reads_of_scan start scanned
  rw [List.nil_append] at split
  rw [split]
  exact lexed.append (lexes_of_finish holds finished)

/-! ## Parts of what has been read -/

variable {cs : List Char} {ts us : List Token}

theorem Lexes.blank_of_nil (lexed : Lexes cs []) : ∀ c ∈ cs, isSpace c := by
  generalize none : ([] : List Token) = ts at lexed
  induction lexed with
  | nil => simp
  | space blank later ih => exact List.forall_mem_cons.mpr ⟨blank, ih none⟩
  | token => cases none

/-- Where tokens are parted by a mark, so is the text. -/
theorem Lexes.parted {c : Char} {mark : Token} (only : ∀ w, IsText w mark → w = [c])
    (lexed : Lexes cs (ts ++ mark :: us)) :
    ∃ front back, cs = front ++ c :: back ∧ Lexes front ts ∧ Lexes back us := by
  generalize same : ts ++ mark :: us = all at lexed
  induction lexed generalizing ts with
  | nil => simp at same
  | @space b _ _ blank later ih =>
    obtain ⟨front, back, rfl, before, behind⟩ := ih same
    exact ⟨b :: front, back, rfl, .space blank before, behind⟩
  | @token w _ t _ first later ih =>
    cases ts with
    | nil =>
      obtain ⟨rfl, rfl⟩ := List.cons.inj same
      rw [only w first]
      exact ⟨[], _, rfl, .nil, later⟩
    | cons t' ts =>
      obtain ⟨rfl, others⟩ := List.cons.inj same
      obtain ⟨front, back, rfl, before, behind⟩ := ih others
      exact ⟨w ++ front, back, by rw [List.append_assoc], .token first before, behind⟩

theorem Lexes.enclosed {c d : Char} {opening closing : Token}
    (first : ∀ w, IsText w opening → w = [c]) (last : ∀ w, IsText w closing → w = [d])
    (lexed : Lexes cs (opening :: ts ++ [closing])) :
    ∃ before inner behind, cs = before ++ (c :: inner ++ [d]) ++ behind ∧
      (∀ b ∈ before ++ behind, isSpace b) ∧ Lexes inner ts := by
  obtain ⟨before, rest, rfl, blank, lexed⟩ := @Lexes.parted _ [] _ _ _ first lexed
  obtain ⟨inner, behind, rfl, lexed, blank'⟩ := Lexes.parted last lexed
  refine ⟨before, inner, behind, by simp, ?_, lexed⟩
  exact List.forall_mem_append.mpr ⟨blank.blank_of_nil, blank'.blank_of_nil⟩

theorem Lexes.alone {t : Token} (lexed : Lexes cs [t]) :
    ∃ before w behind, cs = before ++ w ++ behind ∧ (∀ b ∈ before ++ behind, isSpace b) ∧
      IsText w t := by
  generalize same : [t] = ts at lexed
  induction lexed with
  | nil => cases same
  | @space c _ _ blank later ih =>
    obtain ⟨before, w, behind, rfl, blanks, written⟩ := ih same
    exact ⟨c :: before, w, behind, rfl, List.forall_mem_cons.mpr ⟨blank, blanks⟩, written⟩
  | @token w cs _ _ first later =>
    obtain ⟨rfl, rfl⟩ := List.cons.inj same
    exact ⟨[], w, cs, rfl, later.blank_of_nil, first⟩

/-! ## Written forms are read -/

theorem Spells.before {c : Char} (blank : isSpace c) {cs : List Char} {ts : List Token}
    (spells : Spells cs ts) : Spells (c :: cs) ts :=
  spells_nil.mark (isMark_space blank) spells

theorem Spells.behind {c : Char} (blank : isSpace c) {cs : List Char} {ts : List Token}
    (spells : Spells cs ts) : Spells (cs ++ [c]) ts := by
  simpa using spells.mark (isMark_space blank) spells_nil

end Token
end DebugBridge.Json
