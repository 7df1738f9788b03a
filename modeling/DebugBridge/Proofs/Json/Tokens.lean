import DebugBridge.Proofs.Json.Readable
import DebugBridge.Json.Token
import DebugBridge.Json.Writer

/-!
# Tokens of a written value

The compact form of a value is read as the tokens that the value consists of. What a text spells
does not depend on the tokens in front of it, and a punctuation mark or a blank ends a token as the
end of the text does, so spelled texts may be joined by marks. A number spells one token, and so
does a text in whatever way its pieces are written.
-/

namespace DebugBridge.Json

/-! ## Numbers -/

namespace Number

open Token (isNumeral)

theorem isNumeral_of_isDigit {c : Char} (digit : c.isDigit) : isNumeral c := by
  simp [isNumeral, digit]

theorem eq_append_of_spanDigits {cs ds rest : List Char} (h : spanDigits cs = (ds, rest)) :
    cs = ds ++ rest ∧ ∀ c ∈ ds, isNumeral c := by
  cases h
  exact ⟨List.takeWhile_append_dropWhile.symm,
    fun c among => isNumeral_of_isDigit (List.mem_takeWhile_imp among)⟩

theorem isNumeral_of_exponent? {cs : List Char} {e : Option (Bool × List Char)}
    (h : exponent? cs = some e) : ∀ c ∈ cs, isNumeral c := by
  unfold exponent? at h
  split at h
  case h_1 => simp
  case h_2 mark rest =>
    split at h
    case isFalse => cases h
    case isTrue marked =>
      have first : isNumeral mark := by
        rcases (by simpa using marked : mark = 'e' ∨ mark = 'E') with rfl | rfl <;> rfl
      split at h
      rename_i negative ds signed
      split at h
      case isTrue => cases h
      case isFalse all =>
        have digits : ∀ c ∈ ds, isNumeral c := fun c among =>
          isNumeral_of_isDigit ((by simpa using all : _ ∧ ∀ c ∈ ds, c.isDigit).2 c among)
        refine List.forall_mem_cons.mpr ⟨first, ?_⟩
        split at signed
        all_goals cases signed
        case h_1 => exact List.forall_mem_cons.mpr ⟨rfl, digits⟩
        case h_2 => exact List.forall_mem_cons.mpr ⟨rfl, digits⟩
        case h_3 => exact digits

/-- A written number consists of the characters of numbers, and begins with a digit or a sign. -/
theorem symbols_of_written? {cs : List Char} {w : Written} (h : written? cs = some w) :
    (∀ c ∈ cs, isNumeral c) ∧ ∃ c rest, cs = c :: rest ∧ (c.isDigit ∨ c = '-') := by
  unfold written? at h
  split at h
  rename_i negative body signed
  split at h
  rename_i integer tail whole
  have starts : integer.head? = none ∨ ∃ d ds, integer = d :: ds ∧ d.isDigit := by
    cases whole
    cases taken : body.takeWhile Char.isDigit with
    | nil => exact .inl rfl
    | cons d ds =>
      have among : d ∈ body.takeWhile Char.isDigit := taken ▸ List.mem_cons_self
      exact .inr ⟨d, ds, rfl, List.mem_takeWhile_imp among⟩
  obtain ⟨rfl, digits⟩ := eq_append_of_spanDigits whole
  split at h
  case isTrue => cases h
  case isFalse filled =>
    have behind : ∀ c ∈ tail, isNumeral c := by
      split at h
      case h_1 tail _ =>
        split at h
        rename_i fraction tail places
        obtain ⟨rfl, digits⟩ := eq_append_of_spanDigits places
        split at h
        case isTrue => cases h
        case isFalse =>
          obtain ⟨e, exponent, -⟩ := Option.map_eq_some_iff.mp h
          have more := List.forall_mem_append.mpr ⟨digits, isNumeral_of_exponent? exponent⟩
          exact List.forall_mem_cons.mpr ⟨rfl, more⟩
      case h_2 =>
        obtain ⟨e, exponent, -⟩ := Option.map_eq_some_iff.mp h
        exact isNumeral_of_exponent? exponent
    have all : ∀ c ∈ integer ++ tail, isNumeral c := List.forall_mem_append.mpr ⟨digits, behind⟩
    rcases starts with none | ⟨d, ds, rfl, digit⟩
    · rw [List.head?_eq_none_iff] at none
      exact absurd (by simp [none]) filled
    · split at signed
      all_goals cases signed
      case h_1 => exact ⟨List.forall_mem_cons.mpr ⟨rfl, all⟩, '-', _, rfl, .inr rfl⟩
      case h_2 => exact ⟨all, d, _, rfl, .inl digit⟩

end Number

namespace Token

theorem scan_nil (state : List Token × Mode) : scan state [] = some state := rfl

theorem scan_cons (state : List Token × Mode) (c : Char) (cs : List Char) :
    scan state (c :: cs) =
      (step state.2 c).bind fun r => scan (r.1.reverse ++ state.1, r.2) cs := by
  simp only [scan, List.foldlM_cons]
  cases step state.2 c <;> rfl

/-! ## Spelled tokens -/

/-- A text spells tokens if the machine completes them over the text and its end. -/
def Spells (cs : List Char) (tokens : List Token) : Prop :=
  ∀ before, ∃ held mode last, scan (before, .between) cs = some (held ++ before, mode) ∧
    finish mode = some last ∧ tokens = held.reverse ++ last

theorem Spells.ofChars? {cs : List Char} {tokens : List Token} (h : Spells cs tokens) :
    ofChars? cs = some tokens := by
  obtain ⟨held, mode, last, scanned, finished, rfl⟩ := h []
  simp [Token.ofChars?, scanned, finished]

theorem spells_nil : Spells [] [] := fun _ => ⟨[], .between, [], rfl, rfl, rfl⟩

/-- A character that completes tokens by itself and belongs to no longer one: a token by itself, or
a blank. -/
structure IsMark (c : Char) (tokens : List Token) : Prop where
  start : Token.start c = some (tokens, .between)
  not_lower : c.isLower = false
  not_numeral : isNumeral c = false

/-- A mark ends what the machine holds as the end of the text does. -/
theorem IsMark.step {c : Char} {tokens : List Token} (mark : IsMark c tokens) {mode : Mode}
    {last : List Token} (finished : finish mode = some last) :
    Token.step mode c = some (last ++ tokens, .between) := by
  cases mode with
  | between => cases finished; exact mark.start
  | word letters =>
    obtain ⟨word, read, rfl⟩ := Option.map_eq_some_iff.mp finished
    simp [Token.step, mark.not_lower, read, mark.start]
  | numeral symbols =>
    obtain ⟨number, read, rfl⟩ := Option.map_eq_some_iff.mp finished
    simp [Token.step, mark.not_numeral, read, mark.start]
  | inText | escape | hexadecimal => cases finished

/-- Two spelled texts with a mark between them. -/
theorem Spells.mark {cs ds : List Char} {ts us : List Token} (left : Spells cs ts) {c : Char}
    {tokens : List Token} (mark : IsMark c tokens) (right : Spells ds us) :
    Spells (cs ++ c :: ds) (ts ++ (tokens ++ us)) := by
  intro before
  obtain ⟨held, mode, last, scanned, finished, rfl⟩ := left before
  obtain ⟨held', mode', last', scanned', finished', rfl⟩ :=
    right (tokens.reverse ++ (last.reverse ++ (held ++ before)))
  refine ⟨held' ++ (tokens.reverse ++ (last.reverse ++ held)), mode', last', ?_, finished', by simp⟩
  rw [scan_append, scanned, Option.bind_some, scan_cons, mark.step finished, Option.bind_some]
  simpa using scanned'

theorem Spells.enclosed {cs : List Char} {ts : List Token} (h : Spells cs ts) {c d : Char}
    {opening closing : Token} (first : IsMark c [opening]) (last : IsMark d [closing]) :
    Spells (c :: cs ++ [d]) (opening :: ts ++ [closing]) :=
  (spells_nil.mark first h).mark last spells_nil

theorem isMark_openArray : IsMark '[' [.openArray] := ⟨rfl, rfl, rfl⟩

theorem isMark_closeArray : IsMark ']' [.closeArray] := ⟨rfl, rfl, rfl⟩

theorem isMark_openObject : IsMark '\x7b' [.openObject] := ⟨rfl, rfl, rfl⟩

theorem isMark_closeObject : IsMark '\x7d' [.closeObject] := ⟨rfl, rfl, rfl⟩

theorem isMark_comma : IsMark ',' [.comma] := ⟨rfl, rfl, rfl⟩

theorem isMark_colon : IsMark ':' [.colon] := ⟨rfl, rfl, rfl⟩

theorem isMark_space {c : Char} (blank : isSpace c) : IsMark c [] := by
  simp only [isSpace, Bool.or_eq_true, decide_eq_true_eq] at blank
  rcases blank with ((rfl | rfl) | rfl) | rfl <;> exact ⟨rfl, rfl, rfl⟩

/-! ## Words and numerals -/

theorem spells_null : Spells "null".toList [.null] := fun _ => ⟨[], _, _, rfl, rfl, rfl⟩

theorem spells_bool (b : Bool) : Spells (Value.compact (.bool b)).toList [.bool b] := by
  intro before
  cases b
  · exact ⟨[], _, _, rfl, rfl, rfl⟩
  · exact ⟨[], _, _, rfl, rfl, rfl⟩

/-- The characters of numbers extend a numeral. -/
theorem scan_symbols {before : List Token} {symbols cs : List Char}
    (numeral : ∀ c ∈ cs, isNumeral c) :
    scan (before, .numeral symbols) cs = some (before, .numeral (cs.reverse ++ symbols)) := by
  induction cs generalizing symbols with
  | nil => rfl
  | cons c cs ih =>
    obtain ⟨here, rest⟩ := List.forall_mem_cons.mp numeral
    rw [scan_cons]
    simp only [step, here, if_true, Option.bind_some, List.reverse_nil, List.nil_append]
    rw [ih rest]
    simp

theorem start_digit {d : Char} (digit : d.isDigit) : start d = some ([], .numeral [d]) := by
  have apart : ∀ c : Char, c.isDigit = false → d ≠ c := by
    rintro c other rfl
    rw [digit] at other
    cases other
  simp [start, isSpace, digit, apart]

theorem spells_number {cs : List Char} {w : Number.Written}
    (written : Number.written? cs = some w) : Spells cs [.number w.value?] := by
  intro before
  obtain ⟨symbols, c, rest, rfl, first⟩ := Number.symbols_of_written? written
  have begun : start c = some ([], .numeral [c]) := by
    rcases first with digit | rfl
    · exact start_digit digit
    · rfl
  refine ⟨[], .numeral (c :: rest).reverse, [.number w.value?], ?_, ?_, rfl⟩
  · rw [scan_cons]
    simp only [step, begun, Option.bind_some]
    rw [List.reverse_nil, List.nil_append, scan_symbols (List.forall_mem_cons.mp symbols).2,
      List.reverse_cons]
  · simp [finish, ofNumeral?, written]

theorem spells_whole {n : Int} (fits : (Number.whole n).Fits) :
    Spells (Number.text (.whole n)).toList [.number (some (.whole n))] := by
  have spells := spells_number (Number.written?_numeral n)
  rwa [Number.value?_numeral fits, ← Number.toList_text_whole] at spells

/-! ## Texts -/

/-- How a piece of a text is written: as the character that it is, as an escape for one, or as an
escape with four hexadecimal digits. -/
inductive IsPiece : List Char → Piece → Prop
  | char {c : Char} (quote : c ≠ '"') (backslash : c ≠ '\\') (printed : ¬ c.toNat < 0x20) :
      IsPiece [c] (.char c)
  | escape {c d : Char} (known : unescape? c = some d) : IsPiece ['\\', c] (.char d)
  | unit {a b c d : Char} {p q r s : Nat} (first : hexDigit? a = some p)
      (second : hexDigit? b = some q) (third : hexDigit? c = some r)
      (fourth : hexDigit? d = some s) :
      IsPiece ['\\', 'u', a, b, c, d] (.unit (16 * (16 * (16 * p + q) + r) + s))

/-- How the pieces of a text are written. -/
inductive Pieces : List Char → List Piece → Prop
  | nil : Pieces [] []
  | cons {w cs : List Char} {piece : Piece} {pieces : List Piece} (first : IsPiece w piece)
      (others : Pieces cs pieces) : Pieces (w ++ cs) (piece :: pieces)

theorem scan_piece {w : List Char} {piece : Piece} (written : IsPiece w piece)
    (before : List Token) (earlier : List Piece) :
    scan (before, .inText earlier) w = some (before, .inText (piece :: earlier)) := by
  cases written with
  | char quote backslash printed =>
    simp [scan_cons, scan_nil, step, quote, backslash, printed]
  | @escape c d known =>
    have other : c ≠ 'u' := by
      rintro rfl
      cases known
    simp [scan_cons, scan_nil, step, known, other]
  | unit first second third fourth =>
    simp [scan_cons, scan_nil, step, first, second, third, fourth]

theorem scan_pieces {cs : List Char} {pieces : List Piece} (written : Pieces cs pieces)
    (before : List Token) (earlier : List Piece) :
    scan (before, .inText earlier) cs = some (before, .inText (pieces.reverse ++ earlier)) := by
  induction written generalizing earlier with
  | nil => rfl
  | cons first others ih =>
    rw [scan_append, scan_piece first, Option.bind_some, ih, List.reverse_cons, List.append_assoc]
    rfl

theorem spells_text {cs : List Char} {pieces : List Piece} (written : Pieces cs pieces) :
    Spells ('"' :: cs ++ ['"']) [ofPieces pieces] := by
  intro before
  refine ⟨[ofPieces pieces], .between, [], ?_, rfl, rfl⟩
  rw [List.cons_append, scan_cons]
  simp only [step, show start '"' = some ([], .inText []) from rfl, Option.bind_some]
  rw [scan_append, List.reverse_nil, List.nil_append, scan_pieces written, Option.bind_some,
    scan_cons]
  simp [step, scan_nil]

theorem hexDigit?_digitChar {d : Nat} (h : d < 16) : hexDigit? (Nat.digitChar d) = some d := by
  revert h
  revert d
  decide

/-- What a character is written as inside a text is one piece, which denotes it. -/
structure Escapes (c : Char) (piece : Piece) : Prop where
  written : IsPiece (escapeChar c) piece
  content? : ∀ rest, content? (piece :: rest) = (content? rest).map (c :: ·)

theorem escapes_control {c : Char} (control : c.toNat < 0x20)
    (written : escapeChar c =
      ['\\', 'u', '0', '0', Nat.digitChar (c.toNat / 16), Nat.digitChar (c.toNat % 16)]) :
    Escapes c (.unit c.toNat) where
  written := by
    have high := hexDigit?_digitChar (d := c.toNat / 16) (by omega)
    have low := hexDigit?_digitChar (d := c.toNat % 16) (by omega)
    have zero : hexDigit? '0' = some 0 := rfl
    have unit := IsPiece.unit zero zero high low
    have code : 16 * (16 * (16 * 0 + 0) + c.toNat / 16) + c.toNat % 16 = c.toNat := by omega
    rwa [code, ← written] at unit
  content? rest := by
    have outside : c.toNat < 0xD800 := by omega
    rw [Token.content?.eq_def]
    simp [outside, Char.ofNat_toNat]

/-- Every character is taken back from a text in which it is written. -/
theorem exists_escapes (c : Char) : ∃ piece, Escapes c piece := by
  have written := escapeChar.eq_def c
  have letter {c d : Char} (known : unescape? d = some c) (written : escapeChar c = ['\\', d]) :
      ∃ piece, Escapes c piece := ⟨.char c, written ▸ .escape known, fun _ => rfl⟩
  split at written
  · exact letter rfl written
  · exact letter rfl written
  · exact letter rfl written
  · exact letter rfl written
  · exact letter rfl written
  · exact letter rfl written
  · exact letter rfl written
  · rename_i quote backslash _ _ _ _ _
    split at written
    · rename_i control
      exact ⟨_, escapes_control control written⟩
    · rename_i printed
      exact ⟨.char c, written ▸ .char quote backslash printed, fun _ => rfl⟩

/-- A text is taken back from what it is written as. -/
theorem exists_pieces (cs : List Char) :
    ∃ pieces, content? pieces = some cs ∧ Pieces (cs.flatMap escapeChar) pieces := by
  induction cs with
  | nil => exact ⟨[], rfl, .nil⟩
  | cons c cs ih =>
    obtain ⟨pieces, denoted, written⟩ := ih
    obtain ⟨piece, first, meant⟩ := exists_escapes c
    exact ⟨piece :: pieces, by rw [meant, denoted]; rfl, .cons first written⟩

theorem spells_quote (s : String) : Spells (quote s).toList [.text (some s)] := by
  obtain ⟨pieces, denoted, written⟩ := exists_pieces s.toList
  have spells := spells_text written
  rw [ofPieces, denoted, Option.map_some, String.ofList_toList] at spells
  rwa [quote, String.toList_ofList]

end Token

/-! ## Values -/

namespace Value

mutual

/-- The tokens that a value is written as. -/
def tokens : Value → List Token
  | .null => [.null]
  | .bool b => [.bool b]
  | .number n => [.number (some n)]
  | .text s => [.text (some s)]
  | .array items => .openArray :: itemsTokens items ++ [.closeArray]
  | .object members => .openObject :: membersTokens members ++ [.closeObject]

/-- The tokens of items, with commas between them. -/
def itemsTokens : List Value → List Token
  | [] => []
  | [v] => v.tokens
  | v :: vs => v.tokens ++ .comma :: itemsTokens vs

/-- The tokens of members, with commas between them. -/
def membersTokens : List (String × Value) → List Token
  | [] => []
  | [(k, v)] => .text (some k) :: .colon :: v.tokens
  | (k, v) :: rest => .text (some k) :: .colon :: v.tokens ++ .comma :: membersTokens rest

end

theorem itemsTokens_cons_cons (v w : Value) (vs : List Value) :
    itemsTokens (v :: w :: vs) = v.tokens ++ .comma :: itemsTokens (w :: vs) := by
  simp [itemsTokens]

theorem membersTokens_cons_cons (m n : String × Value) (rest : List (String × Value)) :
    membersTokens (m :: n :: rest) =
      .text (some m.1) :: .colon :: m.2.tokens ++ .comma :: membersTokens (n :: rest) := by
  simp [membersTokens]

open Token (Spells spells_nil)

theorem spells_compactItems {items : List Value}
    (h : ∀ v ∈ items, Spells v.compact.toList v.tokens) :
    Spells (compactItems items).toList (itemsTokens items) := by
  induction items with
  | nil => exact spells_nil
  | cons v vs ih =>
    obtain ⟨here, later⟩ := List.forall_mem_cons.mp h
    cases vs with
    | nil => simpa only [compactItems, itemsTokens] using here
    | cons w vs =>
      have joined := here.mark Token.isMark_comma (ih later)
      simpa [compactItems, itemsTokens_cons_cons] using joined

theorem spells_member (k : String) {v : Value} (h : Spells v.compact.toList v.tokens) :
    Spells (quote k ++ ":" ++ v.compact).toList (.text (some k) :: .colon :: v.tokens) := by
  simpa using (Token.spells_quote k).mark Token.isMark_colon h

theorem spells_compactMembers {members : List (String × Value)}
    (h : ∀ m ∈ members, Spells m.2.compact.toList m.2.tokens) :
    Spells (compactMembers members).toList (membersTokens members) := by
  induction members with
  | nil => exact spells_nil
  | cons m rest ih =>
    obtain ⟨here, later⟩ := List.forall_mem_cons.mp h
    cases rest with
    | nil => simpa only [compactMembers, membersTokens] using spells_member m.1 here
    | cons n rest =>
      have joined := (spells_member m.1 here).mark Token.isMark_comma (ih later)
      simpa [compactMembers, membersTokens_cons_cons] using joined

/-- The compact form of a value is read as the tokens of the value. -/
theorem spells_compact {room : Nat} {v : Value} (readable : v.Readable room)
    (integral : v.Integral) : Spells v.compact.toList v.tokens := by
  induction readable with
  | null => exact Token.spells_null
  | bool b => exact Token.spells_bool b
  | number fits =>
    cases integral with
    | whole n => exact Token.spells_whole fits
  | text s => exact Token.spells_quote s
  | array _ ih =>
    cases integral with
    | array integral =>
      have items := spells_compactItems fun v mem => ih v mem (integral v mem)
      simpa [compact, tokens] using
        items.enclosed Token.isMark_openArray Token.isMark_closeArray
  | object _ _ ih =>
    cases integral with
    | object integral =>
      have members := spells_compactMembers fun m mem => ih m mem (integral m mem)
      simpa [compact, tokens] using
        members.enclosed Token.isMark_openObject Token.isMark_closeObject

end Value
end DebugBridge.Json
