import DebugBridge.Json.Reader
import DebugBridge.Proofs.Json.Building
import DebugBridge.Proofs.Json.Spelling

/-!
# The grammar of JSON texts

`Spelled` says how values are written: the literals, numbers and texts, arrays and objects of what
is written, with commas and colons between, and blanks around everything. Containers stand inside
each other only as deep as there is room. The reader accepts exactly what is written so, and gives
the value that it is written for (`Value.ofString?_eq_some_iff`).
-/

namespace DebugBridge.Json

open Token (isSpace Piece Pieces IsText Lexes Spells spells_nil content? ofPieces)

/-- A member of an object with the texts of its key and its value. -/
structure WrittenMember where
  keyText : List Char
  key : String
  valueText : List Char
  value : Value

namespace WrittenMember

/-- A colon stands behind the key. -/
def text (m : WrittenMember) : List Char := m.keyText ++ ':' :: m.valueText

def member (m : WrittenMember) : String × Value := (m.key, m.value)

end WrittenMember

/-- A text is that of a value with room for so many containers inside each other. -/
inductive Spelled : Nat → List Char → Value → Prop
  /-- Blanks may stand in front and behind. -/
  | before {room c cs v} (blank : isSpace c) (later : Spelled room cs v) : Spelled room (c :: cs) v
  | behind {room c cs v} (blank : isSpace c) (earlier : Spelled room cs v) :
      Spelled room (cs ++ [c]) v
  | null {room} : Spelled room "null".toList .null
  | yes {room} : Spelled room "true".toList (.bool true)
  | no {room} : Spelled room "false".toList (.bool false)
  /-- A number that can be held. -/
  | number {room cs n} (held : Number.ofChars? cs = some n) : Spelled room cs (.number n)
  /-- A text whose escapes denote characters. -/
  | text {room cs pieces s} (written : Pieces cs pieces) (denoted : content? pieces = some s) :
      Spelled room ('"' :: cs ++ ['"']) (.text (String.ofList s))
  | emptyArray {room cs} (blank : ∀ c ∈ cs, isSpace c) :
      Spelled (room + 1) ('[' :: cs ++ [']']) (.array [])
  | array {room} {items : List (List Char × Value)} (filled : items ≠ [])
      (written : ∀ i ∈ items, Spelled room i.1 i.2) :
      Spelled (room + 1) ('[' :: [','].intercalate (items.map Prod.fst) ++ [']'])
        (.array (items.map Prod.snd))
  | emptyObject {room cs} (blank : ∀ c ∈ cs, isSpace c) :
      Spelled (room + 1) ('\x7b' :: cs ++ ['\x7d']) (.object [])
  /-- Of a repeated key the last member counts. -/
  | object {room} {members : List WrittenMember} (filled : members ≠ [])
      (keys : ∀ m ∈ members, Spelled 0 m.keyText (.text m.key))
      (values : ∀ m ∈ members, Spelled room m.valueText m.value) :
      Spelled (room + 1)
        ('\x7b' :: [','].intercalate (members.map WrittenMember.text) ++ ['\x7d'])
        (.object (Object.ofMembers (members.map WrittenMember.member)))

namespace Spelled
variable {room : Nat} {cs : List Char} {v : Value}

/-! ## What is written is read -/

/-- The text spells the tokens of a tree, which has the value. -/
def Reads (room : Nat) (cs : List Char) (v : Value) : Prop :=
  ∃ t : Tree, Spells cs t.tokens ∧ t.value? room = some v

theorem spells_blanks (blank : ∀ c ∈ cs, isSpace c) : Spells cs [] := by
  induction cs with
  | nil => exact spells_nil
  | cons c cs ih =>
    obtain ⟨first, others⟩ := List.forall_mem_cons.mp blank
    exact (ih others).before first

theorem eq_text_of_value? {t : Tree} {s : String} (h : t.value? room = some (.text s)) :
    t = .text (some s) := by
  cases t with
  | null | bool b => cases h
  | number content =>
    obtain ⟨n, -, value⟩ := Option.map_eq_some_iff.mp h
    cases value
  | text content =>
    obtain ⟨s, rfl, value⟩ := Option.map_eq_some_iff.mp h
    cases value
    rfl
  | array items | object members =>
    rw [Tree.value?] at h
    split at h
    · cases h
    · obtain ⟨_, -, value⟩ := Option.map_eq_some_iff.mp h
      cases value

/-- Spelled texts with commas between them. -/
theorem spells_intercalate {texts : List (List Char)} {parts : List (List Token)}
    (spells : List.Forall₂ Spells texts parts) :
    Spells ([','].intercalate texts) ([Token.comma].intercalate parts) := by
  induction spells with
  | nil => exact spells_nil
  | cons first others ih =>
    cases others with
    | nil => simpa using first
    | cons second others => simpa using first.mark Token.isMark_comma ih

theorem exists_items {items : List (List Char × Value)} (h : ∀ i ∈ items, Reads room i.1 i.2) :
    ∃ ts : List Tree, List.Forall₂ Spells (items.map Prod.fst) (ts.map Tree.tokens) ∧
      Tree.values? room ts = some (items.map Prod.snd) := by
  induction items with
  | nil => exact ⟨[], .nil, rfl⟩
  | cons i items ih =>
    obtain ⟨⟨t, spells, value⟩, others⟩ := List.forall_mem_cons.mp h
    obtain ⟨ts, more, values⟩ := ih others
    exact ⟨t :: ts, .cons spells more, by simp [Tree.values?, value, values]⟩

theorem reads_member {m : WrittenMember} (key : Reads 0 m.keyText (.text m.key))
    (value : Reads room m.valueText m.value) :
    ∃ t : Tree, Spells m.text (Tree.memberOf (some m.key, t)) ∧ t.value? room = some m.value := by
  obtain ⟨k, spellsKey, isText⟩ := key
  obtain ⟨t, spells, value⟩ := value
  obtain rfl := eq_text_of_value? isText
  exact ⟨t, spellsKey.mark Token.isMark_colon spells, value⟩

theorem exists_members {members : List WrittenMember}
    (keys : ∀ m ∈ members, Reads 0 m.keyText (.text m.key))
    (values : ∀ m ∈ members, Reads room m.valueText m.value) :
    ∃ ms : List (Option String × Tree),
      List.Forall₂ Spells (members.map WrittenMember.text) (ms.map Tree.memberOf) ∧
      Tree.membersValue? room ms = some (members.map WrittenMember.member) := by
  induction members with
  | nil => exact ⟨[], .nil, rfl⟩
  | cons m members ih =>
    obtain ⟨key, keys⟩ := List.forall_mem_cons.mp keys
    obtain ⟨value, values⟩ := List.forall_mem_cons.mp values
    obtain ⟨t, spells, value⟩ := reads_member key value
    obtain ⟨ms, more, read⟩ := ih keys values
    refine ⟨(some m.key, t) :: ms, .cons spells more, ?_⟩
    simp [Tree.membersValue?, value, read, WrittenMember.member]

theorem reads (spelled : Spelled room cs v) : Reads room cs v := by
  induction spelled with
  | before blank later ih =>
    obtain ⟨t, spells, value⟩ := ih
    exact ⟨t, spells.before blank, value⟩
  | behind blank earlier ih =>
    obtain ⟨t, spells, value⟩ := ih
    exact ⟨t, spells.behind blank, value⟩
  | null => exact ⟨.null, Token.spells_null, rfl⟩
  | yes => exact ⟨.bool true, Token.spells_bool true, rfl⟩
  | no => exact ⟨.bool false, Token.spells_bool false, rfl⟩
  | number held =>
    obtain ⟨w, written, value⟩ := Option.bind_eq_some_iff.mp held
    refine ⟨.number w.value?, Token.spells_number written, ?_⟩
    rw [Tree.value?, value]
    rfl
  | text written denoted =>
    refine ⟨.text _, Token.spells_text written, ?_⟩
    rw [Tree.value?, denoted]
    rfl
  | emptyArray blank =>
    refine ⟨.array [], ?_, rfl⟩
    rw [Tree.tokens_array]
    exact (spells_blanks blank).enclosed Token.isMark_openArray Token.isMark_closeArray
  | array filled written ih =>
    obtain ⟨ts, spells, values⟩ := exists_items ih
    refine ⟨.array ts, ?_, ?_⟩
    · rw [Tree.tokens_array]
      exact (spells_intercalate spells).enclosed Token.isMark_openArray Token.isMark_closeArray
    · simp [Tree.value?, values]
  | emptyObject blank =>
    refine ⟨.object [], ?_, rfl⟩
    rw [Tree.tokens_object]
    exact (spells_blanks blank).enclosed Token.isMark_openObject Token.isMark_closeObject
  | object filled keys values ihKeys ihValues =>
    obtain ⟨ms, spells, members⟩ := exists_members ihKeys ihValues
    refine ⟨.object ms, ?_, ?_⟩
    · rw [Tree.tokens_object]
      exact (spells_intercalate spells).enclosed Token.isMark_openObject Token.isMark_closeObject
    · simp [Tree.value?, members]

/-! ## What is read is written so -/

theorem blanks_before {blanks : List Char} (blank : ∀ b ∈ blanks, isSpace b)
    (spelled : Spelled room cs v) : Spelled room (blanks ++ cs) v := by
  induction blanks with
  | nil => exact spelled
  | cons b blanks ih =>
    obtain ⟨first, others⟩ := List.forall_mem_cons.mp blank
    exact .before first (ih others)

theorem blanks_behind {blanks : List Char} (blank : ∀ b ∈ blanks, isSpace b)
    (spelled : Spelled room cs v) : Spelled room (cs ++ blanks) v := by
  induction blanks generalizing cs with
  | nil => simpa using spelled
  | cons b blanks ih =>
    obtain ⟨first, others⟩ := List.forall_mem_cons.mp blank
    rw [List.append_cons]
    exact ih others (.behind first spelled)

theorem padded {before w behind : List Char} (blank : ∀ b ∈ before ++ behind, isSpace b)
    (spelled : Spelled room w v) : Spelled room (before ++ w ++ behind) v := by
  obtain ⟨front, back⟩ := List.forall_mem_append.mp blank
  exact (spelled.blanks_before front).blanks_behind back

theorem of_isText {w : List Char} {t : Tree} {token : Token} (leaf : t.tokens = [token])
    (written : IsText w token) (h : t.value? room = some v) : Spelled room w v := by
  cases t with
  | null =>
    cases leaf
    cases h
    cases written
    exact .null
  | bool b =>
    cases leaf
    cases h
    cases written with
    | true => exact .yes
    | false => exact .no
  | number content =>
    cases leaf
    obtain ⟨n, rfl, rfl⟩ := Option.map_eq_some_iff.mp h
    generalize same : Token.number (some n) = token at written
    cases written with
    | @number _ w written =>
      refine .number (Option.bind_eq_some_iff.mpr ⟨w, written, ?_⟩)
      exact (Token.number.inj same).symm
    | _ => cases same
  | text content =>
    cases leaf
    obtain ⟨s, rfl, rfl⟩ := Option.map_eq_some_iff.mp h
    generalize same : Token.text (some s) = token at written
    cases written with
    | @text cs pieces written =>
      obtain ⟨letters, denoted, rfl⟩ := Option.map_eq_some_iff.mp (Token.text.inj same).symm
      exact .text written denoted
    | _ => cases same
  | array items =>
    rw [Tree.tokens_array] at leaf
    simp at leaf
  | object members =>
    rw [Tree.tokens_object] at leaf
    simp at leaf

/-- A text that consists of the tokens of a tree is that of the value of the tree. -/
def Sound (t : Tree) : Prop :=
  ∀ room cs v, Lexes cs t.tokens → t.value? room = some v → Spelled room cs v

theorem sound_leaf {t : Tree} {token : Token} (leaf : t.tokens = [token]) : Sound t := by
  intro room cs v lexed h
  rw [leaf] at lexed
  obtain ⟨before, w, behind, rfl, blank, written⟩ := lexed.alone
  exact padded blank (of_isText leaf written h)

/-- Where tokens are parted by commas, so is the text. -/
theorem lexes_intercalate {parts : List (List Token)} (filled : parts ≠ [])
    (lexed : Lexes cs ([Token.comma].intercalate parts)) :
    ∃ texts, texts ≠ [] ∧ cs = [','].intercalate texts ∧ List.Forall₂ Lexes texts parts := by
  induction parts generalizing cs with
  | nil => exact absurd rfl filled
  | cons part parts ih =>
    cases parts with
    | nil =>
      rw [List.intercalate_singleton] at lexed
      exact ⟨[cs], by simp, by simp, .cons lexed .nil⟩
    | cons next parts =>
      rw [List.intercalate_cons_cons, List.append_assoc] at lexed
      obtain ⟨front, back, rfl, first, others⟩ := lexed.parted fun w mark => by cases mark; rfl
      obtain ⟨texts, some, rfl, all⟩ := ih (List.cons_ne_nil next parts) others
      refine ⟨front :: texts, by simp, ?_, .cons first all⟩
      cases texts with
      | nil => exact absurd rfl some
      | cons text texts => simp

theorem items_of_lexes {ts : List Tree} (sound : ∀ t ∈ ts, Sound t) {texts : List (List Char)}
    {vs : List Value} (lexed : List.Forall₂ Lexes texts (ts.map Tree.tokens))
    (h : Tree.values? room ts = some vs) :
    ∃ items : List (List Char × Value), texts = items.map Prod.fst ∧ vs = items.map Prod.snd ∧
      ∀ i ∈ items, Spelled room i.1 i.2 := by
  induction ts generalizing texts vs with
  | nil =>
    cases lexed
    cases h
    exact ⟨[], rfl, rfl, by simp⟩
  | cons t ts ih =>
    obtain ⟨v, value, h⟩ := Option.bind_eq_some_iff.mp h
    obtain ⟨vs, values, h⟩ := Option.bind_eq_some_iff.mp h
    cases h
    obtain ⟨here, later⟩ := List.forall_mem_cons.mp sound
    cases lexed with
    | @cons text _ texts _ first others =>
      obtain ⟨items, rfl, rfl, spelled⟩ := ih later others values
      exact ⟨(text, v) :: items, rfl, rfl,
        List.forall_mem_cons.mpr ⟨here room text v first value, spelled⟩⟩

theorem member_of_lexes {key : String} {t : Tree} (sound : Sound t) {v : Value}
    (value : t.value? room = some v) (lexed : Lexes cs (Tree.memberOf (some key, t))) :
    ∃ w : WrittenMember, cs = w.text ∧ w.member = (key, v) ∧
      Spelled 0 w.keyText (.text w.key) ∧ Spelled room w.valueText w.value := by
  obtain ⟨front, back, rfl, keyed, valued⟩ :=
    @Lexes.parted _ [.text (some key)] _ _ _ (fun w mark => by cases mark; rfl) lexed
  have spelledKey : Spelled 0 front (.text key) :=
    @sound_leaf (.text (some key)) _ rfl 0 front _ keyed rfl
  exact ⟨⟨front, key, back, v⟩, rfl, rfl, spelledKey, sound room back v valued value⟩

theorem members_of_lexes {ms : List (Option String × Tree)} (sound : ∀ m ∈ ms, Sound m.2)
    {texts : List (List Char)} {values : List (String × Value)}
    (lexed : List.Forall₂ Lexes texts (ms.map Tree.memberOf))
    (h : Tree.membersValue? room ms = some values) :
    ∃ members : List WrittenMember, texts = members.map WrittenMember.text ∧
      values = members.map WrittenMember.member ∧
      ∀ w ∈ members, Spelled 0 w.keyText (.text w.key) ∧ Spelled room w.valueText w.value := by
  induction ms generalizing texts values with
  | nil =>
    cases lexed
    cases h
    exact ⟨[], rfl, rfl, by simp⟩
  | cons m ms ih =>
    obtain ⟨key, t⟩ := m
    obtain ⟨k, rfl, h⟩ := Option.bind_eq_some_iff.mp h
    obtain ⟨v, value, h⟩ := Option.bind_eq_some_iff.mp h
    obtain ⟨values, others, h⟩ := Option.bind_eq_some_iff.mp h
    cases h
    obtain ⟨here, later⟩ := List.forall_mem_cons.mp sound
    cases lexed with
    | cons first rest =>
      obtain ⟨w, rfl, same, spelled⟩ := member_of_lexes here value first
      obtain ⟨members, rfl, rfl, all⟩ := ih later rest others
      exact ⟨w :: members, rfl, by rw [List.map_cons, same],
        List.forall_mem_cons.mpr ⟨spelled, all⟩⟩

theorem sound (t : Tree) : Sound t := by
  induction t with
  | null | bool b | number n | text s => exact sound_leaf rfl
  | array items ih =>
    intro room cs v lexed h
    rw [Tree.tokens_array] at lexed
    obtain ⟨before, inner, behind, rfl, blank, lexed⟩ :=
      lexed.enclosed (fun w mark => by cases mark; rfl) (fun w mark => by cases mark; rfl)
    refine padded blank ?_
    cases room with
    | zero => cases h
    | succ room =>
      obtain ⟨vs, values, rfl⟩ := Option.map_eq_some_iff.mp h
      cases items with
      | nil =>
        cases values
        exact .emptyArray lexed.blank_of_nil
      | cons t ts =>
        obtain ⟨texts, filled, rfl, parts⟩ := lexes_intercalate (by simp) lexed
        obtain ⟨items, rfl, rfl, spelled⟩ := items_of_lexes ih parts values
        exact .array (by simpa using filled) spelled
  | object members ih =>
    intro room cs v lexed h
    rw [Tree.tokens_object] at lexed
    obtain ⟨before, inner, behind, rfl, blank, lexed⟩ :=
      lexed.enclosed (fun w mark => by cases mark; rfl) (fun w mark => by cases mark; rfl)
    refine padded blank ?_
    cases room with
    | zero => cases h
    | succ room =>
      obtain ⟨ms, values, rfl⟩ := Option.map_eq_some_iff.mp h
      cases members with
      | nil =>
        cases values
        exact .emptyObject lexed.blank_of_nil
      | cons m members =>
        obtain ⟨texts, filled, rfl, parts⟩ := lexes_intercalate (by simp) lexed
        obtain ⟨written, rfl, rfl, spelled⟩ := members_of_lexes ih parts values
        exact .object (by simpa using filled) (fun w among => (spelled w among).1) fun w among =>
          (spelled w among).2

end Spelled

/-- The reader accepts what is written by the grammar, and nothing else. -/
theorem Value.ofString?_eq_some_iff {s : String} {v : Value} :
    Value.ofString? s = some v ↔ Spelled Tree.maxDepth s.toList v := by
  constructor
  · intro h
    obtain ⟨t, built, value⟩ := Option.bind_eq_some_iff.mp h
    obtain ⟨tokens, read, built⟩ := Option.bind_eq_some_iff.mp built
    rw [Tree.ofTokens?_eq_some_iff] at built
    subst built
    exact Spelled.sound t _ _ v (Token.lexes_of_ofChars? read) value
  · intro spelled
    obtain ⟨t, spells, value⟩ := spelled.reads
    rw [ofString?, Tree.ofString?, spells.ofChars?, Option.bind_some,
      Tree.ofTokens?_eq_some_iff.mpr rfl, Option.bind_some, value]

end DebugBridge.Json
