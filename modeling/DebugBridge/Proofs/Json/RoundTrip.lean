import DebugBridge.Proofs.Json.Trees

/-!
# Reading what was written

A readable value without reals is read back from its compact form (`Value.ofString?_compact`),
and every value that has been read is readable (`Value.readable_of_ofString?`). What has been
read can therefore be written and read again as often as one likes.
-/

namespace DebugBridge.Json

/-- A readable value without reals is read back from its compact form. -/
theorem Value.ofString?_compact {v : Value} (readable : v.Readable Tree.maxDepth)
    (integral : v.Integral) : Value.ofString? v.compact = some v := by
  rw [ofString?, Tree.ofString?, (spells_compact readable integral).ofChars?, Option.bind_some,
    Tree.ofTokens?_tokens, Option.bind_some, value?_tree readable]

/-! ## Numbers fit wherever they are read -/

namespace Token

/-- A number that a token denotes fits. -/
def Fits : Token → Prop
  | .number (some n) => n.Fits
  | _ => True

theorem fits_of_ofWord? {letters : List Char} {t : Token} (h : ofWord? letters = some t) :
    t.Fits := by
  rw [ofWord?] at h
  repeat' split at h
  all_goals cases h <;> trivial

theorem fits_of_ofNumeral? {symbols : List Char} {t : Token} (h : ofNumeral? symbols = some t) :
    t.Fits := by
  obtain ⟨w, _, rfl⟩ := Option.map_eq_some_iff.mp h
  cases read : w.value? with
  | none => trivial
  | some n => exact Number.fits_of_value? read

theorem fits_of_start {c : Char} {tokens : List Token} {mode : Mode}
    (h : start c = some (tokens, mode)) : ∀ t ∈ tokens, t.Fits := by
  rw [start] at h
  repeat' split at h
  all_goals cases h <;> simp [Fits]

theorem fits_of_step {mode next : Mode} {c : Char} {tokens : List Token}
    (h : step mode c = some (tokens, next)) : ∀ t ∈ tokens, t.Fits := by
  cases mode with
  | between => exact fits_of_start h
  | word letters =>
    simp only [step] at h
    split at h
    · cases h
      simp
    · obtain ⟨token, word, h⟩ := Option.bind_eq_some_iff.mp h
      obtain ⟨⟨later, mode⟩, started, h⟩ := Option.bind_eq_some_iff.mp h
      cases h
      exact List.forall_mem_cons.mpr ⟨fits_of_ofWord? word, fits_of_start started⟩
  | numeral symbols =>
    simp only [step] at h
    split at h
    · cases h
      simp
    · obtain ⟨token, number, h⟩ := Option.bind_eq_some_iff.mp h
      obtain ⟨⟨later, mode⟩, started, h⟩ := Option.bind_eq_some_iff.mp h
      cases h
      exact List.forall_mem_cons.mpr ⟨fits_of_ofNumeral? number, fits_of_start started⟩
  | inText pieces =>
    simp only [step] at h
    repeat' split at h
    all_goals cases h <;> simp [Fits, ofPieces]
  | escape pieces =>
    simp only [step] at h
    split at h
    · cases h
      simp
    · obtain ⟨d, _, h⟩ := Option.map_eq_some_iff.mp h
      cases h
      simp
  | hexadecimal pieces due code =>
    obtain ⟨d, _, h⟩ := Option.bind_eq_some_iff.mp h
    split at h <;> cases h <;> simp

theorem fits_of_finish {mode : Mode} {tokens : List Token} (h : finish mode = some tokens) :
    ∀ t ∈ tokens, t.Fits := by
  cases mode with
  | between => cases h; simp
  | word letters =>
    obtain ⟨t, word, rfl⟩ := Option.map_eq_some_iff.mp h
    simpa using fits_of_ofWord? word
  | numeral symbols =>
    obtain ⟨t, number, rfl⟩ := Option.map_eq_some_iff.mp h
    simpa using fits_of_ofNumeral? number
  | inText | escape | hexadecimal => cases h

theorem fits_of_scan {cs : List Char} {state next : List Token × Mode}
    (before : ∀ t ∈ state.1, t.Fits) (h : scan state cs = some next) : ∀ t ∈ next.1, t.Fits := by
  induction cs generalizing state with
  | nil => cases h; exact before
  | cons c cs ih =>
    rw [scan_cons] at h
    obtain ⟨⟨tokens, mode⟩, stepped, h⟩ := Option.bind_eq_some_iff.mp h
    refine ih (fun t mem => ?_) h
    rcases List.mem_append.mp mem with new | old
    · exact fits_of_step stepped t (List.mem_reverse.mp new)
    · exact before t old

theorem fits_of_ofChars? {cs : List Char} {tokens : List Token}
    (h : ofChars? cs = some tokens) : ∀ t ∈ tokens, t.Fits := by
  obtain ⟨⟨read, mode⟩, scanned, h⟩ := Option.bind_eq_some_iff.mp h
  obtain ⟨last, finished, h⟩ := Option.bind_eq_some_iff.mp h
  cases h
  intro t mem
  rcases List.mem_append.mp mem with here | there
  · exact fits_of_scan (fun _ mem => absurd mem List.not_mem_nil) scanned t
      (List.mem_reverse.mp here)
  · exact fits_of_finish finished t there

end Token

namespace Tree

/-- Every number of a tree fits. -/
inductive Fits : Tree → Prop
  | null : Fits .null
  | bool (b : Bool) : Fits (.bool b)
  | number {content : Option Number} (fits : ∀ n ∈ content, n.Fits) : Fits (.number content)
  | text (content : Option String) : Fits (.text content)
  | array {items : List Tree} (fits : ∀ t ∈ items, Fits t) : Fits (.array items)
  | object {members : List (Option String × Tree)} (fits : ∀ m ∈ members, Fits m.2) :
      Fits (.object members)

/-- Every number of an open container fits. -/
def Level.Fits : Level → Prop
  | array items => ∀ t ∈ items, t.Fits
  | object members | member members _ => ∀ m ∈ members, m.2.Fits

namespace Build

/-- Every number that has been read fits. -/
structure Fits (b : Build) : Prop where
  levels : ∀ level ∈ b.levels, level.Fits
  done : ∀ t ∈ b.done, t.Fits

/-- Only the numbers of the containers matter: what had been completed is given up. -/
theorem fits_of_put {b next : Build} {t : Tree} (levels : ∀ level ∈ b.levels, level.Fits)
    (fits : t.Fits) (h : b.put t = some next) : next.Fits := by
  rw [put] at h
  split at h
  · cases h
    exact ⟨by simp, by simpa using fits⟩
  · rename_i items outer opened
    rw [opened] at levels
    obtain ⟨inner, outside⟩ := List.forall_mem_cons.mp levels
    cases h
    exact ⟨List.forall_mem_cons.mpr ⟨List.forall_mem_cons.mpr ⟨fits, inner⟩, outside⟩, by simp⟩
  · rename_i members key outer opened
    rw [opened] at levels
    obtain ⟨inner, outside⟩ := List.forall_mem_cons.mp levels
    cases h
    exact ⟨List.forall_mem_cons.mpr ⟨List.forall_mem_cons.mpr ⟨fits, inner⟩, outside⟩, by simp⟩
  · cases h

theorem Fits.close {b next : Build} {array : Bool} (fits : b.Fits)
    (h : b.close array = some next) : next.Fits := by
  have levels := fits.levels
  rw [Build.close.eq_def] at h
  split at h
  · rename_i items outer opened
    rw [opened] at levels
    obtain ⟨inner, outside⟩ := List.forall_mem_cons.mp levels
    exact fits_of_put outside (.array fun t mem => inner t (List.mem_reverse.mp mem)) h
  · rename_i members outer opened
    rw [opened] at levels
    obtain ⟨inner, outside⟩ := List.forall_mem_cons.mp levels
    exact fits_of_put outside (.object fun m mem => inner m (List.mem_reverse.mp mem)) h
  · cases h

theorem fits_of_leaf? {token : Token} {t : Tree} (fits : token.Fits) (h : leaf? token = some t) :
    t.Fits := by
  cases token with
  | null => cases h; exact .null
  | bool b => cases h; exact .bool b
  | text content => cases h; exact .text content
  | number content =>
    cases h
    refine .number fun n mem => ?_
    cases Option.mem_def.mp mem
    exact fits
  | openArray | closeArray | openObject | closeObject | comma | colon => cases h

theorem Fits.value {b next : Build} {t : Token} (fits : b.Fits) (token : t.Fits)
    (h : b.value t = some next) : next.Fits := by
  rw [Build.value.eq_def] at h
  split at h
  · cases h
    exact ⟨List.forall_mem_cons.mpr ⟨fun t mem => absurd mem List.not_mem_nil, fits.levels⟩,
      fits.done⟩
  · cases h
    exact ⟨List.forall_mem_cons.mpr ⟨fun m mem => absurd mem List.not_mem_nil, fits.levels⟩,
      fits.done⟩
  · obtain ⟨leaf, read, put⟩ := Option.bind_eq_some_iff.mp h
    exact fits_of_put fits.levels (fits_of_leaf? token read) put

theorem Fits.key {b next : Build} {t : Token} (fits : b.Fits) (h : b.key t = some next) :
    next.Fits := by
  have levels := fits.levels
  rw [Build.key.eq_def] at h
  split at h
  · split at h
    · rename_i members outer opened
      rw [opened] at levels
      obtain ⟨inner, outside⟩ := List.forall_mem_cons.mp levels
      cases h
      exact ⟨List.forall_mem_cons.mpr ⟨inner, outside⟩, fits.done⟩
    · cases h
  · cases h

theorem Fits.step {b next : Build} {t : Token} (fits : b.Fits) (token : t.Fits)
    (h : b.step t = some next) : next.Fits := by
  rw [Build.step.eq_def] at h
  split at h
  · exact fits.value token h
  · split at h
    · exact fits.close h
    · exact fits.value token h
  · split at h
    · exact fits.close h
    · exact fits.key h
  · exact fits.key h
  · split at h
    · cases h
      exact ⟨fits.levels, fits.done⟩
    · cases h
  · split at h
    · cases h
      exact ⟨fits.levels, fits.done⟩
    · cases h
      exact ⟨fits.levels, fits.done⟩
    · exact fits.close h
    · exact fits.close h
    · cases h

theorem Fits.foldlM {b last : Build} {tokens : List Token} (fits : b.Fits)
    (all : ∀ t ∈ tokens, t.Fits) (h : tokens.foldlM Build.step b = some last) :
    last.Fits := by
  induction tokens generalizing b with
  | nil => cases h; exact fits
  | cons token tokens ih =>
    obtain ⟨here, later⟩ := List.forall_mem_cons.mp all
    rw [List.foldlM_cons] at h
    obtain ⟨next, stepped, h⟩ := Option.bind_eq_some_iff.mp h
    exact ih (fits.step here stepped) later h

theorem fits_empty : empty.Fits := ⟨by simp [empty], by simp [empty]⟩

end Build

theorem fits_of_ofTokens? {tokens : List Token} {t : Tree} (fits : ∀ t ∈ tokens, t.Fits)
    (h : ofTokens? tokens = some t) : t.Fits := by
  obtain ⟨last, built, done⟩ := Option.bind_eq_some_iff.mp h
  exact (Build.fits_empty.foldlM fits built).done t done

/-! ## What has been read is readable -/

theorem exists_of_mem_values? {room : Nat} {items : List Tree} {vs : List Value}
    (h : values? room items = some vs) : ∀ v ∈ vs, ∃ t ∈ items, t.value? room = some v := by
  induction items generalizing vs with
  | nil => cases h; simp
  | cons t ts ih =>
    obtain ⟨v, here, h⟩ := Option.bind_eq_some_iff.mp h
    obtain ⟨rest, later, h⟩ := Option.bind_eq_some_iff.mp h
    cases h
    refine List.forall_mem_cons.mpr ⟨⟨t, List.mem_cons_self, here⟩, fun v mem => ?_⟩
    obtain ⟨t, mem, read⟩ := ih later v mem
    exact ⟨t, List.mem_cons_of_mem _ mem, read⟩

theorem exists_of_mem_membersValue? {room : Nat} {members : List (Option String × Tree)}
    {ms : List (String × Value)} (h : membersValue? room members = some ms) :
    ∀ m ∈ ms, ∃ n ∈ members, n.2.value? room = some m.2 := by
  induction members generalizing ms with
  | nil => cases h; simp
  | cons first members ih =>
    obtain ⟨k, _, h⟩ := Option.bind_eq_some_iff.mp h
    obtain ⟨v, here, h⟩ := Option.bind_eq_some_iff.mp h
    obtain ⟨rest, later, h⟩ := Option.bind_eq_some_iff.mp h
    cases h
    refine List.forall_mem_cons.mpr ⟨⟨first, List.mem_cons_self, here⟩, fun m mem => ?_⟩
    obtain ⟨n, mem, read⟩ := ih later m mem
    exact ⟨n, List.mem_cons_of_mem _ mem, read⟩

theorem Fits.readable {t : Tree} (fits : t.Fits) {room : Nat} {v : Value}
    (h : t.value? room = some v) : v.Readable room := by
  induction fits generalizing room v with
  | null => cases h; exact .null
  | bool b => cases h; exact .bool b
  | number fits =>
    obtain ⟨n, read, rfl⟩ := Option.map_eq_some_iff.mp h
    exact .number (fits n read)
  | text content =>
    obtain ⟨s, _, rfl⟩ := Option.map_eq_some_iff.mp h
    exact .text s
  | array fits ih =>
    cases room with
    | zero => cases h
    | succ room =>
      obtain ⟨vs, read, rfl⟩ := Option.map_eq_some_iff.mp h
      refine .array fun v mem => ?_
      obtain ⟨t, mem, read⟩ := exists_of_mem_values? read v mem
      exact ih t mem read
  | object fits ih =>
    cases room with
    | zero => cases h
    | succ room =>
      obtain ⟨ms, read, rfl⟩ := Option.map_eq_some_iff.mp h
      refine .object (Object.sorted_ofMembers ms) fun m mem => ?_
      obtain ⟨n, mem, read⟩ :=
        exists_of_mem_membersValue? read m (Object.mem_of_mem_ofMembers mem)
      exact ih n mem read

end Tree

/-- Every value that has been read is readable. -/
theorem Value.readable_of_ofString? {s : String} {v : Value} (h : Value.ofString? s = some v) :
    v.Readable Tree.maxDepth := by
  obtain ⟨t, built, read⟩ := Option.bind_eq_some_iff.mp h
  obtain ⟨tokens, spelled, built⟩ := Option.bind_eq_some_iff.mp built
  exact (Tree.fits_of_ofTokens? (Token.fits_of_ofChars? spelled) built).readable read

end DebugBridge.Json
