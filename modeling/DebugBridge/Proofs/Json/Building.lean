import DebugBridge.Json.Tree
import Mathlib.Data.List.Basic

/-!
# Building trees

A tree is written as the tokens that it consists of, with commas between items and between members
and a colon behind each key. To build is the inverse of that: a sequence of tokens builds a tree
exactly when it is what the tree is written as (`ofTokens?_eq_some_iff`).
-/

namespace DebugBridge.Json.Tree

/-- Induction over a tree, with a hypothesis for every item and every member. -/
@[induction_eliminator]
theorem induct {motive : Tree → Prop} (null : motive .null) (bool : ∀ b, motive (.bool b))
    (number : ∀ n, motive (.number n)) (text : ∀ s, motive (.text s))
    (array : ∀ items, (∀ t ∈ items, motive t) → motive (.array items))
    (object : ∀ members, (∀ m ∈ members, motive m.2) → motive (.object members)) (t : Tree) :
    motive t :=
  @Tree.rec motive (fun items => ∀ t ∈ items, motive t)
    (fun members => ∀ m ∈ members, motive m.2) (fun m => motive m.2)
    null bool number text array object
    (fun _ mem => absurd mem List.not_mem_nil)
    (fun _ _ here later => List.forall_mem_cons.mpr ⟨here, later⟩)
    (fun _ mem => absurd mem List.not_mem_nil)
    (fun _ _ here later => List.forall_mem_cons.mpr ⟨here, later⟩)
    (fun _ _ ih => ih) t

/-! ## What a tree is written as -/

mutual

/-- The tokens that a tree is written as. -/
def tokens : Tree → List Token
  | .null => [.null]
  | .bool b => [.bool b]
  | .number n => [.number n]
  | .text s => [.text s]
  | .array items => .openArray :: [Token.comma].intercalate (itemTokens items) ++ [.closeArray]
  | .object members =>
    .openObject :: [Token.comma].intercalate (memberTokens members) ++ [.closeObject]

/-- The tokens of each item. -/
def itemTokens : List Tree → List (List Token)
  | [] => []
  | t :: ts => t.tokens :: itemTokens ts

/-- The tokens of each member. -/
def memberTokens : List (Option String × Tree) → List (List Token)
  | [] => []
  | (k, t) :: rest => (.text k :: .colon :: t.tokens) :: memberTokens rest

end

/-- The tokens of a member. -/
def memberOf (m : Option String × Tree) : List Token := .text m.1 :: .colon :: m.2.tokens

theorem itemTokens_eq_map (items : List Tree) : itemTokens items = items.map tokens := by
  induction items with
  | nil => rfl
  | cons t ts ih => rw [itemTokens, ih, List.map_cons]

theorem memberTokens_eq_map (members : List (Option String × Tree)) :
    memberTokens members = members.map memberOf := by
  induction members with
  | nil => rfl
  | cons m ms ih => rw [memberTokens, ih, List.map_cons, memberOf]

theorem tokens_array (items : List Tree) : (array items).tokens =
    .openArray :: [Token.comma].intercalate (items.map tokens) ++ [.closeArray] := by
  rw [tokens, itemTokens_eq_map]

theorem tokens_object (members : List (Option String × Tree)) : (object members).tokens =
    .openObject :: [Token.comma].intercalate (members.map memberOf) ++ [.closeObject] := by
  rw [tokens, memberTokens_eq_map]

/-- All parts but the last have the separator behind them. -/
theorem intercalate_concat {α : Type} (separator : α) (parts : List (List α)) (last : List α) :
    [separator].intercalate (parts ++ [last]) = parts.flatMap (· ++ [separator]) ++ last := by
  induction parts with
  | nil => simp
  | cons part parts ih =>
    cases parts with
    | nil => simp
    | cons next parts =>
      rw [List.cons_append] at ih
      simp only [List.cons_append, List.intercalate_cons_cons, ih, List.flatMap_cons,
        List.append_assoc]

/-! ## What has been taken -/

/-- What has been taken of an open container when its next item or the value of its member is to
come, or its next key. -/
def Level.taken : Level → List Token
  | array items => .openArray :: items.reverse.flatMap fun t => t.tokens ++ [.comma]
  | object members => .openObject :: members.reverse.flatMap fun m => memberOf m ++ [.comma]
  | member members key =>
    .openObject :: (members.reverse.flatMap fun m => memberOf m ++ [.comma]) ++ [.text key, .colon]

/-- What has been taken of open containers, the innermost first. -/
def taken (levels : List Level) : List Token := levels.reverse.flatMap Level.taken

theorem taken_cons (level : Level) (outer : List Level) :
    taken (level :: outer) = taken outer ++ level.taken := by
  simp [taken]

theorem taken_next_item (t : Tree) (items : List Tree) (outer : List Level) :
    taken (.array (t :: items) :: outer) =
      taken (.array items :: outer) ++ t.tokens ++ [.comma] := by
  simp [taken_cons, Level.taken]

theorem taken_next_member (m : Option String × Tree) (members : List (Option String × Tree))
    (outer : List Level) :
    taken (.object (m :: members) :: outer) =
      taken (.object members :: outer) ++ memberOf m ++ [.comma] := by
  simp [taken_cons, Level.taken]

theorem taken_last_item (t : Tree) (items : List Tree) (outer : List Level) :
    taken (.array items :: outer) ++ t.tokens ++ [.closeArray] =
      taken outer ++ (array (t :: items).reverse).tokens := by
  rw [tokens_array, List.reverse_cons, List.map_append, List.map_singleton, intercalate_concat,
    List.flatMap_map, taken_cons, Level.taken]
  simp

theorem taken_last_member (m : Option String × Tree) (members : List (Option String × Tree))
    (outer : List Level) :
    taken (.object members :: outer) ++ memberOf m ++ [.closeObject] =
      taken outer ++ (object (m :: members).reverse).tokens := by
  rw [tokens_object, List.reverse_cons, List.map_append, List.map_singleton, intercalate_concat,
    List.flatMap_map, taken_cons, Level.taken]
  simp

namespace Build

/-- The tokens that have been taken where a build stands. -/
inductive Taken : Build → List Token → Prop
  | done (t : Tree) : Taken ⟨.next, [], some t⟩ t.tokens
  | value (levels : List Level) : Taken ⟨.value, levels, none⟩ (taken levels)
  | item (outer : List Level) :
      Taken ⟨.item, .array [] :: outer, none⟩ (taken (.array [] :: outer))
  | member (outer : List Level) :
      Taken ⟨.member, .object [] :: outer, none⟩ (taken (.object [] :: outer))
  | key (levels : List Level) : Taken ⟨.key, levels, none⟩ (taken levels)
  | colon (members : List (Option String × Tree)) (key : Option String) (outer : List Level) :
      Taken ⟨.colon, .member members key :: outer, none⟩
        (taken (.object members :: outer) ++ [.text key])
  | nextItem (t : Tree) (items : List Tree) (outer : List Level) :
      Taken ⟨.next, .array (t :: items) :: outer, none⟩ (taken (.array items :: outer) ++ t.tokens)
  | nextMember (m : Option String × Tree) (members : List (Option String × Tree))
      (outer : List Level) :
      Taken ⟨.next, .object (m :: members) :: outer, none⟩
        (taken (.object members :: outer) ++ memberOf m)

theorem taken_put {b next : Build} {t : Tree} (h : b.put t = some next) :
    Taken next (taken b.levels ++ t.tokens) := by
  rw [put] at h
  split at h
  case h_1 none =>
    cases h
    rw [none]
    exact .done t
  case h_2 items outer opened =>
    cases h
    rw [opened]
    exact .nextItem t items outer
  case h_3 members key outer opened =>
    cases h
    have member := Taken.nextMember (key, t) members outer
    rw [taken_cons] at member
    rw [opened, taken_cons]
    simpa [Level.taken, memberOf] using member
  case h_4 => cases h

theorem taken_leaf {t : Tree} {token : Token} (leaf : leaf? token = some t) :
    t.tokens = [token] := by
  cases token with
  | null | bool | number | text =>
    cases leaf
    rfl
  | openArray | closeArray | openObject | closeObject | comma | colon => cases leaf

theorem taken_value {b next : Build} {token : Token} (done : b.done = none)
    (h : b.value token = some next) : Taken next (taken b.levels ++ [token]) := by
  rw [Build.value.eq_def] at h
  split at h
  case h_1 =>
    cases h
    rw [done]
    have opened := Taken.item b.levels
    rw [taken_cons] at opened
    exact opened
  case h_2 =>
    cases h
    rw [done]
    have opened := Taken.member b.levels
    rw [taken_cons] at opened
    exact opened
  case h_3 =>
    obtain ⟨t, leaf, h⟩ := Option.bind_eq_some_iff.mp h
    rw [← taken_leaf leaf]
    exact taken_put h

theorem taken_key {b next : Build} {token : Token} (done : b.done = none)
    (h : b.key token = some next) : Taken next (taken b.levels ++ [token]) := by
  rw [Build.key.eq_def] at h
  split at h
  case h_1 key =>
    split at h
    case h_1 members outer opened =>
      cases h
      rw [done, opened]
      exact .colon members key outer
    case h_2 => cases h
  case h_2 => cases h

/-- What a step takes comes behind what has been taken. -/
theorem Taken.step {b next : Build} {before : List Token} {token : Token} (taken : Taken b before)
    (h : b.step token = some next) : Taken next (before ++ [token]) := by
  rw [Build.step.eq_def] at h
  cases taken with
  | value levels => exact taken_value rfl h
  | key levels => exact taken_key rfl h
  | done t => cases token <;> cases h
  | item outer =>
    dsimp only at h
    split at h
    case isTrue last =>
      have closed := taken_put h
      rw [tokens_array] at closed
      rw [last, taken_cons, List.append_assoc]
      exact closed
    case isFalse => exact taken_value rfl h
  | member outer =>
    dsimp only at h
    split at h
    case isTrue last =>
      have closed := taken_put h
      rw [tokens_object] at closed
      rw [last, taken_cons, List.append_assoc]
      exact closed
    case isFalse => exact taken_key rfl h
  | colon members key outer =>
    dsimp only at h
    split at h
    case isTrue colon =>
      cases h
      have due := Taken.value (.member members key :: outer)
      rw [taken_cons] at due
      rw [colon, taken_cons]
      simpa [Level.taken] using due
    case isFalse => cases h
  | nextItem t items outer =>
    cases token with
    | comma =>
      cases h
      rw [← taken_next_item]
      exact .value _
    | closeArray =>
      rw [taken_last_item]
      exact taken_put h
    | _ => cases h
  | nextMember m members outer =>
    cases token with
    | comma =>
      cases h
      rw [← taken_next_member]
      exact .key _
    | closeObject =>
      rw [taken_last_member]
      exact taken_put h
    | _ => cases h

theorem Taken.foldlM {b last : Build} {before ts : List Token} (taken : Taken b before)
    (h : ts.foldlM Build.step b = some last) : Taken last (before ++ ts) := by
  induction ts generalizing b before with
  | nil =>
    cases h
    rwa [List.append_nil]
  | cons token ts ih =>
    rw [List.foldlM_cons] at h
    obtain ⟨next, stepped, h⟩ := Option.bind_eq_some_iff.mp h
    rw [List.append_cons]
    exact ih (taken.step stepped) h

end Build

/-- Tokens that build a tree are those that it is written as. -/
theorem eq_tokens_of_ofTokens? {ts : List Token} {t : Tree} (h : ofTokens? ts = some t) :
    ts = t.tokens := by
  obtain ⟨last, built, done⟩ := Option.bind_eq_some_iff.mp h
  have taken : Build.Taken last ([] ++ ts) := (Build.Taken.value []).foldlM built
  cases taken with
  | done t =>
    cases done
    rfl
  | value | item | member | key | colon | nextItem | nextMember => cases done

/-! ## What a tree builds -/

namespace Build

/-- What a tree does where a value may stand: it is put into the innermost container. -/
def Takes (tokens : List Token) (t : Tree) : Prop :=
  ∀ b : Build, b.due = .value ∨ b.due = .item → tokens.foldlM step b = b.put t

theorem takes_leaf {token : Token} {t : Tree} (leaf : leaf? token = some t) :
    Takes [token] t := by
  intro b due
  have value : b.value token = b.put t := by
    cases token <;> simp_all [Build.value, leaf?]
  have inside : token ≠ .closeArray := by
    rintro rfl
    cases leaf
  rcases due with due | due <;> simp [step, due, inside, value]

/-- The items of an array are put into it one after the other. -/
theorem foldlM_items {t : Tree} {ts : List Tree} (h : ∀ u ∈ t :: ts, Takes u.tokens u) {b : Build}
    (due : b.due = .value ∨ b.due = .item) {items : List Tree} {outer : List Level}
    (levels : b.levels = .array items :: outer) :
    ([Token.comma].intercalate ((t :: ts).map tokens)).foldlM step b =
      some ⟨.next, .array ((t :: ts).reverse ++ items) :: outer, none⟩ := by
  induction ts generalizing t b items with
  | nil =>
    rw [List.map_singleton, List.intercalate_singleton, h t List.mem_cons_self b due, put, levels]
    rfl
  | cons u ts ih =>
    obtain ⟨here, later⟩ := List.forall_mem_cons.mp h
    rw [List.map_cons, List.map_cons, List.intercalate_cons_cons, List.append_assoc,
      List.foldlM_append, here b due, put, levels]
    change ([Token.comma].intercalate ((u :: ts).map tokens)).foldlM step
      ⟨.value, .array (t :: items) :: outer, none⟩ = _
    rw [ih later (.inl rfl) rfl]
    simp

/-- A key, a colon and a value are put into the innermost object. -/
theorem foldlM_member {m : Option String × Tree} (takes : Takes m.2.tokens m.2) {b : Build}
    (due : b.due = .key ∨ b.due = .member) {members : List (Option String × Tree)}
    {outer : List Level} (levels : b.levels = .object members :: outer) :
    (memberOf m).foldlM step b = some ⟨.next, .object (m :: members) :: outer, none⟩ := by
  have key : step b (.text m.1) =
      some { b with due := .colon, levels := .member members m.1 :: outer } := by
    rcases due with due | due <;> simp [step, due, Build.key, levels]
  rw [memberOf, List.foldlM_cons, key]
  change m.2.tokens.foldlM step { b with due := .value, levels := .member members m.1 :: outer } = _
  rw [takes _ (.inl rfl)]
  rfl

/-- The members of an object are put into it one after the other. -/
theorem foldlM_members {m : Option String × Tree} {ms : List (Option String × Tree)}
    (h : ∀ n ∈ m :: ms, Takes n.2.tokens n.2) {b : Build}
    (due : b.due = .key ∨ b.due = .member) {members : List (Option String × Tree)}
    {outer : List Level} (levels : b.levels = .object members :: outer) :
    ([Token.comma].intercalate ((m :: ms).map memberOf)).foldlM step b =
      some ⟨.next, .object ((m :: ms).reverse ++ members) :: outer, none⟩ := by
  induction ms generalizing m b members with
  | nil =>
    rw [List.map_singleton, List.intercalate_singleton,
      foldlM_member (h m List.mem_cons_self) due levels]
    rfl
  | cons n ms ih =>
    obtain ⟨here, later⟩ := List.forall_mem_cons.mp h
    rw [List.map_cons, List.map_cons, List.intercalate_cons_cons, List.append_assoc,
      List.foldlM_append, foldlM_member here due levels]
    change ([Token.comma].intercalate ((n :: ms).map memberOf)).foldlM step
      ⟨.key, .object (m :: members) :: outer, none⟩ = _
    rw [ih later (.inl rfl) rfl]
    simp

theorem takes_tokens (t : Tree) : Takes t.tokens t := by
  induction t with
  | null | bool b | number n | text s => exact takes_leaf rfl
  | array items ih =>
    intro b due
    have opened : step b .openArray =
        some { b with due := .item, levels := .array [] :: b.levels } := by
      rcases due with due | due <;> simp [step, due, Build.value]
    rw [tokens_array, List.cons_append, List.foldlM_cons, opened, Option.bind_eq_bind,
      Option.bind_some, List.foldlM_append]
    -- An array without items is closed where its first item is due.
    cases items with
    | nil => simp [step, close, put]
    | cons t ts =>
      rw [foldlM_items ih (.inr rfl) rfl]
      simp [step, close, put]
  | object members ih =>
    intro b due
    have opened : step b .openObject =
        some { b with due := .member, levels := .object [] :: b.levels } := by
      rcases due with due | due <;> simp [step, due, Build.value]
    rw [tokens_object, List.cons_append, List.foldlM_cons, opened, Option.bind_eq_bind,
      Option.bind_some, List.foldlM_append]
    cases members with
    | nil => simp [step, close, put]
    | cons m ms =>
      rw [foldlM_members ih (.inr rfl) rfl]
      simp [step, close, put]

end Build

/-- A sequence of tokens builds a tree exactly when the tree is written so. -/
theorem ofTokens?_eq_some_iff {ts : List Token} {t : Tree} :
    ofTokens? ts = some t ↔ ts = t.tokens := by
  constructor
  · exact eq_tokens_of_ofTokens?
  · rintro rfl
    rw [ofTokens?, Build.takes_tokens t Build.empty (.inl rfl)]
    rfl

end DebugBridge.Json.Tree
