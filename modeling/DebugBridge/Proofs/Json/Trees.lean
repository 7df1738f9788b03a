import DebugBridge.Proofs.Json.Building
import DebugBridge.Proofs.Json.Tokens
import DebugBridge.Json.Reader

/-!
# Trees of a written value

The tokens of a value build one tree, and the reader takes the value back from it.
-/

namespace DebugBridge.Json

namespace Value

/-- Induction over a value, with a hypothesis for every item and every member. -/
@[induction_eliminator]
theorem induct {motive : Value → Prop} (null : motive .null) (bool : ∀ b, motive (.bool b))
    (number : ∀ n, motive (.number n)) (text : ∀ s, motive (.text s))
    (array : ∀ items, (∀ v ∈ items, motive v) → motive (.array items))
    (object : ∀ members, (∀ m ∈ members, motive m.2) → motive (.object members)) (v : Value) :
    motive v :=
  @Value.rec motive (fun items => ∀ v ∈ items, motive v)
    (fun members => ∀ m ∈ members, motive m.2) (fun m => motive m.2)
    null bool number text array object
    (fun _ mem => absurd mem List.not_mem_nil)
    (fun _ _ here later => List.forall_mem_cons.mpr ⟨here, later⟩)
    (fun _ mem => absurd mem List.not_mem_nil)
    (fun _ _ here later => List.forall_mem_cons.mpr ⟨here, later⟩)
    (fun _ _ ih => ih) v

mutual

/-- The tree that a value is written as. -/
def tree : Value → Tree
  | .null => .null
  | .bool b => .bool b
  | .number n => .number (some n)
  | .text s => .text (some s)
  | .array items => .array (itemTrees items)
  | .object members => .object (memberTrees members)

/-- The trees of items. -/
def itemTrees : List Value → List Tree
  | [] => []
  | v :: vs => v.tree :: itemTrees vs

/-- The trees of members. -/
def memberTrees : List (String × Value) → List (Option String × Tree)
  | [] => []
  | (k, v) :: rest => (some k, v.tree) :: memberTrees rest

end

end Value

namespace Value

theorem memberOf_memberTrees (m : String × Value) (same : m.2.tree.tokens = m.2.tokens) :
    Tree.memberOf (some m.1, m.2.tree) = .text (some m.1) :: .colon :: m.2.tokens := by
  rw [Tree.memberOf, same]

theorem intercalate_itemTrees {items : List Value} (h : ∀ v ∈ items, v.tree.tokens = v.tokens) :
    [Token.comma].intercalate ((itemTrees items).map Tree.tokens) = itemsTokens items := by
  induction items with
  | nil => rfl
  | cons v vs ih =>
    obtain ⟨here, later⟩ := List.forall_mem_cons.mp h
    cases vs with
    | nil => simp [itemTrees, itemsTokens, here]
    | cons w vs =>
      have others := ih later
      rw [itemTrees, List.map_cons] at others
      rw [itemsTokens_cons_cons, itemTrees, itemTrees, List.map_cons, List.map_cons,
        List.intercalate_cons_cons, others, here, List.append_assoc]
      rfl

theorem intercalate_memberTrees {members : List (String × Value)}
    (h : ∀ m ∈ members, m.2.tree.tokens = m.2.tokens) :
    [Token.comma].intercalate ((memberTrees members).map Tree.memberOf) =
      membersTokens members := by
  induction members with
  | nil => rfl
  | cons m ms ih =>
    obtain ⟨here, later⟩ := List.forall_mem_cons.mp h
    cases ms with
    | nil => simp [memberTrees, membersTokens, Tree.memberOf, here]
    | cons n ms =>
      have others := ih later
      rw [memberTrees, List.map_cons] at others
      rw [membersTokens_cons_cons, memberTrees, memberTrees, List.map_cons, List.map_cons,
        List.intercalate_cons_cons, others, memberOf_memberTrees m here, List.append_assoc]
      rfl

/-- A value is written as its tree is. -/
theorem tokens_tree (v : Value) : v.tree.tokens = v.tokens := by
  induction v with
  | null | bool b | number n | text s => rfl
  | array items ih => rw [tree, tokens, Tree.tokens_array, intercalate_itemTrees ih]
  | object members ih => rw [tree, tokens, Tree.tokens_object, intercalate_memberTrees ih]

end Value

theorem Tree.ofTokens?_tokens (v : Value) : ofTokens? v.tokens = some v.tree :=
  ofTokens?_eq_some_iff.mpr v.tokens_tree.symm

/-! ## Reading -/

namespace Value

theorem values?_itemTrees {room : Nat} {items : List Value}
    (h : ∀ v ∈ items, v.tree.value? room = some v) :
    Tree.values? room (itemTrees items) = some items := by
  induction items with
  | nil => rfl
  | cons v vs ih =>
    obtain ⟨here, later⟩ := List.forall_mem_cons.mp h
    simp [itemTrees, Tree.values?, here, ih later]

theorem membersValue?_memberTrees {room : Nat} {members : List (String × Value)}
    (h : ∀ m ∈ members, m.2.tree.value? room = some m.2) :
    Tree.membersValue? room (memberTrees members) = some members := by
  induction members with
  | nil => rfl
  | cons m ms ih =>
    obtain ⟨here, later⟩ := List.forall_mem_cons.mp h
    simp [memberTrees, Tree.membersValue?, here, ih later]

/-- The reader takes a value back from its tree. -/
theorem value?_tree {room : Nat} {v : Value} (readable : v.Readable room) :
    v.tree.value? room = some v := by
  induction readable with
  | null | bool _ | number _ | text _ => rfl
  | array _ ih => simp [tree, Tree.value?, values?_itemTrees ih]
  | object sorted _ ih =>
    simp [tree, Tree.value?, membersValue?_memberTrees ih, Object.ofMembers_of_sorted sorted]

end Value
end DebugBridge.Json
