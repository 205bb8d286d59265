import Mathlib.Data.List.Basic
import Mathlib.Data.List.Induction
import Mathlib.Data.Set.Function
import Mathlib.Tactic.Ring

/-!
# Perfect Merkle trees

Perfect binary trees with items at their leaves, hashed from the leaves up by a function `h` of
inputs of two kinds, leaves and nodes. A proof that an item is the leaf of a given number is the
list of the siblings on the way from the leaf to the root; `walk` recomputes the root from it, with
the bits of the number, the lowest first, telling the sides.

`walk_sound` is the soundness of such a proof: if the walk ends in the root of some perfect tree,
then the path is as long as the tree is deep and the item is the leaf of that number, provided that
`h` has no collision among the inputs hashed in the walk and in the tree. `walk_complete` is the
converse: the walk over the siblings of a leaf ends in the root, whatever `h` is.
-/

namespace Merkle

variable {π δ : Type*}

/-- What is hashed: an item, or two digests. -/
inductive Input (π δ : Type*)
  | leaf (item : π)
  | node (left right : δ)

/-- Perfect binary trees by depth. -/
inductive Tree (π : Type*) : ℕ → Type _
  | leaf (item : π) : Tree π 0
  | node {d : ℕ} (left right : Tree π d) : Tree π (d + 1)

namespace Tree

/-- The items, from left to right. -/
def leaves : {d : ℕ} → Tree π d → List π
  | 0, leaf item => [item]
  | _ + 1, node left right => left.leaves ++ right.leaves

/-- The digest at the root. -/
def root (h : Input π δ → δ) : {d : ℕ} → Tree π d → δ
  | 0, leaf item => h (.leaf item)
  | _ + 1, node left right => h (.node (left.root h) (right.root h))

/-- The siblings of the leaf of a number, from the leaf up. -/
def siblings (h : Input π δ → δ) (number : ℕ) : {d : ℕ} → Tree π d → List δ
  | 0, leaf _ => []
  | d + 1, node left right =>
    if number / 2 ^ d % 2 = 0 then left.siblings h number ++ [right.root h]
    else right.siblings h number ++ [left.root h]

/-- The tree with one item at all leaves. -/
def constant (item : π) : (d : ℕ) → Tree π d
  | 0 => leaf item
  | d + 1 => node (constant item d) (constant item d)

/-- The inputs that are hashed for the root. -/
def inputs (h : Input π δ → δ) : {d : ℕ} → Tree π d → Set (Input π δ)
  | 0, leaf item => {.leaf item}
  | _ + 1, node left right =>
    insert (.node (left.root h) (right.root h)) (left.inputs h ∪ right.inputs h)

theorem length_leaves {d : ℕ} (t : Tree π d) : t.leaves.length = 2 ^ d := by
  induction t with
  | leaf item => rfl
  | node left right ihl ihr =>
    rw [leaves, List.length_append, ihl, ihr, Nat.pow_succ, Nat.mul_two]

theorem length_siblings (h : Input π δ → δ) (number : ℕ) {d : ℕ} (t : Tree π d) :
    (t.siblings h number).length = d := by
  induction t with
  | leaf item => rfl
  | node left right ihl ihr =>
    rw [siblings]
    split
    · rw [List.length_append, ihl, List.length_singleton]
    · rw [List.length_append, ihr, List.length_singleton]

theorem leaves_constant (item : π) (d : ℕ) :
    (constant item d).leaves = List.replicate (2 ^ d) item := by
  induction d with
  | zero => rfl
  | succ d ih => rw [constant, leaves, ih, List.replicate_append_replicate, ← Nat.two_pow_succ]

theorem root_of_const {h : Input π δ → δ} {digest : δ} (hconst : ∀ input, h input = digest) {d : ℕ}
    (t : Tree π d) : t.root h = digest := by
  cases t with
  | leaf item => exact hconst _
  | node left right => exact hconst _

theorem siblings_of_const {h : Input π δ → δ} {digest : δ} (hconst : ∀ input, h input = digest)
    (number : ℕ) {d : ℕ} (t : Tree π d) : t.siblings h number = List.replicate d digest := by
  induction t with
  | leaf item => rfl
  | node left right ihl ihr =>
    rw [siblings, ihl, ihr, root_of_const hconst, root_of_const hconst, ite_self,
      List.replicate_succ']

/-- The bits of a number up to `k` are its bit `k` and those below. -/
theorem mod_two_pow_succ (n k : ℕ) : n % 2 ^ (k + 1) = n / 2 ^ k % 2 * 2 ^ k + n % 2 ^ k := by
  rw [Nat.pow_succ, Nat.mod_mul, Nat.add_comm, Nat.mul_comm (2 ^ k)]

/-- A leaf whose number has bit `d` clear lies in the left half of a tree of depth `d + 1`. -/
theorem getElem?_leaves_left {d : ℕ} (left right : Tree π d) {number : ℕ}
    (hbit : number / 2 ^ d % 2 = 0) :
    (node left right).leaves[number % 2 ^ (d + 1)]? = left.leaves[number % 2 ^ d]? := by
  have hlt : number % 2 ^ d < left.leaves.length := by
    rw [length_leaves]
    exact Nat.mod_lt _ (Nat.two_pow_pos _)
  rw [mod_two_pow_succ, hbit, Nat.zero_mul, Nat.zero_add, leaves, List.getElem?_append_left hlt]

/-- A leaf whose number has bit `d` set lies in the right half. -/
theorem getElem?_leaves_right {d : ℕ} (left right : Tree π d) {number : ℕ}
    (hbit : number / 2 ^ d % 2 = 1) :
    (node left right).leaves[number % 2 ^ (d + 1)]? = right.leaves[number % 2 ^ d]? := by
  rw [mod_two_pow_succ, hbit, Nat.one_mul, leaves,
    List.getElem?_append_right (by rw [length_leaves]; omega), length_leaves,
    Nat.add_sub_cancel_left]

end Tree

/-- The digest and the number that are left after the walk over a path of siblings. -/
def walk (h : Input π δ → δ) (digest : δ) (number : ℕ) : List δ → δ × ℕ
  | [] => (digest, number)
  | sibling :: path =>
    walk h (if number % 2 = 0 then h (.node digest sibling) else h (.node sibling digest))
      (number / 2) path

/-- The inputs that are hashed on the walk. -/
def walkInputs (h : Input π δ → δ) (digest : δ) (number : ℕ) : List δ → Set (Input π δ)
  | [] => ∅
  | sibling :: path =>
    insert (if number % 2 = 0 then .node digest sibling else .node sibling digest)
      (walkInputs h
        (if number % 2 = 0 then h (.node digest sibling) else h (.node sibling digest))
        (number / 2) path)

/-- All inputs that are hashed for an item and its path. -/
def proofInputs (h : Input π δ → δ) (item : π) (number : ℕ) (path : List δ) :
    Set (Input π δ) :=
  insert (.leaf item) (walkInputs h (h (.leaf item)) number path)

section Walk

variable (h : Input π δ → δ) (digest : δ) (number : ℕ) (path : List δ)

/-- The walk consumes one bit of the number for each sibling. -/
theorem walk_snd : (walk h digest number path).2 = number / 2 ^ path.length := by
  induction path generalizing digest number with
  | nil => simp [walk]
  | cons sibling path ih =>
    rw [walk, ih, List.length_cons, Nat.pow_succ, Nat.div_div_eq_div_mul, Nat.mul_comm]

/-- The last step of a walk. -/
theorem walk_concat (sibling : δ) : (walk h digest number (path ++ [sibling])).1 =
    if number / 2 ^ path.length % 2 = 0 then h (.node (walk h digest number path).1 sibling)
    else h (.node sibling (walk h digest number path).1) := by
  induction path generalizing digest number with
  | nil => simp [walk]
  | cons s path ih =>
    rw [List.cons_append, walk, ih, List.length_cons, Nat.pow_succ, Nat.div_div_eq_div_mul,
      Nat.mul_comm 2]
    rfl

/-- The inputs of a walk are those of the walk before its last step, and that of the last step. -/
theorem walkInputs_concat (sibling : δ) : walkInputs h digest number (path ++ [sibling]) =
    insert (if number / 2 ^ path.length % 2 = 0 then .node (walk h digest number path).1 sibling
      else .node sibling (walk h digest number path).1) (walkInputs h digest number path) := by
  induction path generalizing digest number with
  | nil => simp [walk, walkInputs]
  | cons s path ih =>
    rw [List.cons_append, walkInputs, ih, List.length_cons, Nat.pow_succ, Nat.div_div_eq_div_mul,
      Nat.mul_comm 2, Set.insert_comm]
    rfl

end Walk

/-- The walk that ends in the root of a tree, whatever is left of the number. -/
theorem walk_sound_aux {h : Input π δ → δ} {item : π} {number : ℕ} {path : List δ} {d : ℕ}
    {t : Tree π d} (hroot : (walk h (h (.leaf item)) number path).1 = t.root h)
    (hinj : Set.InjOn h (proofInputs h item number path ∪ t.inputs h)) :
    path.length = d ∧ t.leaves[number % 2 ^ d]? = some item := by
  induction path using List.reverseRecOn generalizing d with
  | nil =>
    cases t with
    | leaf item' =>
      -- both are leaves
      have heq := hinj (Or.inl (Set.mem_insert _ _)) (Or.inr rfl) hroot
      rw [Input.leaf.injEq] at heq
      subst heq
      exact ⟨rfl, by simp [Tree.leaves, Nat.mod_one]⟩
    | node left right =>
      -- a leaf against a node
      have heq := hinj (Or.inl (Set.mem_insert _ _)) (Or.inr (Set.mem_insert _ _)) hroot
      cases heq
  | append_singleton path sibling ih =>
    rw [walk_concat] at hroot
    have hwalk : (if number / 2 ^ path.length % 2 = 0 then
          Input.node (walk h (h (.leaf item)) number path).1 sibling
        else .node sibling (walk h (h (.leaf item)) number path).1) ∈
        proofInputs h item number (path ++ [sibling]) := by
      rw [proofInputs, walkInputs_concat]
      exact Set.mem_insert_of_mem _ (Set.mem_insert _ _)
    have hsub : proofInputs h item number path ⊆ proofInputs h item number (path ++ [sibling]) := by
      rw [proofInputs, proofInputs, walkInputs_concat]
      exact Set.insert_subset_insert (Set.subset_insert _ _)
    rw [← apply_ite h] at hroot
    cases t with
    | leaf item' =>
      -- a node against a leaf
      have heq := hinj (Or.inl hwalk) (Or.inr rfl) hroot
      split at heq <;> cases heq
    | node left right =>
      -- two nodes: the walk before its last step ends in the root of one half
      have heq := hinj (Or.inl hwalk) (Or.inr (Set.mem_insert _ _)) hroot
      have hleft : left.inputs h ⊆ (Tree.node left right).inputs h :=
        fun _ hx => Set.mem_insert_of_mem _ (Or.inl hx)
      have hright : right.inputs h ⊆ (Tree.node left right).inputs h :=
        fun _ hx => Set.mem_insert_of_mem _ (Or.inr hx)
      split at heq
      · rename_i hbit
        rw [Input.node.injEq] at heq
        obtain ⟨hlen, hget⟩ := ih heq.1 (hinj.mono (Set.union_subset_union hsub hleft))
        subst hlen
        exact ⟨List.length_append, (left.getElem?_leaves_left right hbit).trans hget⟩
      · rename_i hbit
        have hone : number / 2 ^ path.length % 2 = 1 := by omega
        rw [Input.node.injEq] at heq
        obtain ⟨hlen, hget⟩ := ih heq.2 (hinj.mono (Set.union_subset_union hsub hright))
        subst hlen
        exact ⟨List.length_append, (left.getElem?_leaves_right right hone).trans hget⟩

/-- **Soundness of Merkle proofs.** If the walk from an item consumes its number and ends in the
root of a perfect tree, and `h` has no collision among the inputs of the walk and of the tree, then
the path is as long as the tree is deep and the item is the leaf of that number. -/
theorem walk_sound {h : Input π δ → δ} {item : π} {number : ℕ} {path : List δ} {d : ℕ}
    {t : Tree π d} (hwalk : walk h (h (.leaf item)) number path = (t.root h, 0))
    (hinj : Set.InjOn h (proofInputs h item number path ∪ t.inputs h)) :
    path.length = d ∧ t.leaves[number]? = some item := by
  obtain ⟨hlen, hget⟩ := walk_sound_aux (congrArg Prod.fst hwalk) hinj
  have hnumber : number / 2 ^ path.length = 0 := by
    rw [← walk_snd h (h (.leaf item)), hwalk]
  rw [hlen, Nat.div_eq_zero_iff] at hnumber
  have hlt : number < 2 ^ d := hnumber.resolve_left (Nat.two_pow_pos d).ne'
  rw [Nat.mod_eq_of_lt hlt] at hget
  exact ⟨hlen, hget⟩

/-- The walk over the siblings of a leaf ends in the root, whatever is left of the number. -/
theorem walk_siblings (h : Input π δ → δ) {item : π} {number : ℕ} {d : ℕ} {t : Tree π d}
    (hitem : t.leaves[number % 2 ^ d]? = some item) :
    (walk h (h (.leaf item)) number (t.siblings h number)).1 = t.root h := by
  induction t with
  | leaf item' =>
    simp only [Tree.leaves, Nat.pow_zero, Nat.mod_one, List.getElem?_cons_zero,
      Option.some.injEq] at hitem
    subst hitem
    rfl
  | @node d left right ihl ihr =>
    rw [Tree.siblings]
    by_cases hbit : number / 2 ^ d % 2 = 0
    · rw [left.getElem?_leaves_left right hbit] at hitem
      rw [if_pos hbit, walk_concat, Tree.length_siblings, if_pos hbit, ihl hitem, Tree.root]
    · have hone : number / 2 ^ d % 2 = 1 := by omega
      rw [left.getElem?_leaves_right right hone] at hitem
      rw [if_neg hbit, walk_concat, Tree.length_siblings, if_neg hbit, ihr hitem, Tree.root]

/-- **Completeness of Merkle proofs.** The walk from a leaf over its siblings consumes its number
and ends in the root. -/
theorem walk_complete (h : Input π δ → δ) {item : π} {number : ℕ} {d : ℕ} {t : Tree π d}
    (hitem : t.leaves[number]? = some item) :
    walk h (h (.leaf item)) number (t.siblings h number) = (t.root h, 0) := by
  have hlt : number < 2 ^ d := t.length_leaves ▸ (List.getElem?_eq_some_iff.1 hitem).1
  refine Prod.ext (walk_siblings h ?_) ?_
  · rw [Nat.mod_eq_of_lt hlt, hitem]
  · rw [walk_snd, Tree.length_siblings, Nat.div_eq_of_lt hlt]

end Merkle
