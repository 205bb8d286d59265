import Mathlib.Data.List.Perm.Basic
import Mathlib.Order.Lattice

/-!
# Heaps with a maximum

A heap holds elements that are compared by a key; elements with the same key need not be equal.
`MaxHeap` lists the operations of a heap with what they do to its elements: nothing is lost, nothing
is held twice, and what is popped has a key that no other element exceeds. The order in which a heap
iterates over its elements is arbitrary, and so is the choice among elements with the same key.
-/

/-- The operations of a heap, and the elements that it iterates over. -/
structure MaxHeap (α : Type) {κ : Type} [LinearOrder κ] (key : α → κ) where
  Heap : Type
  iter : Heap → List α
  new : Heap
  push : Heap → α → Heap
  pop : Heap → Option (α × Heap)
  peek : Heap → Option α
  iter_new : iter new = []
  iter_push (h : Heap) (a : α) : (iter (push h a)).Perm (a :: iter h)
  iter_of_pop_none {h : Heap} : pop h = none → iter h = []
  iter_of_pop {h h' : Heap} {a : α} : pop h = some (a, h') → (iter h).Perm (a :: iter h')
  le_of_pop {h h' : Heap} {a : α} : pop h = some (a, h') → ∀ b ∈ iter h, key b ≤ key a
  iter_of_peek_none {h : Heap} : peek h = none → iter h = []
  mem_of_peek {h : Heap} {a : α} : peek h = some a → a ∈ iter h
  le_of_peek {h : Heap} {a : α} : peek h = some a → ∀ b ∈ iter h, key b ≤ key a

namespace MaxHeap

variable {α κ : Type} [LinearOrder κ] {key : α → κ} (lib : MaxHeap α key)

def len (h : lib.Heap) : ℕ := (lib.iter h).length

@[simp] theorem len_new : lib.len lib.new = 0 := by rw [len, lib.iter_new, List.length_nil]

@[simp] theorem len_push (h : lib.Heap) (a : α) : lib.len (lib.push h a) = lib.len h + 1 := by
  rw [len, (lib.iter_push h a).length_eq, List.length_cons, len]

variable {lib}

theorem len_of_pop {h h' : lib.Heap} {a : α} (hpop : lib.pop h = some (a, h')) :
    lib.len h = lib.len h' + 1 := by
  rw [len, (lib.iter_of_pop hpop).length_eq, List.length_cons, len]

end MaxHeap
