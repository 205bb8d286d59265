import Mathlib.Data.List.Nodup
import Mathlib.Data.List.Range
import Mathlib.Logic.Equiv.Basic
import OpenTTT.Foundations.MaxHeap

/-!
# Binary heaps

The children of position `i` are `2 * i + 1` and `2 * i + 2`, and no element has a key above that
of its parent. A new element goes behind the last one and is sifted up. When the first element is
popped, the last one takes its place; it is moved down to the bottom, each time below the greater of
two children, and is sifted up from there.

`SiftsUp` and `SiftsDown` are the invariants of the two loops: what is in order except at a
position.
-/

namespace BinaryHeap

variable {α κ : Type} [LinearOrder κ] (key : α → κ)

def parent (i : ℕ) : ℕ := (i - 1) / 2

theorem parent_lt {i : ℕ} (h : 0 < i) : parent i < i := by
  unfold parent
  omega

/-- The children of a position. -/
theorem eq_child_of_parent_eq {i p : ℕ} (hi : 0 < i) (h : parent i = p) :
    i = 2 * p + 1 ∨ i = 2 * p + 2 := by
  unfold parent at h
  omega

/-! ## The loops -/

/-- Swap an element with its parent until the parent's key is not below its own. -/
def siftUp (data : ℕ → α) (pos : ℕ) : ℕ → α :=
  if 0 < pos then
    if key (data pos) ≤ key (data (parent pos)) then data
    else siftUp (data ∘ Equiv.swap pos (parent pos)) (parent pos)
  else data
termination_by pos
decreasing_by exact parent_lt ‹0 < pos›

/-- Swap an element with the greater of its children until it has none, then sift it up. -/
def siftDownToBottom (len : ℕ) (data : ℕ → α) (pos : ℕ) : ℕ → α :=
  if 2 * pos + 2 < len then
    if key (data (2 * pos + 1)) ≤ key (data (2 * pos + 2)) then
      siftDownToBottom len (data ∘ Equiv.swap pos (2 * pos + 2)) (2 * pos + 2)
    else siftDownToBottom len (data ∘ Equiv.swap pos (2 * pos + 1)) (2 * pos + 1)
  else if 2 * pos + 1 < len then
    siftUp key (data ∘ Equiv.swap pos (2 * pos + 1)) (2 * pos + 1)
  else siftUp key data pos
termination_by len - pos

/-! ## The order -/

/-- No element has a key above that of its parent. -/
def Ordered (len : ℕ) (data : ℕ → α) : Prop :=
  ∀ i, 0 < i → i < len → key (data i) ≤ key (data (parent i))

/-- In order, but for the element at `pos`, which may have a key above that of its parent. -/
structure SiftsUp (len : ℕ) (data : ℕ → α) (pos : ℕ) : Prop where
  except : ∀ i, 0 < i → i < len → i ≠ pos → key (data i) ≤ key (data (parent i))
  grand : ∀ i, 0 < i → i < len → parent i = pos → 0 < pos →
    key (data i) ≤ key (data (parent pos))

/-- In order, but for the element at `pos`, which may be anything. -/
structure SiftsDown (len : ℕ) (data : ℕ → α) (pos : ℕ) : Prop where
  except : ∀ i, 0 < i → i < len → i ≠ pos → parent i ≠ pos →
    key (data i) ≤ key (data (parent i))
  grand : ∀ i, 0 < i → i < len → parent i = pos → 0 < pos →
    key (data i) ≤ key (data (parent pos))

variable {key} {len pos : ℕ} {data : ℕ → α}

theorem SiftsUp.ordered (h : SiftsUp key len data pos)
    (hpos : 0 < pos → key (data pos) ≤ key (data (parent pos))) : Ordered key len data := by
  intro i hi hlen
  by_cases hne : i = pos
  · subst hne
    exact hpos hi
  · exact h.except i hi hlen hne

theorem swap_left (data : ℕ → α) (i j : ℕ) : (data ∘ Equiv.swap i j) i = data j :=
  congrArg data (Equiv.swap_apply_left i j)

theorem swap_right (data : ℕ → α) (i j : ℕ) : (data ∘ Equiv.swap i j) j = data i :=
  congrArg data (Equiv.swap_apply_right i j)

theorem swap_of_ne {i j k : ℕ} (hi : k ≠ i) (hj : k ≠ j) :
    (data ∘ Equiv.swap i j) k = data k :=
  congrArg data (Equiv.swap_apply_of_ne_of_ne hi hj)

/-- An element that is swapped with its parent may be out of order there. -/
theorem SiftsUp.swap (h : SiftsUp key len data pos) (hpos : 0 < pos)
    (hlt : key (data (parent pos)) < key (data pos)) :
    SiftsUp key len (data ∘ Equiv.swap pos (parent pos)) (parent pos) := by
  have hparent := parent_lt hpos
  constructor
  · intro i hi hlen hne
    by_cases hip : i = pos
    · subst hip
      rw [swap_left, swap_right]
      exact hlt.le
    · have hi' := parent_lt hi
      rw [swap_of_ne hip hne]
      by_cases hpp : parent i = pos
      · rw [hpp, swap_left]
        exact h.grand i hi hlen hpp hpos
      by_cases hqq : parent i = parent pos
      · rw [hqq, swap_right]
        have hle := h.except i hi hlen hip
        rw [hqq] at hle
        exact hle.trans hlt.le
      · rw [swap_of_ne hpp hqq]
        exact h.except i hi hlen hip
  · intro i hi hlen hq hqpos
    have hup := parent_lt hqpos
    have hgrand : key (data (parent pos)) ≤ key (data (parent (parent pos))) :=
      h.except _ hqpos ((hq ▸ parent_lt hi).trans hlen) hparent.ne
    rw [swap_of_ne (hup.trans hparent).ne hup.ne]
    by_cases hip : i = pos
    · rw [hip, swap_left]
      exact hgrand
    · have hi' := parent_lt hi
      rw [swap_of_ne hip (by omega)]
      have hle := h.except i hi hlen hip
      rw [hq] at hle
      exact hle.trans hgrand

/-- Sifting up ends in order. -/
theorem ordered_siftUp (h : SiftsUp key len data pos) : Ordered key len (siftUp key data pos) := by
  fun_induction siftUp key data pos with
  | case1 data pos hpos hle => exact h.ordered fun _ => hle
  | case2 data pos hpos hnot ih => exact ih (h.swap hpos (not_le.1 hnot))
  | case3 data pos hpos => exact h.ordered fun hpos' => absurd hpos' hpos

/-- An element that is swapped with the greater of its children may be out of order there. -/
theorem SiftsDown.swap (h : SiftsDown key len data pos) {child : ℕ} (hchild : parent child = pos)
    (hpos : 0 < child) (hlen : child < len)
    (hmax : ∀ i, 0 < i → i < len → parent i = pos → key (data i) ≤ key (data child)) :
    SiftsDown key len (data ∘ Equiv.swap pos child) child := by
  have hlt : pos < child := hchild ▸ parent_lt hpos
  constructor
  · intro i hi hilen hne hpne
    by_cases hip : i = pos
    · subst hip
      have hup := parent_lt hi
      rw [swap_left, swap_of_ne hup.ne (hup.trans hlt).ne]
      exact h.grand child hpos hlen hchild hi
    · rw [swap_of_ne hip hne]
      by_cases hpp : parent i = pos
      · rw [hpp, swap_left]
        exact hmax i hi hilen hpp
      · rw [swap_of_ne hpp hpne]
        exact h.except i hi hilen hip hpp
  · intro i hi hilen hpi _
    have hi' := parent_lt hi
    rw [hchild, swap_left, swap_of_ne (by omega) (by omega)]
    have hle := h.except i hi hilen (by omega) (by omega)
    rw [hpi] at hle
    exact hle

/-- An element without children is out of order with its parent only. -/
theorem SiftsDown.siftsUp (h : SiftsDown key len data pos) (hlen : len ≤ 2 * pos + 1) :
    SiftsUp key len data pos := by
  refine ⟨fun i hi hilen hne => ?_, h.grand⟩
  by_cases hpp : parent i = pos
  · rcases eq_child_of_parent_eq hi hpp with rfl | rfl <;> omega
  · exact h.except i hi hilen hne hpp

/-- Moving to the bottom and sifting up ends in order. -/
theorem ordered_siftDownToBottom (h : SiftsDown key len data pos) :
    Ordered key len (siftDownToBottom key len data pos) := by
  fun_induction siftDownToBottom key len data pos with
  | case1 data pos hlen hle ih =>
    refine ih (h.swap (by unfold parent; omega) (by omega) hlen fun i hi hilen hpi => ?_)
    rcases eq_child_of_parent_eq hi hpi with rfl | rfl
    · exact hle
    · exact le_rfl
  | case2 data pos hlen hnot ih =>
    refine ih (h.swap (by unfold parent; omega) (by omega) (by omega) fun i hi hilen hpi => ?_)
    rcases eq_child_of_parent_eq hi hpi with rfl | rfl
    · exact le_rfl
    · exact (not_le.1 hnot).le
  | case3 data pos hlen hchild =>
    refine ordered_siftUp (SiftsDown.siftsUp (h.swap (by unfold parent; omega) (by omega) hchild
      fun i hi hilen hpi => ?_) (by omega))
    rcases eq_child_of_parent_eq hi hpi with rfl | rfl
    · exact le_rfl
    · exact absurd hilen hlen
  | case4 data pos hlen hchild => exact ordered_siftUp (h.siftsUp (by omega))

/-- The first element has the greatest key. -/
theorem Ordered.le_first (h : Ordered key len data) {i : ℕ} (hi : i < len) :
    key (data i) ≤ key (data 0) := by
  induction i using Nat.strong_induction_on with
  | _ i ih =>
    by_cases hzero : i = 0
    · rw [hzero]
    · have hpos : 0 < i := Nat.pos_of_ne_zero hzero
      have hparent := parent_lt hpos
      exact (h i hpos hi).trans (ih _ hparent (hparent.trans hi))

/-! ## The elements -/

/-- The elements at the positions below a length. -/
def elements (len : ℕ) (data : ℕ → α) : List α := (List.range len).map data

theorem elements_swap {i j : ℕ} (hi : i < len) (hj : j < len) :
    (elements len (data ∘ Equiv.swap i j)).Perm (elements len data) := by
  have hperm : ((List.range len).map (Equiv.swap i j)).Perm (List.range len) := by
    have hnodup : ((List.range len).map (Equiv.swap i j)).Nodup :=
      List.nodup_range.map (Equiv.swap i j).injective
    rw [List.perm_ext_iff_of_nodup hnodup List.nodup_range]
    intro k
    rw [List.mem_map]
    constructor
    · rintro ⟨k, hk, rfl⟩
      rw [List.mem_range] at hk ⊢
      rw [Equiv.swap_apply_def]
      split_ifs <;> assumption
    · intro hk
      refine ⟨Equiv.swap i j k, ?_, Equiv.swap_apply_self i j k⟩
      rw [List.mem_range] at hk ⊢
      rw [Equiv.swap_apply_def]
      split_ifs <;> assumption
  rw [elements, elements, ← List.map_map]
  exact hperm.map data

theorem elements_siftUp (hpos : pos < len) :
    (elements len (siftUp key data pos)).Perm (elements len data) := by
  fun_induction siftUp key data pos with
  | case1 => exact .refl _
  | case2 data pos h hnot ih =>
    have hparent := (parent_lt h).trans hpos
    exact (ih hparent).trans (elements_swap hpos hparent)
  | case3 => exact .refl _

theorem elements_siftDownToBottom (hpos : pos < len) :
    (elements len (siftDownToBottom key len data pos)).Perm (elements len data) := by
  fun_induction siftDownToBottom key len data pos with
  | case1 data pos hlen hle ih => exact (ih hlen).trans (elements_swap hpos hlen)
  | case2 data pos hlen hnot ih =>
    have hchild : 2 * pos + 1 < len := by omega
    exact (ih hchild).trans (elements_swap hpos hchild)
  | case3 data pos hlen hchild => exact (elements_siftUp hchild).trans (elements_swap hpos hchild)
  | case4 data pos hlen hchild => exact elements_siftUp hpos

/-! ## The heap -/

/-- The number of elements, and the elements at the positions below it. -/
structure Data (key : α → κ) where
  len : ℕ
  data : ℕ → α
  ordered : Ordered key len data

namespace Data

def iter (h : Data key) : List α := elements h.len h.data

def new [Inhabited α] : Data key := ⟨0, fun _ => default, nofun⟩

theorem siftsUp_update (h : Ordered key len data) (a : α) :
    SiftsUp key (len + 1) (Function.update data len a) len := by
  constructor
  · intro i hi hilen hne
    have hparent := parent_lt hi
    rw [Function.update_of_ne hne, Function.update_of_ne (by omega)]
    exact h i hi (by omega)
  · intro i hi hilen hparent
    have := parent_lt hi
    omega

theorem siftsDown_update (h : Ordered key (len + 1) data) (a : α) :
    SiftsDown key len (Function.update data 0 a) 0 := by
  constructor
  · intro i hi hilen hne hparent
    rw [Function.update_of_ne hne, Function.update_of_ne hparent]
    exact h i hi (by omega)
  · exact fun _ _ _ _ hpos => absurd hpos (lt_irrefl 0)

def push (h : Data key) (a : α) : Data key where
  len := h.len + 1
  data := siftUp key (Function.update h.data h.len a) h.len
  ordered := ordered_siftUp (siftsUp_update h.ordered a)

def pop (h : Data key) : Option (α × Data key) :=
  match h with
  | ⟨0, _, _⟩ => none
  | ⟨len + 1, data, ordered⟩ =>
    some (data 0,
      { len := len
        data := siftDownToBottom key len (Function.update data 0 (data len)) 0
        ordered := ordered_siftDownToBottom (siftsDown_update ordered _) })

def peek (h : Data key) : Option α := if h.len = 0 then none else some (h.data 0)

theorem iter_push (h : Data key) (a : α) : (h.push a).iter.Perm (a :: h.iter) := by
  refine (elements_siftUp (Nat.lt_succ_self h.len)).trans ?_
  have hsame : elements h.len (Function.update h.data h.len a) = h.iter :=
    List.map_congr_left fun i hi => Function.update_of_ne (List.mem_range.1 hi).ne _ _
  rw [elements, List.range_succ, List.map_append, List.map_singleton, Function.update_self]
  exact hsame ▸ List.perm_append_singleton a _

/-- The first element is lost, and the last one stands in its place. -/
theorem elements_replace (len : ℕ) (data : ℕ → α) : (elements (len + 2) data).Perm
    (data 0 :: elements (len + 1) (Function.update data 0 (data (len + 1)))) := by
  have hall : elements (len + 2) data =
      data 0 :: ((List.range len).map (data ∘ Nat.succ) ++ [data (len + 1)]) := by
    rw [elements, List.range_succ_eq_map, List.map_cons, List.map_map, List.range_succ,
      List.map_append]
    rfl
  have hrest : (List.range len).map (Function.update data 0 (data (len + 1)) ∘ Nat.succ) =
      (List.range len).map (data ∘ Nat.succ) :=
    List.map_congr_left fun i _ => Function.update_of_ne (Nat.succ_ne_zero i) _ _
  have hreplaced : elements (len + 1) (Function.update data 0 (data (len + 1))) =
      data (len + 1) :: (List.range len).map (data ∘ Nat.succ) := by
    rw [elements, List.range_succ_eq_map, List.map_cons, List.map_map, hrest, Function.update_self]
  rw [hall, hreplaced]
  exact (List.perm_append_singleton _ _).cons _

theorem iter_of_pop {h h' : Data key} {a : α} (hpop : h.pop = some (a, h')) :
    h.iter.Perm (a :: h'.iter) := by
  obtain ⟨len, data, ordered⟩ := h
  cases len with
  | zero => cases hpop
  | succ len =>
    cases hpop
    cases len with
    | zero => exact .refl _
    | succ len =>
      have hsift : (elements (len + 1) (siftDownToBottom key (len + 1)
          (Function.update data 0 (data (len + 1))) 0)).Perm _ :=
        elements_siftDownToBottom (Nat.succ_pos len)
      exact (elements_replace len data).trans (hsift.symm.cons (data 0))

/-- What is popped has the greatest key. -/
theorem le_of_pop {h h' : Data key} {a : α} (hpop : h.pop = some (a, h')) :
    ∀ b ∈ h.iter, key b ≤ key a := by
  obtain ⟨len, data, ordered⟩ := h
  cases len with
  | zero => cases hpop
  | succ len =>
    cases hpop
    intro b hb
    obtain ⟨i, hi, rfl⟩ := List.mem_map.1 hb
    exact ordered.le_first (List.mem_range.1 hi)

theorem peek_eq (h : Data key) : h.peek = h.pop.map Prod.fst := by
  obtain ⟨len, data, ordered⟩ := h
  cases len <;> rfl

theorem iter_of_pop_none {h : Data key} (hpop : h.pop = none) : h.iter = [] := by
  obtain ⟨len, data, ordered⟩ := h
  cases len with
  | zero => rfl
  | succ len => cases hpop

end Data

/-- **A binary heap** is a heap with a maximum. -/
def maxHeap [Inhabited α] (key : α → κ) : MaxHeap α key where
  Heap := Data key
  iter := Data.iter
  new := Data.new
  push := Data.push
  pop := Data.pop
  peek := Data.peek
  iter_new := rfl
  iter_push := Data.iter_push
  iter_of_pop_none := Data.iter_of_pop_none
  iter_of_pop := Data.iter_of_pop
  le_of_pop := Data.le_of_pop
  iter_of_peek_none := by
    intro h hpeek
    rw [Data.peek_eq, Option.map_eq_none_iff] at hpeek
    exact Data.iter_of_pop_none hpeek
  mem_of_peek := by
    intro h a hpeek
    rw [Data.peek_eq, Option.map_eq_some_iff] at hpeek
    obtain ⟨⟨a, h'⟩, hpop, rfl⟩ := hpeek
    exact (Data.iter_of_pop hpop).mem_iff.2 List.mem_cons_self
  le_of_peek := by
    intro h a hpeek
    rw [Data.peek_eq, Option.map_eq_some_iff] at hpeek
    obtain ⟨⟨a, h'⟩, hpop, rfl⟩ := hpeek
    exact Data.le_of_pop hpop

end BinaryHeap
