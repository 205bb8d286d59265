import Mathlib.Algebra.BigOperators.Fin
import Mathlib.Data.List.Count
import Mathlib.Data.List.Sort
import Mathlib.Order.Lattice

/-!
# Order statistics with faulty entries

A list of values of which some positions are faulty: nothing is assumed of the values there. An
element of the sorted list at rank `k` has at least `k + 1` values at or below it and at least
`n - k` at or above it (`lt_countP_le`, `le_countP_ge`). As soon as the faulty positions are fewer
than these, one of them is correct: `exists_correct_le` and `exists_correct_ge`. A rank that
satisfies both, or a value between two such ranks, lies between the smallest and the largest of
the correct values (`BetweenCorrect`), wherever the faulty positions are.
-/

namespace OrderStatistic

variable {α : Type*}

/-- `x` lies between the smallest and the largest of the values of `l` at the positions outside
`faulty`. -/
def BetweenCorrect [LinearOrder α] (l : List α) (faulty : Finset (Fin l.length)) (x : α) : Prop :=
  (∃ i ∉ faulty, l[i] ≤ x) ∧ ∃ j ∉ faulty, x ≤ l[j]

/-! ## Counting positions -/

theorem sum_map_ite_eq_countP (p : α → Bool) (l : List α) :
    (l.map fun a => if p a = true then 1 else 0).sum = l.countP p := by
  induction l with
  | nil => rfl
  | cons a l ih =>
    rw [List.map_cons, List.sum_cons, ih, List.countP_cons]
    exact Nat.add_comm _ _

/-- The positions whose value satisfies `p`. -/
theorem card_positions (p : α → Bool) (l : List α) :
    (Finset.univ.filter fun i : Fin l.length => p l[i] = true).card = l.countP p := by
  rw [Finset.card_filter, ← sum_map_ite_eq_countP]
  exact Fin.sum_univ_fun_getElem l fun a => if p a = true then 1 else 0

/-- With fewer faulty positions than values that satisfy `p`, a correct one satisfies `p`. -/
theorem exists_correct_of_card_lt {p : α → Bool} {l : List α} {faulty : Finset (Fin l.length)}
    (h : faulty.card < l.countP p) : ∃ i ∉ faulty, p l[i] = true := by
  rw [← card_positions] at h
  obtain ⟨i, hi, hf⟩ := Finset.exists_mem_notMem_of_card_lt_card h
  exact ⟨i, hf, (Finset.mem_filter.1 hi).2⟩

/-! ## The ranks of a sorted list -/

variable [LinearOrder α]

theorem lt_countP_le {s : List α} (hs : s.Pairwise (· ≤ ·)) {k : ℕ} (hk : k < s.length) :
    k < s.countP fun a => decide (a ≤ s[k]) := by
  have hall : ∀ a ∈ s.take (k + 1), decide (a ≤ s[k]) = true := by
    intro a ha
    obtain ⟨i, hi, rfl⟩ := List.mem_take_iff_getElem.1 ha
    have hik : i ≤ k := by omega
    simpa using hs.rel_get_of_le (a := ⟨i, by omega⟩) (b := ⟨k, hk⟩) hik
  calc k < (s.take (k + 1)).length := by rw [List.length_take]; omega
    _ = (s.take (k + 1)).countP fun a => decide (a ≤ s[k]) := (List.countP_eq_length.2 hall).symm
    _ ≤ s.countP fun a => decide (a ≤ s[k]) := (List.take_sublist _ _).countP_le

theorem le_countP_ge {s : List α} (hs : s.Pairwise (· ≤ ·)) {k : ℕ} (hk : k < s.length) :
    s.length - k ≤ s.countP fun a => decide (s[k] ≤ a) := by
  have hall : ∀ a ∈ s.drop k, decide (s[k] ≤ a) = true := by
    intro a ha
    obtain ⟨i, hi, rfl⟩ := List.mem_drop_iff_getElem.1 ha
    simpa using hs.rel_get_of_le (a := ⟨k, hk⟩) (b := ⟨k + i, by omega⟩) (Nat.le_add_right k i)
  calc s.length - k = (s.drop k).length := List.length_drop.symm
    _ = (s.drop k).countP fun a => decide (s[k] ≤ a) := (List.countP_eq_length.2 hall).symm
    _ ≤ s.countP fun a => decide (s[k] ≤ a) := (List.drop_sublist _ _).countP_le

/-- The element of rank `k` is at most `x` if and only if more than `k` values are. -/
theorem getElem_le_iff {s : List α} (hs : s.Pairwise (· ≤ ·)) {k : ℕ} (hk : k < s.length) {x : α} :
    s[k] ≤ x ↔ k < s.countP fun a => decide (a ≤ x) := by
  constructor
  · intro hle
    refine (lt_countP_le hs hk).trans_le (List.countP_mono_left fun a _ ha => ?_)
    simp only [decide_eq_true_eq] at ha ⊢
    exact ha.trans hle
  · intro hcount
    by_contra hlt
    have hge : s.length - k ≤ s.countP fun a => ¬ decide (a ≤ x) = true := by
      refine (le_countP_ge hs hk).trans (List.countP_mono_left fun a _ ha => ?_)
      simp only [decide_eq_true_eq] at ha ⊢
      exact fun hax => hlt (ha.trans hax)
    have hsum := List.length_eq_countP_add_countP (fun a => decide (a ≤ x)) (l := s)
    omega

/-- The element of rank `k` is at least `x` if and only if at most `k` values are below `x`. -/
theorem le_getElem_iff {s : List α} (hs : s.Pairwise (· ≤ ·)) {k : ℕ} (hk : k < s.length) {x : α} :
    x ≤ s[k] ↔ (s.countP fun a => decide (a < x)) ≤ k := by
  constructor
  · intro hle
    have hge : s.length - k ≤ s.countP fun a => ¬ decide (a < x) = true := by
      refine (le_countP_ge hs hk).trans (List.countP_mono_left fun a _ ha => ?_)
      simp only [decide_eq_true_eq] at ha ⊢
      exact fun hax => absurd (hax.trans_le hle) (not_lt.2 ha)
    have hsum := List.length_eq_countP_add_countP (fun a => decide (a < x)) (l := s)
    omega
  · intro hcount
    by_contra hlt
    have hmono : (s.countP fun a => decide (a ≤ s[k])) ≤ s.countP fun a => decide (a < x) := by
      refine List.countP_mono_left fun a _ ha => ?_
      simp only [decide_eq_true_eq] at ha ⊢
      exact ha.trans_lt (not_le.1 hlt)
    have hk' := lt_countP_le hs hk
    omega

/-- With at most `k` faulty positions, a correct value is at most the element of rank `k`. -/
theorem exists_correct_le {l s : List α} (hp : s.Perm l) (hs : s.Pairwise (· ≤ ·)) {k : ℕ}
    (hk : k < s.length) {faulty : Finset (Fin l.length)} (hf : faulty.card ≤ k) :
    ∃ i ∉ faulty, l[i] ≤ s[k] := by
  have hlt : faulty.card < l.countP fun a => decide (a ≤ s[k]) := by
    rw [← hp.countP_eq]
    exact hf.trans_lt (lt_countP_le hs hk)
  obtain ⟨i, hi, h⟩ := exists_correct_of_card_lt hlt
  exact ⟨i, hi, of_decide_eq_true h⟩

/-- With fewer than `n - k` faulty positions, a correct value is at least the element of rank
`k`. -/
theorem exists_correct_ge {l s : List α} (hp : s.Perm l) (hs : s.Pairwise (· ≤ ·)) {k : ℕ}
    (hk : k < s.length) {faulty : Finset (Fin l.length)} (hf : faulty.card + k < l.length) :
    ∃ j ∉ faulty, s[k] ≤ l[j] := by
  have hlt : faulty.card < l.countP fun a => decide (s[k] ≤ a) := by
    rw [← hp.countP_eq]
    have hge := le_countP_ge hs hk
    have hlen := hp.length_eq
    omega
  obtain ⟨j, hj, h⟩ := exists_correct_of_card_lt hlt
  exact ⟨j, hj, of_decide_eq_true h⟩

/-- **A value between two elements of a sorted list lies between the correct values**, if at most
`k` positions are faulty for the lower rank `k` and fewer than `n - m` for the upper rank `m`. -/
theorem betweenCorrect_of_ranks {l s : List α} (hp : s.Perm l) (hs : s.Pairwise (· ≤ ·))
    {k m : ℕ} (hk : k < s.length) (hm : m < s.length) {faulty : Finset (Fin l.length)}
    (hfk : faulty.card ≤ k) (hfm : faulty.card + m < l.length) {x : α} (hkx : s[k] ≤ x)
    (hxm : x ≤ s[m]) : BetweenCorrect l faulty x := by
  obtain ⟨i, hi, hle⟩ := exists_correct_le hp hs hk hfk
  obtain ⟨j, hj, hge⟩ := exists_correct_ge hp hs hm hfm
  exact ⟨⟨i, hi, hle.trans hkx⟩, j, hj, hxm.trans hge⟩

end OrderStatistic
