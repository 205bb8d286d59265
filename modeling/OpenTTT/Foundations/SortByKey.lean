import Mathlib.Data.List.Permutation
import OpenTTT.Foundations.OrderStatistic

/-!
# Sorting by a key

The elements of a list sorted by a key of theirs. The keys come out in the same order for every
order of the list, but elements with the same key stay in the order in which they were.
`getElem_sortBy_perm_iff` says when that matters: what is read at a rank of the sorted list is the
same for every order if and only if it is the same for all the elements whose key has that rank
(`AtRank`).
-/

namespace OrderStatistic

variable {α β γ : Type*} [LinearOrder β] (key : α → β)

/-- The stable sort of a list by a key. -/
def sortBy (l : List α) : List α := l.insertionSort fun a b => key a ≤ key b

/-- The key of `a` has rank `k` in `l`: at most `k` keys are below it, and more than `k` are not
above it. -/
def AtRank (l : List α) (k : ℕ) (a : α) : Prop :=
  l.countP (fun b => decide (key b < key a)) ≤ k ∧ k < l.countP fun b => decide (key b ≤ key a)

instance (l : List α) (k : ℕ) (a : α) : Decidable (AtRank key l k a) :=
  inferInstanceAs (Decidable (_ ∧ _))

theorem sortBy_perm (l : List α) : (sortBy key l).Perm l := List.perm_insertionSort _ l

@[simp] theorem length_sortBy (l : List α) : (sortBy key l).length = l.length :=
  (sortBy_perm key l).length_eq

variable {key}

/-- The order of the keys, as a relation on the elements. -/
theorem pairwise_key_iff {l : List α} :
    l.Pairwise (fun a b => key a ≤ key b) ↔ (l.map key).Pairwise (· ≤ ·) :=
  List.pairwise_map.symm

theorem pairwise_map_sortBy (l : List α) : ((sortBy key l).map key).Pairwise (· ≤ ·) := by
  have : Std.Total fun a b : α => key a ≤ key b := ⟨fun a b => le_total (key a) (key b)⟩
  have : IsTrans α fun a b => key a ≤ key b := ⟨fun _ _ _ hab hbc => hab.trans hbc⟩
  exact pairwise_key_iff.1 (List.pairwise_insertionSort _ l)

/-- A list whose keys are in order is its own sort. -/
theorem sortBy_of_pairwise {l : List α} (h : (l.map key).Pairwise (· ≤ ·)) : sortBy key l = l :=
  List.Pairwise.insertionSort_eq (pairwise_key_iff.2 h)

/-! ## The elements at a rank -/

theorem atRank_perm {l l' : List α} (h : l'.Perm l) {k : ℕ} {a : α} :
    AtRank key l' k a ↔ AtRank key l k a := by
  rw [AtRank, AtRank, h.countP_eq, h.countP_eq]

/-- The key at a rank of the sorted list is the one that has this rank. -/
theorem key_getElem_sortBy_iff {l : List α} {k : ℕ} (hk : k < (sortBy key l).length) {a : α} :
    key (sortBy key l)[k] = key a ↔ AtRank key l k a := by
  have hmap : k < ((sortBy key l).map key).length := by rwa [List.length_map]
  have hcount (p : β → Bool) :
      ((sortBy key l).map key).countP p = l.countP fun b => p (key b) := by
    rw [List.countP_map]
    exact (sortBy_perm key l).countP_eq _
  have hle := getElem_le_iff (pairwise_map_sortBy l) hmap (x := key a)
  have hge := le_getElem_iff (pairwise_map_sortBy l) hmap (x := key a)
  rw [List.getElem_map, hcount] at hle hge
  rw [AtRank, ← hle, ← hge, le_antisymm_iff]
  exact and_comm

theorem atRank_getElem_sortBy {l : List α} {k : ℕ} (hk : k < (sortBy key l).length) :
    AtRank key l k (sortBy key l)[k] :=
  (key_getElem_sortBy_iff hk).1 rfl

theorem key_eq_of_atRank {l : List α} {k : ℕ} (hk : k < l.length) {a b : α}
    (ha : AtRank key l k a) (hb : AtRank key l k b) : key a = key b := by
  rw [← length_sortBy key l] at hk
  rw [← (key_getElem_sortBy_iff hk).2 ha, (key_getElem_sortBy_iff hk).2 hb]

/-- Every element whose key has a rank comes to stand there in the sort of some order of the
list. -/
theorem exists_perm_getElem?_sortBy {l : List α} {k : ℕ} (hk : k < l.length) {a : α} (ha : a ∈ l)
    (hrank : AtRank key l k a) : ∃ l', l'.Perm l ∧ (sortBy key l')[k]? = some a := by
  rw [← length_sortBy key l] at hk
  obtain ⟨j, hj, rfl⟩ := List.mem_iff_getElem.1 ((sortBy_perm key l).mem_iff.2 ha)
  have hkey := (key_getElem_sortBy_iff hk).2 hrank
  generalize hs : sortBy key l = s at hk hj hkey
  -- the sorted list, with the two elements exchanged
  have hswap : ((s.set k s[j]).set j s[k]).map key = s.map key := by
    have hk' : k < (s.map key).length := by rwa [List.length_map]
    have hj' : j < (s.map key).length := by rwa [List.length_map]
    calc ((s.set k s[j]).set j s[k]).map key
        = ((s.map key).set k (key s[j])).set j (key s[k]) := by
          rw [← List.map_set, ← List.map_set]
      _ = ((s.map key).set k (s.map key)[k]).set j (s.map key)[j] := by
          rw [List.getElem_map, List.getElem_map, hkey]
      _ = s.map key := by rw [List.set_getElem_self, List.set_getElem_self]
  refine ⟨(s.set k s[j]).set j s[k], ?_, ?_⟩
  · exact (List.set_set_perm hk hj).trans (hs ▸ sortBy_perm key l)
  · rw [sortBy_of_pairwise (by rw [hswap, ← hs]; exact pairwise_map_sortBy l), List.getElem?_set]
    split
    · rename_i hjk
      subst hjk
      rw [if_pos (by simpa using hj)]
    · rw [List.getElem?_set_self hk]

/-- **What is read at a rank of the sorted list does not depend on the order of the list** if and
only if it is the same for all the elements at this rank. -/
theorem getElem_sortBy_perm_iff {l : List α} {k : ℕ} (hk : k < l.length) {f : α → γ} :
    (∀ l' : List α, l'.Perm l → (sortBy key l')[k]?.map f = (sortBy key l)[k]?.map f) ↔
      ∀ a ∈ l, ∀ b ∈ l, AtRank key l k a → AtRank key l k b → f a = f b := by
  constructor
  · intro h a ha b hb hranka hrankb
    obtain ⟨la, hpa, hla⟩ := exists_perm_getElem?_sortBy hk ha hranka
    obtain ⟨lb, hpb, hlb⟩ := exists_perm_getElem?_sortBy hk hb hrankb
    have heq := (h la hpa).trans (h lb hpb).symm
    rw [hla, hlb] at heq
    exact Option.some.inj heq
  · intro h l' hp
    have hk' : k < (sortBy key l').length := by rwa [length_sortBy, hp.length_eq]
    rw [← length_sortBy key l] at hk
    rw [List.getElem?_eq_getElem hk', List.getElem?_eq_getElem hk]
    refine congrArg some (h _ ?_ _ ?_ ((atRank_perm hp).1 (atRank_getElem_sortBy hk'))
      (atRank_getElem_sortBy hk))
    · exact hp.mem_iff.1 ((sortBy_perm key l').mem_iff.1 (List.getElem_mem _))
    · exact (sortBy_perm key l).mem_iff.1 (List.getElem_mem _)

end OrderStatistic
