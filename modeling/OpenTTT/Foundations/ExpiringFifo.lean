import Mathlib.Data.Int.Basic
import Mathlib.Data.Set.Basic
import OpenTTT.Foundations.FifoMap

/-!
# Maps of bounded size whose entries expire

A map that drops its oldest entry when it is full, and whose entries are there until the clock has
passed a time that each of them carries: asking for an expired entry deletes it, and a purge deletes
all of them. `Kept n k t` says that `k` is there until `t`, with at most `n` entries behind it. Each
operation keeps this as long as the clock shows no later time, and only storing adds to the entries
behind a key, so that it is there after a number of stores that depends on the capacity only.

`notMem_keys_foldl_store` is the other direction: as many new keys as the map holds push all others
out. `Reads` is what any number of lookups and purges do to a map: they only delete, and never what
is kept until after their times.
-/

namespace ExpiringFifo

open FifoMap (store)

variable {κ ε : Type*} (expiry : ε → ℤ)

/-- `k` is there until `t`, with at most `n` entries behind it. -/
def Kept (n : ℕ) (k : κ) (t : ℤ) (m : InsertionMap κ ε) : Prop :=
  ∃ pre e post, m.entries = pre ++ (k, e) :: post ∧ post.length ≤ n ∧ t ≤ expiry e

section Kept

variable {expiry} {n : ℕ} {t : ℤ} {m m' : InsertionMap κ ε} {k : κ}

theorem Kept.mono {n' : ℕ} (h : Kept expiry n k t m) (hle : n ≤ n') : Kept expiry n' k t m := by
  obtain ⟨pre, e, post, hentries, hpost, ht⟩ := h
  exact ⟨pre, e, post, hentries, hpost.trans hle, ht⟩

/-- An entry that a filter leaves there is not behind more entries. -/
theorem Kept.filter {p : κ × ε → Bool} (h : Kept expiry n k t m)
    (hp : ∀ e, (k, e) ∈ m.entries → t ≤ expiry e → p (k, e) = true)
    (hentries' : m'.entries = m.entries.filter p) : Kept expiry n k t m' := by
  obtain ⟨pre, e, post, hentries, hpost, ht⟩ := h
  refine ⟨pre.filter p, e, post.filter p, ?_, (List.length_filter_le p post).trans hpost, ht⟩
  have hmem : (k, e) ∈ m.entries := by
    rw [hentries]
    simp
  rw [hentries', hentries, List.filter_append, List.filter_cons, if_pos (hp e hmem ht)]

end Kept

variable [DecidableEq κ]

/-- Look an entry up, and delete it if it has expired. -/
def find (now : ℤ) (m : InsertionMap κ ε) (k : κ) : Option ε × InsertionMap κ ε :=
  match m.get? k with
  | none => (none, m)
  | some e => if now > expiry e then (none, m.delete k) else (some e, m)

/-- Delete what has expired. -/
def purge (now : ℤ) (m : InsertionMap κ ε) : InsertionMap κ ε :=
  m.deleteWhere fun e => decide (now > expiry e.2)

/-- The second map is the first one after lookups and purges at some of the times. -/
inductive Reads (times : Set ℤ) (m : InsertionMap κ ε) : InsertionMap κ ε → Prop
  | refl : Reads times m m
  | find {now : ℤ} {m' : InsertionMap κ ε} (k : κ) :
      Reads times m m' → now ∈ times → Reads times m (find expiry now m' k).2
  | purge {now : ℤ} {m' : InsertionMap κ ε} :
      Reads times m m' → now ∈ times → Reads times m (purge expiry now m')

variable {expiry} {capacity n : ℕ} {now t : ℤ} {m m' : InsertionMap κ ε} {k : κ}

/-! ## Where entries come from -/

theorem mem_entries_dropOldest {e : κ × ε} (h : e ∈ m.dropOldest.entries) : e ∈ m.entries := by
  unfold InsertionMap.dropOldest at h
  split at h
  · rw [InsertionMap.entries_delete] at h
    exact List.mem_of_mem_filter h
  · exact h

theorem mem_entries_store {e s : κ × ε} (h : e ∈ (store capacity m s).entries) :
    e = s ∨ e.1 ≠ s.1 ∧ e ∈ m.entries := by
  rcases InsertionMap.mem_entries_set.1 h with rfl | ⟨hkey, hold⟩
  · exact Or.inl rfl
  · refine Or.inr ⟨hkey, ?_⟩
    split at hold
    · exact mem_entries_dropOldest hold
    · exact hold

theorem mem_entries_find {e : κ × ε} (h : e ∈ (find expiry now m k).2.entries) :
    e ∈ m.entries := by
  unfold find at h
  split at h
  · exact h
  · split at h
    · rw [InsertionMap.entries_delete] at h
      exact List.mem_of_mem_filter h
    · exact h

theorem mem_entries_purge {e : κ × ε} (h : e ∈ (purge expiry now m).entries) : e ∈ m.entries := by
  rw [purge, InsertionMap.entries_deleteWhere] at h
  exact List.mem_of_mem_filter h

/-- What is found is there and has not expired. -/
theorem of_find_eq_some {e : ε} (h : (find expiry now m k).1 = some e) :
    (k, e) ∈ m.entries ∧ now ≤ expiry e := by
  unfold find at h
  split at h
  · cases h
  · rename_i e' hget
    split at h
    · cases h
    · rename_i hlate
      cases h
      exact ⟨InsertionMap.get?_eq_some_iff.1 hget, not_lt.1 hlate⟩

theorem find_eq_none_of_notMem (h : k ∉ m.keys) : find expiry now m k = (none, m) := by
  rw [find, InsertionMap.get?_eq_none_iff.2 h]

/-! ## The size -/

theorem size_set_le (m : InsertionMap κ ε) (s : κ × ε) :
    (m.set s.1 s.2).size ≤ m.size + 1 := by
  rw [InsertionMap.size_set]
  split <;> omega

theorem size_store_le (hcapacity : 0 < capacity) (h : m.size ≤ capacity) (s : κ × ε) :
    (store capacity m s).size ≤ capacity := by
  have hroom : (if capacity ≤ m.size then m.dropOldest else m).size + 1 ≤ capacity := by
    split
    · rename_i hfull
      obtain ⟨a, l, hentries⟩ : ∃ a l, m.entries = a :: l :=
        List.exists_cons_of_length_pos (hcapacity.trans_le hfull)
      have hsize : m.size = l.length + 1 := by
        rw [InsertionMap.size, hentries, List.length_cons]
      rw [InsertionMap.size, InsertionMap.entries_dropOldest_cons hentries]
      omega
    · omega
  rw [store]
  exact (size_set_le _ s).trans hroom

theorem size_find_le : (find expiry now m k).2.size ≤ m.size := by
  unfold find
  split
  · exact Nat.le_refl _
  · split
    · exact List.length_filter_le _ _
    · exact Nat.le_refl _

theorem size_purge_le : (purge expiry now m).size ≤ m.size := by
  rw [InsertionMap.size, purge, InsertionMap.entries_deleteWhere]
  exact List.length_filter_le _ _

/-! ## Lookups and purges -/

theorem Reads.mono {times times' : Set ℤ} (h : Reads expiry times m m') (hsub : times ⊆ times') :
    Reads expiry times' m m' := by
  induction h with
  | refl => exact .refl
  | find k _ hnow ih => exact .find k ih (hsub hnow)
  | purge _ hnow ih => exact .purge ih (hsub hnow)

theorem Reads.trans {times : Set ℤ} {m'' : InsertionMap κ ε} (h : Reads expiry times m m')
    (h' : Reads expiry times m' m'') : Reads expiry times m m'' := by
  induction h' with
  | refl => exact h
  | find k _ hnow ih => exact .find k ih hnow
  | purge _ hnow ih => exact .purge ih hnow

theorem Reads.mem_entries {times : Set ℤ} (h : Reads expiry times m m') {e : κ × ε}
    (he : e ∈ m'.entries) : e ∈ m.entries := by
  induction h with
  | refl => exact he
  | find k _ _ ih => exact ih (mem_entries_find he)
  | purge _ _ ih => exact ih (mem_entries_purge he)

theorem Reads.size_le {times : Set ℤ} (h : Reads expiry times m m') : m'.size ≤ m.size := by
  induction h with
  | refl => exact Nat.le_refl _
  | find k _ _ ih => exact size_find_le.trans ih
  | purge _ _ ih => exact size_purge_le.trans ih

/-! ## Entries that are kept -/

theorem Kept.purge (h : Kept expiry n k t m) (hnow : now ≤ t) :
    Kept expiry n k t (purge expiry now m) := by
  refine h.filter (fun e _ ht => ?_) (InsertionMap.entries_deleteWhere _ m)
  simp only [Bool.not_eq_true', decide_eq_false_iff_not]
  omega

theorem Kept.of_find (h : Kept expiry n k t m) (hnow : now ≤ t) (k' : κ) :
    Kept expiry n k t (find expiry now m k').2 := by
  unfold find
  split
  · exact h
  · rename_i e' hget
    split
    · rename_i hlate
      refine h.filter (fun e hmem ht => decide_eq_true ?_) (InsertionMap.entries_delete m k')
      -- the deleted entry has expired, so it is another one
      rintro rfl
      have heq := InsertionMap.eq_of_fst_eq hmem (InsertionMap.get?_eq_some_iff.1 hget) rfl
      rw [Prod.mk.injEq] at heq
      rw [← heq.2] at hlate
      omega
    · exact h

/-- **Lookups and purges** delete nothing that is kept until after their times. -/
theorem Kept.reads {times : Set ℤ} (h : Kept expiry n k t m) (hm : Reads expiry times m m')
    (htimes : ∀ now ∈ times, now ≤ t) : Kept expiry n k t m' := by
  induction hm with
  | refl => exact h
  | find k' _ hnow ih => exact ih.of_find (htimes _ hnow) k'
  | purge _ hnow ih => exact ih.purge (htimes _ hnow)

/-- What is kept is found. -/
theorem Kept.find_eq_some (h : Kept expiry n k t m) (hnow : now ≤ t) :
    ∃ e, find expiry now m k = (some e, m) ∧ (k, e) ∈ m.entries := by
  obtain ⟨pre, e, post, hentries, -, ht⟩ := h
  have hmem : (k, e) ∈ m.entries := by
    rw [hentries]
    simp
  refine ⟨e, ?_, hmem⟩
  rw [find, InsertionMap.get?_eq_some_iff.2 hmem]
  simp only
  rw [if_neg (by omega)]

/-- Dropping the oldest entry of a full map leaves one there that is not behind too many. -/
theorem Kept.dropOldest (h : Kept expiry n k t m) (hn : n + 1 < capacity)
    (hfull : capacity ≤ m.size) : Kept expiry n k t m.dropOldest := by
  obtain ⟨pre, e, post, hentries, hpost, ht⟩ := h
  cases pre with
  | nil =>
    rw [InsertionMap.size, hentries, List.nil_append, List.length_cons] at hfull
    omega
  | cons a pre =>
    refine ⟨pre, e, post, ?_, hpost, ht⟩
    exact InsertionMap.entries_dropOldest_cons hentries

theorem Kept.set (h : Kept expiry n k t m) {s : κ × ε} (hs : s.1 = k → t ≤ expiry s.2) :
    Kept expiry (n + 1) k t (m.set s.1 s.2) := by
  obtain ⟨pre, e, post, hentries, hpost, ht⟩ := h
  by_cases hmem : s.1 ∈ m.keys
  · let replaced : κ × ε → κ × ε := fun a => if a.1 = s.1 then (a.1, s.2) else a
    have hset : (m.set s.1 s.2).entries = m.entries.map replaced := by
      rw [InsertionMap.set, dif_pos hmem]
    have hlength : (post.map replaced).length ≤ n + 1 := by
      rw [List.length_map]
      omega
    rw [hentries, List.map_append, List.map_cons] at hset
    by_cases hk : s.1 = k
    · refine ⟨pre.map replaced, s.2, post.map replaced, ?_, hlength, hs hk⟩
      rw [hset]
      simp [replaced, hk]
    · refine ⟨pre.map replaced, e, post.map replaced, ?_, hlength, ht⟩
      rw [hset]
      simp [replaced, Ne.symm hk]
  · refine ⟨pre, e, post ++ [s], ?_, ?_, ht⟩
    · rw [InsertionMap.entries_set_of_notMem hmem, hentries, List.append_assoc, List.cons_append]
    · rw [List.length_append, List.length_singleton]
      omega

/-- **Storing** puts at most one entry behind another, and drops none that is behind fewer than the
map holds. -/
theorem Kept.store (h : Kept expiry n k t m) (hn : n + 1 < capacity) {s : κ × ε}
    (hs : s.1 = k → t ≤ expiry s.2) : Kept expiry (n + 1) k t (store capacity m s) := by
  rw [FifoMap.store]
  split
  · rename_i hfull
    exact (h.dropOldest hn hfull).set hs
  · exact h.set hs

/-- A new key is stored behind all others. -/
theorem kept_store_self {e : ε} (hnew : k ∉ m.keys) (ht : t ≤ expiry e) :
    Kept expiry 0 k t (FifoMap.store capacity m (k, e)) := by
  have hnew' : k ∉ (if capacity ≤ m.size then m.dropOldest else m).keys := by
    intro hmem
    obtain ⟨a, ha, rfl⟩ := List.mem_map.1 hmem
    split at ha
    · exact hnew (InsertionMap.mem_keys_of_mem (mem_entries_dropOldest ha))
    · exact hnew (InsertionMap.mem_keys_of_mem ha)
  exact ⟨_, e, [], InsertionMap.entries_set_of_notMem hnew' e, Nat.le_refl 0, ht⟩

/-! ## Entries that are pushed out -/

/-- Storing a new key puts it behind the others, of which it may drop the oldest. -/
theorem keys_store_suffix {s : κ × ε} (hnew : s.1 ∉ m.keys) :
    (store capacity m s).keys <:+ m.keys ++ [s.1] := by
  rw [FifoMap.store]
  split
  · rename_i hfull
    cases hkeys : m.keys with
    | nil =>
      have hdrop : m.dropOldest = m := by
        rw [InsertionMap.dropOldest, hkeys]
        rfl
      rw [hdrop, InsertionMap.keys_set_of_notMem hnew, hkeys]
    | cons a rest =>
      have hdrop := InsertionMap.keys_dropOldest hkeys
      have hnew' : s.1 ∉ m.dropOldest.keys := by
        rw [hdrop]
        rw [hkeys] at hnew
        exact fun hmem => hnew (List.mem_cons_of_mem a hmem)
      rw [InsertionMap.keys_set_of_notMem hnew', hdrop]
      exact List.suffix_cons a (rest ++ [s.1])
  · rw [InsertionMap.keys_set_of_notMem hnew]

theorem keys_foldl_store_suffix {l : List (κ × ε)} (hnodup : (m.keys ++ l.map Prod.fst).Nodup) :
    (l.foldl (store capacity) m).keys <:+ m.keys ++ l.map Prod.fst := by
  induction l using List.reverseRecOn with
  | nil => simp
  | append_singleton l s ih =>
    rw [List.map_append, ← List.append_assoc] at hnodup ⊢
    have hsuffix := ih (List.nodup_append.1 hnodup).1
    have hnew : s.1 ∉ (l.foldl (store capacity) m).keys := fun hmem =>
      List.disjoint_of_nodup_append hnodup (hsuffix.subset hmem) (by simp)
    rw [List.foldl_append]
    refine (keys_store_suffix hnew).trans ?_
    obtain ⟨pre, hpre⟩ := hsuffix
    exact ⟨pre, by rw [← hpre, List.append_assoc]; rfl⟩

theorem size_foldl_store_le (hcapacity : 0 < capacity) (h : m.size ≤ capacity)
    (l : List (κ × ε)) : (l.foldl (store capacity) m).size ≤ capacity := by
  induction l generalizing m with
  | nil => exact h
  | cons s l ih => exact ih (size_store_le hcapacity h s)

/-- **As many new keys as the map holds** push all others out. -/
theorem notMem_keys_foldl_store (hcapacity : 0 < capacity) (h : m.size ≤ capacity)
    {l : List (κ × ε)} (hnodup : (m.keys ++ l.map Prod.fst).Nodup) (hlength : capacity ≤ l.length)
    (hk : k ∈ m.keys) : k ∉ (l.foldl (store capacity) m).keys := by
  have hsize := size_foldl_store_le hcapacity h l
  rw [← InsertionMap.length_keys] at hsize
  have hsuffix : (l.foldl (store capacity) m).keys <:+ l.map Prod.fst := by
    refine List.suffix_of_suffix_length_le (keys_foldl_store_suffix hnodup)
      (List.suffix_append _ _) ?_
    rw [List.length_map]
    exact hsize.trans hlength
  exact fun hmem => List.disjoint_of_nodup_append hnodup hk (hsuffix.subset hmem)

end ExpiringFifo
