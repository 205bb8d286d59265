import OpenTTT.Foundations.InsertionMap
import Mathlib.Algebra.BigOperators.Group.Finset.Basic
import Mathlib.Algebra.BigOperators.Group.Finset.Piecewise
import Mathlib.Algebra.BigOperators.Group.List.Basic
import Mathlib.Data.List.Induction

/-!
# Events aggregated by a key

A store keeps one record for each key. Every event is added to the record of its key, which is made
on its first event. `get?_aggregate` says what the store holds under a key: nothing if no event has
it, otherwise the events with that key folded in their order. `total_aggregate` sums a measure of
the records over the whole store, and `sum_filter_div` splits the events of an interval of time by
the shorter intervals in it.
-/

namespace GroupedAggregate

variable {ε κ ν M : Type*} [AddCommMonoid M] (key : ε → κ) (new : κ → ν) (add : ε → ν → ν)

/-- The record of a list of events with the same key. -/
def fold (k : κ) (es : List ε) : ν := es.foldl (fun v e => add e v) (new k)

theorem fold_concat (k : κ) (es : List ε) (e : ε) :
    fold new add k (es ++ [e]) = add e (fold new add k es) := by
  rw [fold, List.foldl_append]
  rfl

variable {new add} in
/-- The measure of a record is the sum over its events. -/
theorem measure_fold {φ : ν → M} {δ : ε → M} {k : κ} (hnew : φ (new k) = 0)
    (hadd : ∀ e v, φ (add e v) = φ v + δ e) (es : List ε) :
    φ (fold new add k es) = (es.map δ).sum := by
  induction es using List.reverseRecOn with
  | nil => exact hnew
  | append_singleton es e ih =>
    rw [fold_concat, hadd, ih, List.map_append, List.sum_append, List.map_singleton,
      List.sum_singleton]

variable [DecidableEq κ]

/-- Load the record of a key or make it, add the event, and save it. -/
def record (m : InsertionMap κ ν) (e : ε) : InsertionMap κ ν :=
  m.set (key e) (add e ((m.get? (key e)).getD (new (key e))))

/-- The store after a list of events. -/
def aggregate (es : List ε) : InsertionMap κ ν := es.foldl (record key new add) .empty

/-- The events with a key. -/
def group (k : κ) (es : List ε) : List ε := es.filter fun e => key e = k

theorem aggregate_concat (es : List ε) (e : ε) :
    aggregate key new add (es ++ [e]) = record key new add (aggregate key new add es) e := by
  rw [aggregate, List.foldl_append]
  rfl

theorem group_concat (k : κ) (es : List ε) (e : ε) :
    group key k (es ++ [e]) = group key k es ++ if key e = k then [e] else [] := by
  rw [group, List.filter_append, List.filter_singleton]
  by_cases h : key e = k <;> simp [group, h]

/-- **What the store holds under a key.** -/
theorem get?_aggregate (k : κ) (es : List ε) :
    (aggregate key new add es).get? k =
      if group key k es = [] then none else some (fold new add k (group key k es)) := by
  induction es using List.reverseRecOn with
  | nil => rfl
  | append_singleton es e ih =>
    rw [aggregate_concat, record, InsertionMap.get?_set, group_concat]
    by_cases h : key e = k
    · subst h
      rw [if_pos rfl, if_pos rfl, ih, if_neg (List.append_ne_nil_of_right_ne_nil _ (by simp)),
        fold_concat]
      by_cases hempty : group key (key e) es = []
      · rw [if_pos hempty, hempty]
        rfl
      · rw [if_neg hempty]
        rfl
    · rw [if_neg (Ne.symm h), if_neg h, List.append_nil, ih]

/-! ## Measures of the records -/

section Measures

variable {key new add} {φ : ν → M} {δ : ε → M}

/-- The measure of the record of a key, with nothing for a key that has none. -/
theorem measure_get? {k : κ} (hnew : φ (new k) = 0) (hadd : ∀ e v, φ (add e v) = φ v + δ e)
    (es : List ε) :
    (((aggregate key new add es).get? k).map φ).getD 0 = ((group key k es).map δ).sum := by
  rw [get?_aggregate]
  split
  · rename_i h
    rw [h]
    rfl
  · exact measure_fold hnew hadd _

/-- The measure of all the records. -/
def total (φ : ν → M) (m : InsertionMap κ ν) : M := (m.entries.map fun e => φ e.2).sum

/-- Changing the value of one of distinct keys changes the sum by the difference. -/
theorem sum_map_set {l : List (κ × ν)} (hnodup : (l.map Prod.fst).Nodup) {k : κ} {v w : ν}
    (hmem : (k, v) ∈ l) {d : M} (hw : φ w = φ v + d) :
    ((l.map fun e => if e.1 = k then (e.1, w) else e).map fun e => φ e.2).sum =
      (l.map fun e => φ e.2).sum + d := by
  induction l with
  | nil => cases hmem
  | cons e l ih =>
    rw [List.map_cons, List.nodup_cons] at hnodup
    simp only [List.map_cons, List.sum_cons]
    by_cases he : e.1 = k
    · -- the key stands at the head, so it is not in the tail and the tail stays as it is
      have hhead : e = (k, v) := by
        rcases List.mem_cons.1 hmem with h | h
        · exact h.symm
        · exact absurd (List.mem_map_of_mem h) (he ▸ hnodup.1)
      have htail : l.map (fun e => if e.1 = k then (e.1, w) else e) = l := by
        refine (List.map_congr_left fun e' he' => ?_).trans (List.map_id' l)
        refine if_neg fun hk => hnodup.1 ?_
        rw [he, ← hk]
        exact List.mem_map_of_mem he'
      rw [htail, if_pos he, hw, hhead, add_right_comm]
    · have hmem' : (k, v) ∈ l := by
        rcases List.mem_cons.1 hmem with h | h
        · exact absurd (congrArg Prod.fst h.symm) he
        · exact h
      rw [if_neg he, ih hnodup.2 hmem', add_assoc]

/-- An event adds its share to the measure of the store. -/
theorem total_record (hnew : ∀ k, φ (new k) = 0) (hadd : ∀ e v, φ (add e v) = φ v + δ e)
    (m : InsertionMap κ ν) (e : ε) :
    total φ (record key new add m e) = total φ m + δ e := by
  rw [record]
  cases hget : m.get? (key e) with
  | none =>
    have hkey : key e ∉ m.keys := by
      intro hmem
      obtain ⟨entry, hentry, hfst⟩ := List.mem_map.1 hmem
      have hsome := InsertionMap.get?_eq_some_iff.2 (show (key e, entry.2) ∈ m.entries by
        rw [← hfst]
        exact hentry)
      rw [hget] at hsome
      cases hsome
    rw [total, InsertionMap.entries_set_of_notMem hkey, List.map_append, List.sum_append]
    simp only [Option.getD_none, List.map_cons, List.map_nil, List.sum_singleton]
    rw [hadd, hnew, zero_add]
    rfl
  | some v =>
    have hmem := InsertionMap.get?_eq_some_iff.1 hget
    rw [total, InsertionMap.set, dif_pos (InsertionMap.mem_keys_of_mem hmem)]
    exact sum_map_set m.nodup_keys hmem (hadd e v)

/-- **The sum over the store** is the sum over the events. -/
theorem total_aggregate (hnew : ∀ k, φ (new k) = 0) (hadd : ∀ e v, φ (add e v) = φ v + δ e)
    (es : List ε) : total φ (aggregate key new add es) = (es.map δ).sum := by
  induction es using List.reverseRecOn with
  | nil => rfl
  | append_singleton es e ih =>
    rw [aggregate_concat, total_record hnew hadd, ih, List.map_append, List.sum_append,
      List.map_singleton, List.sum_singleton]

end Measures

/-- The measure of the events of a long interval is the sum over the `b` short ones in it. -/
theorem sum_filter_div {ε M : Type*} [AddCommMonoid M] (time : ε → ℕ) (δ : ε → M) (a : ℕ) {b : ℕ}
    (hb : 0 < b) (d : ℕ) (es : List ε) :
    ((group (fun e => time e / (a * b)) d es).map δ).sum =
      ∑ i ∈ Finset.range b, ((group (fun e => time e / a) (d * b + i) es).map δ).sum := by
  induction es with
  | nil => simp [group]
  | cons e es ih =>
    have hcons : ∀ (f : ε → ℕ) (k : ℕ), ((group f k (e :: es)).map δ).sum =
        (if f e = k then δ e else 0) + ((group f k es).map δ).sum := by
      intro f k
      by_cases h : f e = k <;> simp [group, h]
    simp only [hcons, ih, Finset.sum_add_distrib]
    congr 1
    rw [← Nat.div_div_eq_div_mul]
    by_cases h : time e / a / b = d
    · -- the short interval of the event is the one at its remainder
      have hmod : time e / a = d * b + time e / a % b := by
        rw [← h, Nat.mul_comm]
        exact (Nat.div_add_mod _ _).symm
      rw [if_pos h, Finset.sum_eq_single (time e / a % b)]
      · exact (if_pos hmod).symm
      · intro i _ hi
        exact if_neg fun heq => hi (by omega)
      · intro hnot
        exact absurd (Finset.mem_range.2 (Nat.mod_lt _ hb)) hnot
    · rw [if_neg h, Finset.sum_eq_zero]
      intro i hi
      refine if_neg fun heq => h ?_
      rw [heq, Nat.mul_comm, Nat.mul_add_div hb, Nat.div_eq_of_lt (Finset.mem_range.1 hi)]
      exact Nat.add_zero d

end GroupedAggregate
