import Mathlib.Data.List.Nodup
import Mathlib.Data.List.Basic

/-!
# Maps that keep the insertion order

A map as a list of entries with pairwise distinct keys, in the order in which the keys were first
inserted: setting a key that is present changes its value in place, setting a new key appends it.
The distinctness of the keys is a field, so every operation carries its proof.

`deleteWhere` is the loop that walks the entries and deletes those that satisfy a test;
`entries_deleteWhere` says that it filters them. `setAll` sets a list of entries one by one;
`entries_setAll` and `nodup_of_size_setAll` say that it appends them if and only if their keys are
new and distinct. `mapValues` changes the values and keeps the keys in their places.
-/

/-- A map with its keys in insertion order. -/
structure InsertionMap (κ ν : Type*) where
  entries : List (κ × ν)
  nodup_keys : (entries.map Prod.fst).Nodup

namespace InsertionMap

variable {κ ν : Type*}

/-- The map without entries. -/
def empty : InsertionMap κ ν := ⟨[], List.nodup_nil⟩

/-- The keys, oldest first. -/
def keys (m : InsertionMap κ ν) : List κ := m.entries.map Prod.fst

/-- The number of entries. -/
def size (m : InsertionMap κ ν) : ℕ := m.entries.length

@[ext] theorem ext {m m' : InsertionMap κ ν} (h : m.entries = m'.entries) : m = m' := by
  cases m; cases m'; congr

@[simp] theorem entries_empty : (empty : InsertionMap κ ν).entries = [] := rfl

@[simp] theorem keys_empty : (empty : InsertionMap κ ν).keys = [] := rfl

@[simp] theorem length_keys (m : InsertionMap κ ν) : m.keys.length = m.size := List.length_map _

theorem mem_keys_of_mem {m : InsertionMap κ ν} {e : κ × ν} (h : e ∈ m.entries) :
    e.1 ∈ m.keys :=
  List.mem_map_of_mem h

/-- The oldest key is not there again, and neither is another one. -/
theorem nodup_cons_of_keys {m : InsertionMap κ ν} {k : κ} {ks : List κ} (h : m.keys = k :: ks) :
    k ∉ ks ∧ ks.Nodup :=
  List.nodup_cons.1 (h ▸ m.nodup_keys)

/-- Two entries with the same key are the same entry. -/
theorem eq_of_fst_eq {m : InsertionMap κ ν} {e e' : κ × ν} (he : e ∈ m.entries)
    (he' : e' ∈ m.entries) (h : e.1 = e'.1) : e = e' :=
  List.inj_on_of_nodup_map m.nodup_keys he he' h

/-- The entries that satisfy a test. -/
def filter (p : κ × ν → Bool) (m : InsertionMap κ ν) : InsertionMap κ ν :=
  ⟨m.entries.filter p, (List.filter_sublist.map Prod.fst).nodup m.nodup_keys⟩

/-- The map with a function applied to its values. -/
def mapValues {ν' : Type*} (f : ν → ν') (m : InsertionMap κ ν) : InsertionMap κ ν' where
  entries := m.entries.map fun e => (e.1, f e.2)
  nodup_keys := by
    rw [List.map_map]
    exact m.nodup_keys

@[simp] theorem keys_mapValues {ν' : Type*} (f : ν → ν') (m : InsertionMap κ ν) :
    (m.mapValues f).keys = m.keys :=
  List.map_map

@[simp] theorem size_mapValues {ν' : Type*} (f : ν → ν') (m : InsertionMap κ ν) :
    (m.mapValues f).size = m.size :=
  List.length_map _

variable [DecidableEq κ]

/-- Whether a key is present. -/
def has (m : InsertionMap κ ν) (k : κ) : Bool := decide (k ∈ m.keys)

@[simp] theorem has_iff {m : InsertionMap κ ν} {k : κ} : m.has k = true ↔ k ∈ m.keys := by
  simp [has]

/-- The value of a key. -/
def get? (m : InsertionMap κ ν) (k : κ) : Option ν :=
  (m.entries.find? fun e => decide (e.1 = k)).map Prod.snd

/-- Remove a key. -/
def delete (m : InsertionMap κ ν) (k : κ) : InsertionMap κ ν :=
  m.filter fun e => decide (e.1 ≠ k)

/-- Set a key: in place if it is present, at the end otherwise. -/
def set (m : InsertionMap κ ν) (k : κ) (v : ν) : InsertionMap κ ν :=
  if h : k ∈ m.keys then
    ⟨m.entries.map fun e => if e.1 = k then (e.1, v) else e, by
      have hk : (m.entries.map fun e => if e.1 = k then (e.1, v) else e).map Prod.fst = m.keys := by
        rw [List.map_map]
        exact List.map_congr_left fun e _ => by simp only [Function.comp]; split <;> rfl
      exact hk ▸ m.nodup_keys⟩
  else
    ⟨m.entries ++ [(k, v)], by
      rw [List.map_append, List.map_singleton]
      exact List.nodup_append.2 ⟨m.nodup_keys, List.nodup_singleton k, fun a ha b hb => by
        rw [List.mem_singleton.1 hb]
        rintro rfl
        exact h ha⟩⟩

/-- Remove the oldest key, if there is one. -/
def dropOldest (m : InsertionMap κ ν) : InsertionMap κ ν :=
  match m.keys.head? with
  | some oldest => m.delete oldest
  | none => m

/-- Walk the entries in order and delete those that satisfy `p`. -/
def deleteWhere (p : κ × ν → Bool) (m : InsertionMap κ ν) : InsertionMap κ ν :=
  m.entries.foldl (fun m' e => if p e then m'.delete e.1 else m') m

/-- Set the entries of a list, in their order. -/
def setAll (m : InsertionMap κ ν) (l : List (κ × ν)) : InsertionMap κ ν :=
  l.foldl (fun m' e => m'.set e.1 e.2) m

@[simp] theorem setAll_nil (m : InsertionMap κ ν) : m.setAll [] = m := rfl

@[simp] theorem setAll_cons (m : InsertionMap κ ν) (e : κ × ν) (l : List (κ × ν)) :
    m.setAll (e :: l) = (m.set e.1 e.2).setAll l := rfl

@[simp] theorem entries_delete (m : InsertionMap κ ν) (k : κ) :
    (m.delete k).entries = m.entries.filter fun e => decide (e.1 ≠ k) := rfl

theorem entries_set_of_notMem {m : InsertionMap κ ν} {k : κ} (h : k ∉ m.keys) (v : ν) :
    (m.set k v).entries = m.entries ++ [(k, v)] := by
  rw [set, dif_neg h]

@[simp] theorem get?_empty (k : κ) : (empty : InsertionMap κ ν).get? k = none := rfl

/-- **Setting a key** changes the value of that key only. -/
theorem get?_set (m : InsertionMap κ ν) (k : κ) (v : ν) (k' : κ) :
    (m.set k v).get? k' = if k' = k then some v else m.get? k' := by
  by_cases hk : k ∈ m.keys
  · have htest : ((fun e : κ × ν => decide (e.1 = k')) ∘
        fun e : κ × ν => if e.1 = k then (e.1, v) else e) = fun e => decide (e.1 = k') := by
      funext e
      simp only [Function.comp]
      split <;> rfl
    rw [set, dif_pos hk, get?, get?, List.find?_map, htest]
    cases hfind : m.entries.find? fun e => decide (e.1 = k') with
    | none =>
      have hne : k' ≠ k := by
        rintro rfl
        obtain ⟨e, he, hek⟩ := List.mem_map.1 hk
        exact List.find?_eq_none.1 hfind e he (decide_eq_true hek)
      rw [if_neg hne]
      rfl
    | some e =>
      have he : e.1 = k' := by simpa using List.find?_some hfind
      simp only [Option.map_some, he]
      split <;> rfl
  · rw [get?, entries_set_of_notMem hk, List.find?_append, get?]
    by_cases heq : k' = k
    · subst heq
      have hnone : m.entries.find? (fun e => decide (e.1 = k')) = none :=
        List.find?_eq_none.2 fun e he hek =>
          hk (List.mem_map.2 ⟨e, he, of_decide_eq_true hek⟩)
      rw [hnone, if_pos rfl]
      simp
    · have hlast : [(k, v)].find? (fun e => decide (e.1 = k')) = none := by
        simpa using Ne.symm heq
      rw [hlast, Option.or_none, if_neg heq]

/-- The value of a key is that of its entry. -/
theorem get?_eq_some_iff {m : InsertionMap κ ν} {k : κ} {v : ν} :
    m.get? k = some v ↔ (k, v) ∈ m.entries := by
  constructor
  · intro h
    obtain ⟨e, he, rfl⟩ := Option.map_eq_some_iff.1 h
    have hk : e.1 = k := by simpa using List.find?_some he
    exact hk ▸ List.mem_of_find?_eq_some he
  · intro h
    have hsome : (m.entries.find? fun e => decide (e.1 = k)).isSome := by
      rw [List.find?_isSome]
      exact ⟨(k, v), h, decide_eq_true rfl⟩
    obtain ⟨e, he⟩ := Option.isSome_iff_exists.1 hsome
    have hk : e.1 = k := by simpa using List.find?_some he
    rw [get?, he, eq_of_fst_eq (List.mem_of_find?_eq_some he) h hk]
    rfl

theorem get?_eq_none_iff {m : InsertionMap κ ν} {k : κ} : m.get? k = none ↔ k ∉ m.keys := by
  constructor
  · intro h hk
    obtain ⟨e, he, rfl⟩ := List.mem_map.1 hk
    have hget : m.get? e.1 = some e.2 := get?_eq_some_iff.2 he
    rw [h] at hget
    cases hget
  · intro h
    by_contra hne
    obtain ⟨v, hv⟩ := Option.ne_none_iff_exists'.1 hne
    exact h (mem_keys_of_mem (get?_eq_some_iff.1 hv))

/-- The entries after setting a key. -/
theorem mem_entries_set {m : InsertionMap κ ν} {k : κ} {v : ν} {e : κ × ν} :
    e ∈ (m.set k v).entries ↔ e = (k, v) ∨ e.1 ≠ k ∧ e ∈ m.entries := by
  obtain ⟨k', v'⟩ := e
  rw [← get?_eq_some_iff, get?_set, ← get?_eq_some_iff]
  by_cases hk : k' = k
  · simp [hk, eq_comm]
  · simp [hk]

theorem keys_set_of_notMem {m : InsertionMap κ ν} {k : κ} (h : k ∉ m.keys) (v : ν) :
    (m.set k v).keys = m.keys ++ [k] := by
  rw [keys, entries_set_of_notMem h, List.map_append]
  rfl

/-- Setting a key that is present keeps the keys in their places. -/
theorem keys_set_of_mem {m : InsertionMap κ ν} {k : κ} (h : k ∈ m.keys) (v : ν) :
    (m.set k v).keys = m.keys := by
  rw [set, dif_pos h, keys, keys, List.map_map]
  refine List.map_congr_left fun e _ => ?_
  simp only [Function.comp]
  split <;> rfl

theorem size_set (m : InsertionMap κ ν) (k : κ) (v : ν) :
    (m.set k v).size = if k ∈ m.keys then m.size else m.size + 1 := by
  unfold size
  split
  · rename_i h
    rw [set, dif_pos h, List.length_map]
  · rename_i h
    rw [entries_set_of_notMem h, List.length_append, List.length_singleton]

/-- Setting entries with new and distinct keys appends them. -/
theorem entries_setAll {m : InsertionMap κ ν} {l : List (κ × ν)}
    (h : (m.keys ++ l.map Prod.fst).Nodup) : (m.setAll l).entries = m.entries ++ l := by
  induction l generalizing m with
  | nil => rw [setAll_nil, List.append_nil]
  | cons e l ih =>
    have hnew : e.1 ∉ m.keys := fun hm =>
      List.disjoint_of_nodup_append h hm List.mem_cons_self
    rw [setAll_cons, ih, entries_set_of_notMem hnew, List.append_assoc]
    · rfl
    · rw [keys_set_of_notMem hnew, List.append_assoc]
      exact h

theorem size_setAll_le (m : InsertionMap κ ν) (l : List (κ × ν)) :
    (m.setAll l).size ≤ m.size + l.length := by
  induction l generalizing m with
  | nil => exact Nat.le_refl _
  | cons e l ih =>
    have hle := ih (m.set e.1 e.2)
    rw [size_set] at hle
    rw [setAll_cons, List.length_cons]
    split at hle <;> omega

/-- If every one of the entries adds to the size, their keys are new and distinct. -/
theorem nodup_of_size_setAll {m : InsertionMap κ ν} {l : List (κ × ν)}
    (h : (m.setAll l).size = m.size + l.length) : (m.keys ++ l.map Prod.fst).Nodup := by
  induction l generalizing m with
  | nil =>
    rw [List.map_nil, List.append_nil]
    exact m.nodup_keys
  | cons e l ih =>
    have hle := size_setAll_le (m.set e.1 e.2) l
    rw [setAll_cons, List.length_cons] at h
    have hsize := size_set m e.1 e.2
    by_cases hnew : e.1 ∈ m.keys
    · rw [if_pos hnew] at hsize
      omega
    · rw [if_neg hnew] at hsize
      have hnodup := ih (m := m.set e.1 e.2) (by omega)
      rw [keys_set_of_notMem hnew, List.append_assoc] at hnodup
      exact hnodup

/-- A map of as many entries as were set consists of these. -/
theorem entries_setAll_empty {l : List (κ × ν)} (h : (empty.setAll l).size = l.length) :
    (empty.setAll l).entries = l :=
  entries_setAll (nodup_of_size_setAll (h.trans (Nat.zero_add l.length).symm))

/-- Removing the oldest of at least one key drops the first entry. -/
theorem entries_dropOldest_cons {m : InsertionMap κ ν} {e : κ × ν} {l : List (κ × ν)}
    (h : m.entries = e :: l) : m.dropOldest.entries = l := by
  have hk : m.keys.head? = some e.1 := by simp [keys, h]
  have hnd := m.nodup_keys
  rw [h, List.map_cons, List.nodup_cons] at hnd
  rw [dropOldest, hk]
  simp only [entries_delete, h, List.filter_cons, ne_eq, not_true_eq_false, decide_false,
    Bool.false_eq_true, if_false]
  refine List.filter_eq_self.2 fun e' he' => ?_
  have hne : e'.1 ≠ e.1 := fun heq => hnd.1 (heq ▸ List.mem_map_of_mem he')
  simpa using hne

theorem keys_dropOldest {m : InsertionMap κ ν} {k : κ} {ks : List κ} (h : m.keys = k :: ks) :
    m.dropOldest.keys = ks := by
  obtain ⟨e, l, hentries, -, hl⟩ := List.map_eq_cons_iff.1 h
  rw [keys, entries_dropOldest_cons hentries, hl]

/-- Removing the oldest key changes no other key. -/
theorem get?_dropOldest {m : InsertionMap κ ν} {k k' : κ} {ks : List κ} (h : m.keys = k :: ks)
    (hne : k' ≠ k) : m.dropOldest.get? k' = m.get? k' := by
  obtain ⟨e, l, hentries, rfl, -⟩ := List.map_eq_cons_iff.1 h
  apply Option.ext
  intro v
  rw [get?_eq_some_iff, get?_eq_some_iff, entries_dropOldest_cons hentries, hentries,
    List.mem_cons]
  refine ⟨Or.inr, fun hmem => hmem.resolve_left ?_⟩
  rintro rfl
  exact hne rfl

theorem get?_mapValues {ν' : Type*} (f : ν → ν') (m : InsertionMap κ ν) (k : κ) :
    (m.mapValues f).get? k = (m.get? k).map f := by
  rw [get?, get?, mapValues, List.find?_map, Option.map_map, Option.map_map]
  rfl

/-- A function of the values commutes with setting a key. -/
theorem mapValues_set {ν' : Type*} (f : ν → ν') (m : InsertionMap κ ν) (k : κ) (v : ν) :
    (m.set k v).mapValues f = (m.mapValues f).set k (f v) := by
  have hkeys := keys_mapValues f m
  apply ext
  by_cases hk : k ∈ m.keys
  · have hk' : k ∈ (m.mapValues f).keys := hkeys.symm ▸ hk
    rw [set, dif_pos hk, set, dif_pos hk']
    simp only [mapValues, List.map_map]
    refine List.map_congr_left fun e _ => ?_
    simp only [Function.comp]
    split <;> rfl
  · have hk' : k ∉ (m.mapValues f).keys := hkeys.symm ▸ hk
    have hentries : ((m.set k v).mapValues f).entries =
        (m.set k v).entries.map fun e => (e.1, f e.2) := rfl
    rw [entries_set_of_notMem hk', hentries, entries_set_of_notMem hk, List.map_append]
    rfl

/-- The loop over a list of entries deletes the keys of those that satisfy `p`. -/
theorem entries_foldl_delete (p : κ × ν → Bool) (l : List (κ × ν)) (m : InsertionMap κ ν) :
    (l.foldl (fun m' e => if p e then m'.delete e.1 else m') m).entries =
      m.entries.filter fun e => decide (∀ e' ∈ l, p e' = true → e.1 ≠ e'.1) := by
  induction l generalizing m with
  | nil => simp
  | cons a l ih =>
    rw [List.foldl_cons, ih]
    by_cases ha : p a = true
    · rw [if_pos ha, entries_delete, List.filter_filter]
      refine List.filter_congr fun e _ => ?_
      simp only [List.forall_mem_cons, ha, true_implies, ← Bool.decide_and]
      exact decide_eq_decide.2 and_comm
    · rw [if_neg ha]
      refine List.filter_congr fun e _ => ?_
      simp [ha]

/-- **The deleting loop filters**: exactly the entries that fail the test are left. -/
theorem entries_deleteWhere (p : κ × ν → Bool) (m : InsertionMap κ ν) :
    (m.deleteWhere p).entries = m.entries.filter fun e => !p e := by
  rw [deleteWhere, entries_foldl_delete]
  refine List.filter_congr fun e he => ?_
  cases hp : p e with
  | true =>
    rw [Bool.not_true, decide_eq_false_iff_not]
    exact fun h => h e he hp rfl
  | false =>
    simp only [Bool.not_false, decide_eq_true_eq]
    intro e' he' hp' heq
    rw [eq_of_fst_eq he he' heq, hp'] at hp
    exact Bool.noConfusion hp

end InsertionMap
