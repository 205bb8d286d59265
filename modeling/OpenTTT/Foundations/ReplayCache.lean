import OpenTTT.Foundations.InsertionMap
import OpenTTT.Foundations.Mealy
import Mathlib.Data.Finset.Card
import Mathlib.Data.Finset.Image

/-!
# Bounded replay caches

A cache of the keys seen so far, each with the time at which it was recorded: bounded by a
capacity, with the oldest key evicted to make room, and with the keys older than a time to live
swept out once the cache is more than half full. `query` is one query: it reports whether the key
was unknown, and records it if so.

The guarantee of such a cache is `Retained`: a recorded key is still known as long as the clock
has not passed its time to live and fewer other keys than the capacity have been recorded since.
`Guard` is a verifier that consults the cache after some checks of its own; a run of its calls
keeps the guarantee (`Guard.retained_cacheAfter`), so that no key is fresh twice within it
(`Guard.not_fresh_twice`). A machine that refines a guard admits no key twice
(`Refines.not_admitted_twice`).
-/

namespace ReplayCache

variable {κ : Type*}

/-- `k`, recorded at `t`, is in the cache, and every key recorded after it is in `D`. -/
def Retained (k : κ) (t : ℤ) (D : Finset κ) (m : InsertionMap κ ℤ) : Prop :=
  ∃ pre post, m.entries = pre ++ (k, t) :: post ∧ ∀ e ∈ post, e.1 ∈ D

theorem Retained.mem_entries {k : κ} {t : ℤ} {D : Finset κ} {m : InsertionMap κ ℤ}
    (h : Retained k t D m) : (k, t) ∈ m.entries := by
  obtain ⟨pre, post, he, -⟩ := h
  simp [he]

theorem Retained.mem {k : κ} {t : ℤ} {D : Finset κ} {m : InsertionMap κ ℤ}
    (h : Retained k t D m) : k ∈ m.keys :=
  InsertionMap.mem_keys_of_mem h.mem_entries

theorem Retained.mono {k : κ} {t : ℤ} {D D' : Finset κ} {m : InsertionMap κ ℤ}
    (h : Retained k t D m) (hD : D ⊆ D') : Retained k t D' m := by
  obtain ⟨pre, post, he, hpost⟩ := h
  exact ⟨pre, post, he, fun e hm => hD (hpost e hm)⟩

/-! ## Keys recorded at one time -/

/-- Keys recorded at one time are all within their time to live at that time. -/
theorem not_expired {β : Type*} {key : β → κ} {l : List β} {t ttl : ℤ} {m : InsertionMap κ ℤ}
    (h : m.entries = l.map fun b => (key b, t)) (httl : 0 ≤ ttl) :
    ∀ e ∈ m.entries, t - e.2 ≤ ttl := by
  intro e he
  rw [h] at he
  obtain ⟨b, -, rfl⟩ := List.mem_map.1 he
  simpa using httl

theorem notMem_keys {β : Type*} {key : β → κ} (hinj : Function.Injective key) {l : List β} {t : ℤ}
    {m : InsertionMap κ ℤ} (h : m.entries = l.map fun b => (key b, t)) {b : β} (hb : b ∉ l) :
    key b ∉ m.keys := by
  rw [InsertionMap.keys, h, List.map_map]
  intro hmem
  obtain ⟨b', hb', heq⟩ := List.mem_map.1 hmem
  exact hb (hinj heq ▸ hb')

/-! ## The cache -/

variable [DecidableEq κ]

/-- Delete the keys recorded more than `ttl` before `now`. -/
def sweep (ttl now : ℤ) (m : InsertionMap κ ℤ) : InsertionMap κ ℤ :=
  m.deleteWhere fun e => decide (now - e.2 > ttl)

/-- One query of the cache: whether the key was unknown, and the cache with the key recorded. -/
def query (capacity : ℕ) (ttl : ℤ) (m : InsertionMap κ ℤ) (now : ℤ) (k : κ) :
    Bool × InsertionMap κ ℤ :=
  let m₁ := if m.size > capacity / 2 then sweep ttl now m else m
  if m₁.has k then (false, m₁)
  else
    let m₂ := if m₁.size ≥ capacity then m₁.dropOldest else m₁
    (true, m₂.set k now)

/-! ## The parts of a query -/

theorem entries_sweep (ttl now : ℤ) (m : InsertionMap κ ℤ) :
    (sweep ttl now m).entries = m.entries.filter fun e => !decide (now - e.2 > ttl) :=
  InsertionMap.entries_deleteWhere _ m

/-- Nothing is swept while every key is within its time to live. -/
theorem sweep_eq_self {ttl now : ℤ} {m : InsertionMap κ ℤ}
    (h : ∀ e ∈ m.entries, now - e.2 ≤ ttl) : sweep ttl now m = m := by
  refine InsertionMap.ext ?_
  rw [entries_sweep]
  refine List.filter_eq_self.2 fun e he => ?_
  simpa using h e he

/-- A key within its time to live survives the sweep. -/
theorem Retained.sweep {k : κ} {t ttl now : ℤ} {D : Finset κ} {m : InsertionMap κ ℤ}
    (h : Retained k t D m) (hnow : now - t ≤ ttl) : Retained k t D (sweep ttl now m) := by
  obtain ⟨pre, post, he, hpost⟩ := h
  refine ⟨pre.filter fun e => !decide (now - e.2 > ttl),
    post.filter fun e => !decide (now - e.2 > ttl), ?_,
    fun e hm => hpost e (List.mem_filter.1 hm).1⟩
  rw [entries_sweep, he, List.filter_append, List.filter_cons_of_pos (by simpa using hnow)]

/-- The optional sweep at the start of a query keeps a key within its time to live. -/
theorem Retained.swept {k : κ} {t ttl now : ℤ} {D : Finset κ} {m : InsertionMap κ ℤ}
    (h : Retained k t D m) (hnow : now - t ≤ ttl) (capacity : ℕ) :
    Retained k t D (if m.size > capacity / 2 then ReplayCache.sweep ttl now m else m) := by
  split
  · exact h.sweep hnow
  · exact h

/-- A full cache evicts its oldest key; a retained key is not the oldest one as long as the keys
recorded after it, the new one included, are fewer than the capacity. -/
theorem Retained.dropOldest {k k' : κ} {t : ℤ} {D : Finset κ} {m : InsertionMap κ ℤ}
    {capacity : ℕ} (h : Retained k t D m) (hfull : m.size ≥ capacity) (hk' : k' ∉ m.keys)
    (hD : (insert k' D).card < capacity) : Retained k t D m.dropOldest := by
  obtain ⟨pre, post, he, hpost⟩ := h
  cases pre with
  | cons e pre =>
    exact ⟨pre, post, InsertionMap.entries_dropOldest_cons he, hpost⟩
  | nil =>
    -- the retained key is the oldest: the cache is full of keys of `D` recorded after it
    exfalso
    have hnd := m.nodup_keys
    rw [he, List.nil_append, List.map_cons, List.nodup_cons] at hnd
    have hsub : insert k' (post.map Prod.fst).toFinset ⊆ insert k' D := by
      refine Finset.insert_subset_insert k' fun a ha => ?_
      obtain ⟨e, hm, rfl⟩ := List.mem_map.1 (List.mem_toFinset.1 ha)
      exact hpost e hm
    have hnot : k' ∉ (post.map Prod.fst).toFinset := by
      intro ha
      refine hk' ?_
      rw [InsertionMap.keys, he, List.nil_append, List.map_cons]
      exact List.mem_cons_of_mem _ (List.mem_toFinset.1 ha)
    have hcard := Finset.card_le_card hsub
    rw [Finset.card_insert_of_notMem hnot, List.toFinset_card_of_nodup hnd.2,
      List.length_map] at hcard
    have hsize : m.size = post.length + 1 := by simp [InsertionMap.size, he]
    omega

theorem Retained.set {k k' : κ} {t t' : ℤ} {D : Finset κ} {m : InsertionMap κ ℤ}
    (h : Retained k t D m) (hk' : k' ∉ m.keys) : Retained k t (insert k' D) (m.set k' t') := by
  obtain ⟨pre, post, he, hpost⟩ := h
  refine ⟨pre, post ++ [(k', t')], ?_, fun e hm => ?_⟩
  · rw [InsertionMap.entries_set_of_notMem hk', he, List.append_assoc, List.cons_append]
  · rcases List.mem_append.1 hm with hm | hm
    · exact Finset.mem_insert_of_mem (hpost e hm)
    · rw [List.mem_singleton.1 hm]
      exact Finset.mem_insert_self k' D

theorem notMem_dropOldest {k : κ} {m : InsertionMap κ ℤ} (h : k ∉ m.keys) :
    k ∉ m.dropOldest.keys := by
  cases he : m.entries with
  | nil => simp [InsertionMap.dropOldest, InsertionMap.keys, he]
  | cons e l =>
    rw [InsertionMap.keys, InsertionMap.entries_dropOldest_cons he]
    rw [InsertionMap.keys, he, List.map_cons] at h
    exact fun hm => h (List.mem_cons_of_mem _ hm)

/-! ## One query -/

section Query

variable {capacity : ℕ} {ttl : ℤ} {m : InsertionMap κ ℤ} {now : ℤ}

theorem query_fst (k : κ) : (query capacity ttl m now k).1 =
    !(if m.size > capacity / 2 then sweep ttl now m else m).has k := by
  simp only [query]
  set m₁ := if m.size > capacity / 2 then sweep ttl now m else m
  cases m₁.has k <;> rfl

/-- An admitted key is retained, with nothing recorded after it. -/
theorem retained_of_query {k : κ} (h : (query capacity ttl m now k).1 = true) :
    Retained k now ∅ (query capacity ttl m now k).2 := by
  simp only [query] at h ⊢
  set m₁ := if m.size > capacity / 2 then sweep ttl now m else m
  split at h
  · exact absurd h Bool.false_ne_true
  · rename_i hk
    rw [if_neg hk]
    rw [InsertionMap.has_iff] at hk
    have hk₂ : k ∉ (if m₁.size ≥ capacity then m₁.dropOldest else m₁).keys := by
      split
      · exact notMem_dropOldest hk
      · exact hk
    exact ⟨_, [], InsertionMap.entries_set_of_notMem hk₂ now, by simp⟩

/-- A retained key within its time to live is not admitted. -/
theorem Retained.not_fresh {k : κ} {t : ℤ} {D : Finset κ} (h : Retained k t D m)
    (hnow : now - t ≤ ttl) : (query capacity ttl m now k).1 = false := by
  rw [query_fst, InsertionMap.has_iff.2 (h.swept hnow capacity).mem]
  rfl

theorem notMem_swept {k : κ} (h : k ∉ m.keys) (capacity : ℕ) (ttl now : ℤ) :
    k ∉ (if m.size > capacity / 2 then sweep ttl now m else m).keys := by
  split
  · intro hk
    rw [InsertionMap.keys, entries_sweep, List.mem_map] at hk
    obtain ⟨e, he, rfl⟩ := hk
    exact h (InsertionMap.mem_keys_of_mem (List.mem_filter.1 he).1)
  · exact h

/-- A key that is not in the cache is fresh. -/
theorem query_fresh_of_notMem {k : κ} (h : k ∉ m.keys) : (query capacity ttl m now k).1 = true := by
  rw [query_fst, Bool.not_eq_true', ← Bool.not_eq_true, InsertionMap.has_iff]
  exact notMem_swept h capacity ttl now

/-- A query records no other key than its own. -/
theorem notMem_query {k k' : κ} (h : k ∉ m.keys) (hne : k ≠ k') :
    k ∉ (query capacity ttl m now k').2.keys := by
  have hs := notMem_swept h capacity ttl now
  simp only [query]
  set m₁ := if m.size > capacity / 2 then sweep ttl now m else m
  split
  · exact hs
  · have hd : k ∉ (if m₁.size ≥ capacity then m₁.dropOldest else m₁).keys := by
      split
      · exact notMem_dropOldest hs
      · exact hs
    set m₂ := if m₁.size ≥ capacity then m₁.dropOldest else m₁
    intro hk
    obtain ⟨e, he, rfl⟩ := List.mem_map.1 hk
    rcases InsertionMap.mem_entries_set.1 he with rfl | ⟨-, he⟩
    · exact hne rfl
    · exact hd (InsertionMap.mem_keys_of_mem he)

/-- A recorded key is unknown to a query that sweeps it out, and to no other one. -/
theorem query_fresh_iff_of_mem {k : κ} {t : ℤ} (h : (k, t) ∈ m.entries) :
    (query capacity ttl m now k).1 = true ↔ m.size > capacity / 2 ∧ now - t > ttl := by
  have hswept : k ∈ (sweep ttl now m).keys ↔ ¬ now - t > ttl := by
    simp only [InsertionMap.keys, entries_sweep, List.mem_map, List.mem_filter]
    constructor
    · rintro ⟨e, ⟨he, hold⟩, rfl⟩
      rw [InsertionMap.eq_of_fst_eq he h rfl] at hold
      simpa using hold
    · intro hnow
      exact ⟨(k, t), ⟨h, by simpa using hnow⟩, rfl⟩
  rw [query_fst, Bool.not_eq_true', ← Bool.not_eq_true, InsertionMap.has_iff]
  split
  · rename_i hsize
    rw [hswept, not_not]
    exact (and_iff_right hsize).symm
  · rename_i hsize
    exact iff_of_false (fun hk => hk (InsertionMap.mem_keys_of_mem h)) fun hs => hsize hs.1

/-- A query of a retained key within its time to live changes nothing after it. -/
theorem Retained.query_self {k : κ} {t : ℤ} {D : Finset κ} (h : Retained k t D m)
    (hnow : now - t ≤ ttl) : Retained k t D (query capacity ttl m now k).2 := by
  have hs := h.swept hnow capacity
  simp only [query]
  rw [if_pos (InsertionMap.has_iff.2 hs.mem)]
  exact hs

/-- A query of another key keeps a retained key, if it is within its time to live and the keys
recorded after it, the queried one included, are fewer than the capacity. -/
theorem Retained.query {k k' : κ} {t : ℤ} {D : Finset κ} (h : Retained k t D m)
    (hnow : now - t ≤ ttl) (hD : (insert k' D).card < capacity) :
    Retained k t (insert k' D) (query capacity ttl m now k').2 := by
  have hs := h.swept hnow capacity
  simp only [ReplayCache.query]
  set m₁ := if m.size > capacity / 2 then ReplayCache.sweep ttl now m else m
  split
  · exact hs.mono (Finset.subset_insert k' D)
  · rename_i hk'
    rw [InsertionMap.has_iff] at hk'
    split
    · rename_i hfull
      exact (hs.dropOldest hfull hk' hD).set (notMem_dropOldest hk')
    · exact hs.set hk'

end Query

/-! ## Filling a cache -/

/-- A new key is appended to a cache with room, when nothing has expired. -/
theorem query_of_room {capacity : ℕ} {ttl now : ℤ} {m : InsertionMap κ ℤ} {k : κ}
    (hnow : ∀ e ∈ m.entries, now - e.2 ≤ ttl) (hk : k ∉ m.keys) (hroom : m.size < capacity) :
    query capacity ttl m now k = (true, m.set k now) := by
  have hs : (if m.size > capacity / 2 then sweep ttl now m else m) = m := by
    rw [sweep_eq_self hnow, ite_self]
  have hhas : ¬ m.has k = true := fun h => hk (InsertionMap.has_iff.1 h)
  have hfull : ¬ m.size ≥ capacity := by omega
  simp only [query, hs]
  rw [if_neg hhas, if_neg hfull]

/-- A new key takes the place of the oldest one in a full cache, when nothing has expired. -/
theorem query_of_full {capacity : ℕ} {ttl now : ℤ} {m : InsertionMap κ ℤ} {k : κ}
    (hnow : ∀ e ∈ m.entries, now - e.2 ≤ ttl) (hk : k ∉ m.keys) (hfull : m.size ≥ capacity) :
    query capacity ttl m now k = (true, m.dropOldest.set k now) := by
  have hs : (if m.size > capacity / 2 then sweep ttl now m else m) = m := by
    rw [sweep_eq_self hnow, ite_self]
  have hhas : ¬ m.has k = true := fun h => hk (InsertionMap.has_iff.1 h)
  simp only [query, hs]
  rw [if_neg hhas, if_pos hfull]

/-! ## Verifiers guarded by a cache -/

/-- A verifier that queries the cache with the key of a call, at the time of the call, once the
call has passed the checks made before. -/
structure Guard (κ γ : Type*) where
  capacity : ℕ
  ttl : ℤ
  passes : γ → Bool
  key : γ → κ
  now : γ → ℤ

namespace Guard

variable {γ : Type*} (g : Guard κ γ)

/-- One call: whether it is admitted, and the cache after it. -/
def step (m : InsertionMap κ ℤ) (c : γ) : Bool × InsertionMap κ ℤ :=
  if g.passes c then query g.capacity g.ttl m (g.now c) (g.key c) else (false, m)

theorem step_of_passes {m : InsertionMap κ ℤ} {c : γ} (h : g.passes c = true) :
    g.step m c = query g.capacity g.ttl m (g.now c) (g.key c) := if_pos h

theorem step_of_not_passes {m : InsertionMap κ ℤ} {c : γ} (h : ¬ g.passes c = true) :
    g.step m c = (false, m) := if_neg h

/-- Only a call that passes the checks before is admitted. -/
theorem passes_of_fresh {m : InsertionMap κ ℤ} {c : γ} (h : (g.step m c).1 = true) :
    g.passes c = true := by
  by_contra hp
  rw [g.step_of_not_passes hp] at h
  exact Bool.false_ne_true h

/-- The cache after a list of calls. -/
def cacheAfter (m : InsertionMap κ ℤ) (cs : List γ) : InsertionMap κ ℤ :=
  Mealy.after g.step m cs

/-- The keys other than `k` with which the calls of a list query the cache. -/
def otherKeys (k : κ) (cs : List γ) : Finset κ :=
  ((cs.filter g.passes).map g.key).toFinset.erase k

@[simp] theorem cacheAfter_nil (m : InsertionMap κ ℤ) : g.cacheAfter m [] = m := rfl

theorem cacheAfter_append (m : InsertionMap κ ℤ) (cs : List γ) (c : γ) :
    g.cacheAfter m (cs ++ [c]) = (g.step (g.cacheAfter m cs) c).2 :=
  Mealy.after_concat g.step m cs c

theorem otherKeys_append_of_passes {k : κ} {cs : List γ} {c : γ} (hc : g.passes c = true)
    (hk : g.key c ≠ k) : g.otherKeys k (cs ++ [c]) = insert (g.key c) (g.otherKeys k cs) := by
  ext a
  simp only [otherKeys, List.filter_append, List.filter_cons, hc, if_true, List.filter_nil,
    List.map_append, List.map_cons, List.map_nil, Finset.mem_erase, List.mem_toFinset,
    List.mem_append, List.mem_singleton, Finset.mem_insert]
  constructor
  · rintro ⟨hne, h | h⟩
    · exact Or.inr ⟨hne, h⟩
    · exact Or.inl h
  · rintro (rfl | ⟨hne, h⟩)
    · exact ⟨hk, Or.inr rfl⟩
    · exact ⟨hne, Or.inl h⟩

theorem otherKeys_subset_append (k : κ) (cs : List γ) (c : γ) :
    g.otherKeys k cs ⊆ g.otherKeys k (cs ++ [c]) := by
  refine Finset.erase_subset_erase k fun a ha => ?_
  simp only [List.filter_append, List.map_append, List.mem_toFinset, List.mem_append] at ha ⊢
  exact Or.inl ha

theorem otherKeys_append_of_key_eq {k : κ} {cs : List γ} {c : γ} (hk : g.key c = k) :
    g.otherKeys k (cs ++ [c]) = g.otherKeys k cs := by
  refine (g.otherKeys_subset_append k cs c).antisymm' fun a ha => ?_
  simp only [otherKeys, List.filter_append, List.map_append, List.mem_toFinset,
    Finset.mem_erase, List.mem_append, List.mem_map, List.mem_filter, List.mem_singleton] at ha ⊢
  obtain ⟨hne, h | ⟨c', ⟨rfl, -⟩, rfl⟩⟩ := ha
  · exact ⟨hne, h⟩
  · exact absurd hk hne

/-- **A run of calls keeps a retained key**, as long as the clock stays within its time to live
and fewer other keys than the capacity are queried. -/
theorem retained_cacheAfter {k : κ} {t : ℤ} {m : InsertionMap κ ℤ} (h : Retained k t ∅ m)
    (cs : List γ) (hnow : ∀ c ∈ cs, g.now c - t ≤ g.ttl)
    (hcard : (g.otherKeys k cs).card < g.capacity) :
    Retained k t (g.otherKeys k cs) (g.cacheAfter m cs) := by
  induction cs using List.reverseRecOn with
  | nil => exact h.mono (Finset.empty_subset _)
  | append_singleton cs c ih =>
    have hsub := g.otherKeys_subset_append k cs c
    have ih' := ih (fun c' hc' => hnow c' (List.mem_append_left _ hc'))
      ((Finset.card_le_card hsub).trans_lt hcard)
    have hc := hnow c (List.mem_append_right _ (List.mem_singleton_self c))
    rw [cacheAfter_append, step]
    split
    · rename_i hp
      by_cases hk : g.key c = k
      · rw [g.otherKeys_append_of_key_eq hk, hk]
        exact ih'.query_self hc
      · rw [g.otherKeys_append_of_passes hp hk] at hcard ⊢
        exact ih'.query hc hcard
    · exact ih'.mono hsub

/-- A key that no call of a run asks for does not get into the cache. -/
theorem notMem_cacheAfter {k : κ} {m : InsertionMap κ ℤ} {cs : List γ} (h : k ∉ m.keys)
    (hcs : ∀ c ∈ cs, k ≠ g.key c) : k ∉ (g.cacheAfter m cs).keys := by
  induction cs generalizing m with
  | nil => exact h
  | cons c cs ih =>
    have hstep : k ∉ (g.step m c).2.keys := by
      unfold step
      split
      · exact notMem_query h (hcs c List.mem_cons_self)
      · exact h
    exact ih hstep fun d hd => hcs d (List.mem_cons_of_mem c hd)

/-- **No key is fresh twice** in a run of calls that stays within the time to live of the first
one and queries fewer other keys than the capacity in between. -/
theorem not_fresh_again {m : InsertionMap κ ℤ} {c₁ c₂ : γ} (cs : List γ)
    (h₁ : (g.step m c₁).1 = true) (hkey : g.key c₂ = g.key c₁)
    (hnow : ∀ c ∈ cs, g.now c - g.now c₁ ≤ g.ttl) (hnow₂ : g.now c₂ - g.now c₁ ≤ g.ttl)
    (hcard : (g.otherKeys (g.key c₁) cs).card < g.capacity) :
    (g.step (g.cacheAfter (g.step m c₁).2 cs) c₂).1 = false := by
  have hret : Retained (g.key c₁) (g.now c₁) ∅ (g.step m c₁).2 := by
    have hp := g.passes_of_fresh h₁
    rw [g.step_of_passes hp] at h₁ ⊢
    exact retained_of_query h₁
  have hret₂ := g.retained_cacheAfter hret cs hnow hcard
  rw [step]
  split
  · rw [hkey]
    exact hret₂.not_fresh hnow₂
  · rfl

/-- **No key is fresh at two calls of a run** whose clock does not decrease, if the second call is
within the time to live of the first and fewer other keys than the capacity are queried in
between. -/
theorem not_fresh_twice {m : InsertionMap κ ℤ} {cs : List γ} {i j : ℕ} {c₁ c₂ : γ} (hij : i < j)
    (hi : cs[i]? = some c₁) (hj : cs[j]? = some c₂)
    (hclock : cs.Pairwise fun c c' => g.now c ≤ g.now c') (hkey : g.key c₂ = g.key c₁)
    (hnow : g.now c₂ - g.now c₁ ≤ g.ttl)
    (hcard : (g.otherKeys (g.key c₁) ((cs.take j).drop (i + 1))).card < g.capacity)
    (h₁ : (g.step (g.cacheAfter m (cs.take i)) c₁).1 = true) :
    (g.step (g.cacheAfter m (cs.take j)) c₂).1 = false := by
  have hsplit := Mealy.take_eq_of_lt hij hi
  have hafter : g.cacheAfter m (cs.take j) =
      g.cacheAfter (g.step (g.cacheAfter m (cs.take i)) c₁).2 ((cs.take j).drop (i + 1)) := by
    rw [cacheAfter, hsplit, Mealy.after_append, Mealy.after_cons, ← hsplit]
    rfl
  have hmid : ∀ c ∈ (cs.take j).drop (i + 1), g.now c - g.now c₁ ≤ g.ttl := by
    intro c hc
    obtain ⟨k, hk, hck⟩ := List.mem_take_iff_getElem.1 (List.mem_of_mem_drop hc)
    obtain ⟨hjlt, rfl⟩ := List.getElem?_eq_some_iff.1 hj
    have hle := List.pairwise_iff_getElem.1 hclock k j (by omega) hjlt (by omega)
    rw [hck] at hle
    omega
  rw [hafter]
  exact g.not_fresh_again _ h₁ hkey hmid hnow hcard

end Guard

/-! ## Machines behind a guard -/

/-- A machine refines a guard if every step makes the step of the guard on the cache in its state,
and an admitted output is one for which the guard has found the key fresh. `P` is what a run keeps
of the rest of the state. -/
structure Refines {σ γ ρ : Type*} (g : Guard κ γ) (step : σ → γ → ρ × σ)
    (cache : σ → InsertionMap κ ℤ) (P : σ → Prop) (admits : ρ → Prop) : Prop where
  keeps : ∀ s c, P s → P (step s c).2
  cache_step : ∀ s c, P s → cache (step s c).2 = (g.step (cache s) c).2
  fresh : ∀ s c, P s → admits (step s c).1 → (g.step (cache s) c).1 = true

namespace Refines

variable {σ γ ρ : Type*} {g : Guard κ γ} {step : σ → γ → ρ × σ} {cache : σ → InsertionMap κ ℤ}
  {P : σ → Prop} {admits : ρ → Prop}

/-- The cache after a run is that of the guard. -/
theorem cache_after (h : Refines g step cache P admits) {s : σ} (hs : P s) (cs : List γ) :
    cache (Mealy.after step s cs) = g.cacheAfter (cache s) cs ∧ P (Mealy.after step s cs) := by
  refine Mealy.invariant_history step (P := fun cs s' =>
    cache s' = g.cacheAfter (cache s) cs ∧ P s') (fun cs c s' hs' => ?_) ⟨rfl, hs⟩ cs
  rw [g.cacheAfter_append, ← hs'.1]
  exact ⟨h.cache_step s' c hs'.2, h.keeps s' c hs'.2⟩

/-- An admitted output of a run is one of a fresh key. -/
theorem fresh_of_output (h : Refines g step cache P admits) {s : σ} (hs : P s) {cs : List γ}
    {i : ℕ} {c : γ} {r : ρ} (hi : cs[i]? = some c) (hr : (Mealy.outputs step s cs)[i]? = some r)
    (hadmits : admits r) : (g.step (g.cacheAfter (cache s) (cs.take i)) c).1 = true := by
  rw [Mealy.outputs_getElem? step s hi, Option.some.injEq] at hr
  subst hr
  obtain ⟨hcache, hP⟩ := h.cache_after hs (cs.take i)
  rw [← hcache]
  exact h.fresh _ c hP hadmits

/-- **No key is admitted twice** in a run whose clock does not decrease, if the second call is
within the time to live of the first, once it has passed the checks before, and fewer other keys
than the capacity are queried in between. -/
theorem not_admitted_twice (h : Refines g step cache P admits) {s : σ} (hs : P s) {cs : List γ}
    {i j : ℕ} {c₁ c₂ : γ} (hij : i < j) (hi : cs[i]? = some c₁) (hj : cs[j]? = some c₂)
    (hclock : cs.Pairwise fun c c' => g.now c ≤ g.now c') (hkey : g.key c₂ = g.key c₁)
    (hnow : g.passes c₂ = true → g.now c₂ - g.now c₁ ≤ g.ttl)
    (hcard : (g.otherKeys (g.key c₁) ((cs.take j).drop (i + 1))).card < g.capacity) {r₁ r₂ : ρ}
    (hr₁ : (Mealy.outputs step s cs)[i]? = some r₁) (hadmits₁ : admits r₁)
    (hr₂ : (Mealy.outputs step s cs)[j]? = some r₂) : ¬ admits r₂ := by
  intro hadmits₂
  have hfresh₁ := h.fresh_of_output hs hi hr₁ hadmits₁
  have hfresh₂ := h.fresh_of_output hs hj hr₂ hadmits₂
  have hstale := g.not_fresh_twice hij hi hj hclock hkey (hnow (g.passes_of_fresh hfresh₂)) hcard
    hfresh₁
  rw [hfresh₂] at hstale
  exact Bool.noConfusion hstale

end Refines

/-! ## Flooding a cache -/

namespace Guard

variable {γ : Type*} (g : Guard κ γ)

/-- Calls with pairwise distinct keys, all at one time, fill the cache in their order. -/
theorem entries_cacheAfter_of_nodup {t : ℤ} {cs : List γ} (httl : 0 ≤ g.ttl)
    (hpass : ∀ c ∈ cs, g.passes c = true) (hnow : ∀ c ∈ cs, g.now c = t)
    (hnodup : (cs.map g.key).Nodup) (hlen : cs.length ≤ g.capacity) :
    (g.cacheAfter .empty cs).entries = cs.map fun c => (g.key c, t) := by
  induction cs using List.reverseRecOn with
  | nil => rfl
  | append_singleton cs c ih =>
    rw [List.map_append, List.map_singleton] at hnodup
    rw [List.length_append, List.length_singleton] at hlen
    have ih' := ih (fun c' h => hpass c' (List.mem_append_left _ h))
      (fun c' h => hnow c' (List.mem_append_left _ h)) (List.nodup_append.1 hnodup).1 (by omega)
    have hkeys : (g.cacheAfter .empty cs).keys = cs.map g.key := by
      rw [InsertionMap.keys, ih', List.map_map]
      rfl
    have hk : g.key c ∉ (g.cacheAfter .empty cs).keys := fun h =>
      (List.nodup_append.1 hnodup).2.2 _ (hkeys ▸ h) _ (List.mem_singleton_self _) rfl
    have hsize : (g.cacheAfter .empty cs).size < g.capacity := by
      rw [InsertionMap.size, ih', List.length_map]
      omega
    have hc : c ∈ cs ++ [c] := List.mem_append_right _ (List.mem_singleton_self c)
    rw [cacheAfter_append, g.step_of_passes (hpass c hc), hnow c hc,
      query_of_room (not_expired ih' httl) hk hsize, InsertionMap.entries_set_of_notMem hk, ih',
      List.map_append, List.map_singleton]

/-- **The sweep makes a key fresh again**: in a cache more than half full of keys recorded at one
time, every key is unknown once their time to live has passed. -/
theorem fresh_after_expiry {t : ℤ} {cs : List γ} {c : γ} (httl : 0 ≤ g.ttl)
    (hpass : ∀ c ∈ cs, g.passes c = true) (hnow : ∀ c ∈ cs, g.now c = t)
    (hnodup : (cs.map g.key).Nodup) (hlen : cs.length ≤ g.capacity)
    (hhalf : g.capacity / 2 < cs.length) (hc : g.passes c = true) (hexp : g.now c - t > g.ttl) :
    (g.step (g.cacheAfter .empty cs) c).1 = true := by
  have he := g.entries_cacheAfter_of_nodup httl hpass hnow hnodup hlen
  set m := g.cacheAfter .empty cs
  have hsize : m.size > g.capacity / 2 := by
    rw [InsertionMap.size, he, List.length_map]
    exact hhalf
  have hswept : sweep g.ttl (g.now c) m = .empty := by
    refine InsertionMap.ext ?_
    rw [entries_sweep, he, List.filter_eq_nil_iff.2, InsertionMap.entries_empty]
    intro e hmem
    obtain ⟨c', -, rfl⟩ := List.mem_map.1 hmem
    simp only [hexp, decide_true, Bool.not_true, Bool.false_eq_true, not_false_eq_true]
  have hhas : ¬ (InsertionMap.empty : InsertionMap κ ℤ).has (g.key c) = true := by
    rw [InsertionMap.has_iff, InsertionMap.keys_empty]
    exact List.not_mem_nil
  rw [g.step_of_passes hc]
  simp only [query]
  rw [if_pos hsize, hswept, if_neg hhas]

/-- **A flood of distinct keys makes the oldest one fresh again**: once the capacity is filled and
one more key has been recorded, all at one time, the first key is not known any more. -/
theorem fresh_after_flood {t : ℤ} (call : ℕ → γ) (httl : 0 ≤ g.ttl)
    (hpass : ∀ k, g.passes (call k) = true) (hnow : ∀ k, g.now (call k) = t)
    (hinj : Function.Injective fun k => g.key (call k)) {n : ℕ} (hn : g.capacity = n + 1) :
    (g.step (g.cacheAfter .empty ((List.range (n + 2)).map call)) (call 0)).1 = true := by
  have hnodup : ∀ l : List ℕ, l.Nodup → ((l.map call).map g.key).Nodup := fun l hl => by
    rw [List.map_map]
    exact hl.map hinj
  have hfill : (g.cacheAfter .empty ((List.range (n + 1)).map call)).entries =
      (List.range (n + 1)).map fun k => (g.key (call k), t) := by
    rw [g.entries_cacheAfter_of_nodup httl (List.forall_mem_map.2 fun k _ => hpass k)
      (List.forall_mem_map.2 fun k _ => hnow k) (hnodup _ List.nodup_range)
      (by rw [List.length_map, List.length_range, hn]), List.map_map]
    rfl
  set m := g.cacheAfter .empty ((List.range (n + 1)).map call)
  -- the last key takes the place of the first one
  have hlast : g.key (call (n + 1)) ∉ m.keys := notMem_keys hinj hfill (by simp)
  have hdrop : m.dropOldest.entries =
      ((List.range n).map Nat.succ).map fun k => (g.key (call k), t) := by
    rw [List.range_succ_eq_map, List.map_cons] at hfill
    exact InsertionMap.entries_dropOldest_cons hfill
  have hstep : g.step m (call (n + 1)) = (true, m.dropOldest.set (g.key (call (n + 1))) t) := by
    rw [g.step_of_passes (hpass _), hnow, query_of_full (not_expired hfill httl) hlast]
    rw [InsertionMap.size, hfill, List.length_map, List.length_range, hn]
  have hset : (m.dropOldest.set (g.key (call (n + 1))) t).entries =
      ((List.range n).map Nat.succ ++ [n + 1]).map fun k => (g.key (call k), t) := by
    rw [InsertionMap.entries_set_of_notMem (notMem_dropOldest hlast), hdrop, List.map_append,
      List.map_singleton]
  have hfirst : g.key (call 0) ∉ (m.dropOldest.set (g.key (call (n + 1))) t).keys :=
    notMem_keys hinj hset (by simp)
  rw [List.range_succ, List.map_append, List.map_singleton, cacheAfter_append, hstep,
    g.step_of_passes (hpass 0), hnow, query_of_full (not_expired hset httl) hfirst]
  rw [InsertionMap.size, hset, List.length_map, List.length_append, List.length_map,
    List.length_range, List.length_singleton, hn]

end Guard

end ReplayCache
