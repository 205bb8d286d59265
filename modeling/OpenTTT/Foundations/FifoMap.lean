import Mathlib.Data.Finset.Card
import Mathlib.Data.Finset.Dedup
import Mathlib.Data.List.TakeWhile
import OpenTTT.Foundations.InsertionMap

/-!
# Maps of bounded size

A map that keeps the insertion order and has a capacity: what is stored when the map is full first
drops the oldest key, also if the key to be stored is there. `forall_retained_iff` says in which
runs this is a queue: every entry stays until as many other keys were stored as the map holds, and
storing a key again drops nothing else, if and only if no step stores a key again that a full map
holds behind others, and no step stores a key with another value that should be there.
-/

namespace FifoMap

variable {κ ν : Type*} [DecidableEq κ]

/-- Set a key, after dropping the oldest one if the map is full. -/
def store (capacity : ℕ) (m : InsertionMap κ ν) (e : κ × ν) : InsertionMap κ ν :=
  (if capacity ≤ m.size then m.dropOldest else m).set e.1 e.2

/-- The map after entries were stored. -/
def storeAll (capacity : ℕ) (l : List (κ × ν)) : InsertionMap κ ν :=
  l.foldl (store capacity) .empty

/-- The other keys since the first time that `k` was stored. -/
def othersSince (k : κ) (ks : List κ) : Finset κ := (ks.dropWhile (· ≠ k)).toFinset.erase k

/-- An entry is there unless as many other keys were stored since its key first was as the map
holds. -/
def Retained (capacity : ℕ) (l : List (κ × ν)) : Prop :=
  ∀ e ∈ l, (othersSince e.1 (l.map Prod.fst)).card < capacity →
    (storeAll capacity l).get? e.1 = some e.2

/-- Storing a key again changes no other key. -/
def KeepsOthers (capacity : ℕ) (m : InsertionMap κ ν) (e : κ × ν) : Prop :=
  e.1 ∈ m.keys → ∀ k, k ≠ e.1 → (store capacity m e).get? k = m.get? k

/-- A step that stores no key again that a full map holds behind others, and none with another value
that should be there. -/
structure Harmless (capacity : ℕ) (l : List (κ × ν)) (e : κ × ν) : Prop where
  room : e.1 ∈ (storeAll capacity l).keys → (storeAll capacity l).size < capacity ∨
    (storeAll capacity l).keys.head? = some e.1
  value : ∀ v, (e.1, v) ∈ l → (othersSince e.1 (l.map Prod.fst)).card < capacity → v = e.2

@[simp] theorem storeAll_concat (capacity : ℕ) (l : List (κ × ν)) (e : κ × ν) :
    storeAll capacity (l ++ [e]) = store capacity (storeAll capacity l) e := by
  rw [storeAll, List.foldl_append]
  rfl

/-! ## The keys since a key -/

theorem dropWhile_ne_eq_nil {k : κ} {ks : List κ} (h : k ∉ ks) :
    ks.dropWhile (fun a => decide (a ≠ k)) = [] := by
  rw [List.dropWhile_eq_nil_iff]
  intro a ha
  exact decide_eq_true (ne_of_mem_of_not_mem ha h)

theorem dropWhile_ne_append {k : κ} {ks : List κ} (h : k ∈ ks) (k' : κ) :
    (ks ++ [k']).dropWhile (fun a => decide (a ≠ k)) =
      ks.dropWhile (fun a => decide (a ≠ k)) ++ [k'] := by
  rw [List.dropWhile_append, if_neg]
  rw [List.isEmpty_iff, List.dropWhile_eq_nil_iff]
  exact fun hall => of_decide_eq_true (hall k h) rfl

/-- Storing a key again adds nothing to the others since. -/
theorem othersSince_concat_self (k : κ) (ks : List κ) :
    othersSince k (ks ++ [k]) = othersSince k ks := by
  unfold othersSince
  by_cases hk : k ∈ ks
  · rw [dropWhile_ne_append hk, List.toFinset_append, Finset.erase_union_distrib]
    simp
  · have hlast : (ks ++ [k]).dropWhile (fun a => decide (a ≠ k)) = [k] := by
      rw [List.dropWhile_append, dropWhile_ne_eq_nil hk]
      simp
    rw [hlast, dropWhile_ne_eq_nil hk]
    simp

theorem othersSince_concat_of_mem {k k' : κ} {ks : List κ} (hk : k ∈ ks) (hne : k' ≠ k) :
    othersSince k (ks ++ [k']) = insert k' (othersSince k ks) := by
  unfold othersSince
  rw [dropWhile_ne_append hk, List.toFinset_append, Finset.erase_union_distrib]
  ext a
  simp only [Finset.mem_union, Finset.mem_erase, Finset.mem_insert, List.mem_toFinset,
    List.mem_singleton]
  constructor
  · rintro (h | ⟨-, rfl⟩)
    · exact Or.inr h
    · exact Or.inl rfl
  · rintro (rfl | h)
    · exact Or.inr ⟨hne, rfl⟩
    · exact Or.inl h

/-! ## What a step does -/

section Step

variable {capacity : ℕ} {m : InsertionMap κ ν} {l : List (κ × ν)} {e : κ × ν}

theorem get?_store_self : (store capacity m e).get? e.1 = some e.2 := by
  rw [store, InsertionMap.get?_set, if_pos rfl]

/-- **What a step does** that stores no key again behind others in a full map: it keeps all keys, or
drops the oldest one and puts the key at the end. -/
theorem store_cases (hcapacity : 0 < capacity)
    (hroom : e.1 ∈ m.keys → m.size < capacity ∨ m.keys.head? = some e.1) :
    ((store capacity m e).keys = (if e.1 ∈ m.keys then m.keys else m.keys ++ [e.1]) ∧
      ∀ k, k ≠ e.1 → (store capacity m e).get? k = m.get? k) ∨
    ∃ a rest, capacity ≤ m.size ∧ m.keys = a :: rest ∧ e.1 ∉ rest ∧
      (store capacity m e).keys = rest ++ [e.1] ∧
      ∀ k, k ≠ e.1 → k ≠ a → (store capacity m e).get? k = m.get? k := by
  by_cases hfull : capacity ≤ m.size
  · right
    obtain ⟨a, rest, hkeys⟩ : ∃ a rest, m.keys = a :: rest := by
      have hlength := m.length_keys
      exact List.exists_cons_of_length_pos (by omega)
    have hnew : e.1 ∉ rest := by
      intro hmem
      rcases hroom (hkeys ▸ List.mem_cons_of_mem a hmem) with hlt | hhead
      · omega
      · rw [hkeys, List.head?_cons, Option.some.injEq] at hhead
        exact (InsertionMap.nodup_cons_of_keys hkeys).1 (hhead ▸ hmem)
    have hdrop := InsertionMap.keys_dropOldest hkeys
    refine ⟨a, rest, hfull, hkeys, hnew, ?_, fun k hne hold => ?_⟩
    · rw [store, if_pos hfull, InsertionMap.keys_set_of_notMem (hdrop.symm ▸ hnew), hdrop]
    · rw [store, if_pos hfull, InsertionMap.get?_set, if_neg hne,
        InsertionMap.get?_dropOldest hkeys hold]
  · left
    rw [store, if_neg hfull]
    constructor
    · split
      · rename_i hmem
        exact InsertionMap.keys_set_of_mem hmem e.2
      · rename_i hmem
        exact InsertionMap.keys_set_of_notMem hmem e.2
    · intro k hne
      rw [InsertionMap.get?_set, if_neg hne]

/-- A step adds one key only. -/
theorem mem_keys_store {k : κ} (h : k ∈ (store capacity m e).keys) : k = e.1 ∨ k ∈ m.keys := by
  obtain ⟨e', he', rfl⟩ := List.mem_map.1 h
  rcases InsertionMap.mem_entries_set.1 he' with rfl | ⟨-, hold⟩
  · exact Or.inl rfl
  · right
    split at hold
    · unfold InsertionMap.dropOldest at hold
      split at hold
      · exact InsertionMap.mem_keys_of_mem (List.mem_filter.1 hold).1
      · exact InsertionMap.mem_keys_of_mem hold
    · exact InsertionMap.mem_keys_of_mem hold

theorem mem_of_mem_keys_storeAll {k : κ} (h : k ∈ (storeAll capacity l).keys) :
    k ∈ l.map Prod.fst := by
  induction l using List.reverseRecOn with
  | nil => exact h
  | append_singleton l e ih =>
    rw [List.map_append, List.mem_append]
    rw [storeAll_concat] at h
    rcases mem_keys_store h with rfl | hold
    · exact Or.inr (by simp)
    · exact Or.inl (ih hold)

theorem size_storeAll_le (capacity : ℕ) (l : List (κ × ν)) :
    (storeAll capacity l).size ≤ (l.map Prod.fst).toFinset.card := by
  have hnodup : (storeAll capacity l).keys.Nodup := (storeAll capacity l).nodup_keys
  rw [← InsertionMap.length_keys, ← List.toFinset_card_of_nodup hnodup]
  refine Finset.card_le_card fun k hk => ?_
  exact List.mem_toFinset.2 (mem_of_mem_keys_storeAll (List.mem_toFinset.1 hk))

/-- Distinct keys are kept in their order as long as there is room. -/
theorem keys_storeAll_of_nodup (hnodup : (l.map Prod.fst).Nodup) (hlen : l.length ≤ capacity) :
    (storeAll capacity l).keys = l.map Prod.fst := by
  induction l using List.reverseRecOn with
  | nil => rfl
  | append_singleton l e ih =>
    rw [List.map_append, List.map_singleton] at hnodup ⊢
    rw [List.length_append, List.length_singleton] at hlen
    have hkeys := ih (List.nodup_append.1 hnodup).1 (by omega)
    have hsize : (storeAll capacity l).size = l.length := by
      rw [← InsertionMap.length_keys, hkeys, List.length_map]
    have hnew : e.1 ∉ (storeAll capacity l).keys := by
      rw [hkeys]
      exact fun hmem => List.disjoint_of_nodup_append hnodup hmem List.mem_cons_self
    rw [storeAll_concat, store, if_neg (by omega), InsertionMap.keys_set_of_notMem hnew, hkeys]

/-! ## Runs -/

/-- A key is there, and only keys stored since are behind it. -/
def Behind (capacity : ℕ) (l : List (κ × ν)) (k : κ) : Prop :=
  ∃ pre post, (storeAll capacity l).keys = pre ++ k :: post ∧
    ∀ k' ∈ post, k' ∈ othersSince k (l.map Prod.fst)

/-- The others behind the oldest key of a full map are, with a new one, as many as it holds. -/
theorem capacity_le_card {a : κ} {rest : List κ} (hnodup : rest.Nodup)
    (hfull : capacity ≤ (a :: rest).length) (hnew : e.1 ∉ rest) {others : Finset κ}
    (hrest : ∀ k ∈ rest, k ∈ others) : capacity ≤ (insert e.1 others).card := by
  have hsub : insert e.1 rest.toFinset ⊆ insert e.1 others := by
    refine Finset.insert_subset_insert _ fun k hk => ?_
    exact hrest k (List.mem_toFinset.1 hk)
  have hcard : (insert e.1 rest.toFinset).card = rest.length + 1 := by
    rw [Finset.card_insert_of_notMem (by simpa using hnew),
      List.toFinset_card_of_nodup hnodup]
  rw [List.length_cons] at hfull
  exact hfull.trans (hcard ▸ Finset.card_le_card hsub)

theorem behind_concat (hcapacity : 0 < capacity)
    (hroom : e.1 ∈ (storeAll capacity l).keys → (storeAll capacity l).size < capacity ∨
      (storeAll capacity l).keys.head? = some e.1)
    (h : ∀ k ∈ l.map Prod.fst, (othersSince k (l.map Prod.fst)).card < capacity →
      Behind capacity l k) {k : κ} (hk : k ∈ (l ++ [e]).map Prod.fst)
    (hfew : (othersSince k ((l ++ [e]).map Prod.fst)).card < capacity) :
    Behind capacity (l ++ [e]) k := by
  have hmap : (l ++ [e]).map Prod.fst = l.map Prod.fst ++ [e.1] := List.map_append
  rw [Behind, storeAll_concat]
  rw [hmap] at hfew hk ⊢
  by_cases hself : k = e.1
  · subst hself
    rw [othersSince_concat_self] at hfew ⊢
    rcases store_cases hcapacity hroom with ⟨hkeys, -⟩ | ⟨a, rest, -, -, -, hkeys, -⟩
    · rw [hkeys]
      split
      · rename_i hmem
        exact h e.1 (mem_of_mem_keys_storeAll hmem) hfew
      · exact ⟨_, [], rfl, by simp⟩
    · exact ⟨rest, [], hkeys, by simp⟩
  · have hold : k ∈ l.map Prod.fst := by simpa [hself] using hk
    rw [othersSince_concat_of_mem hold (Ne.symm hself)] at hfew ⊢
    obtain ⟨pre, post, hbehind, hpost⟩ :=
      h k hold ((Finset.card_le_card (Finset.subset_insert _ _)).trans_lt hfew)
    have hpost' : ∀ k' ∈ post ++ [e.1], k' ∈ insert e.1 (othersSince k (l.map Prod.fst)) := by
      intro k' hk'
      rcases List.mem_append.1 hk' with hk' | hk'
      · exact Finset.mem_insert_of_mem (hpost k' hk')
      · rw [List.mem_singleton.1 hk']
        exact Finset.mem_insert_self _ _
    rcases store_cases hcapacity hroom with ⟨hkeys, -⟩ | ⟨a, rest, hfull, hcons, hnew, hkeys, -⟩
    · rw [hkeys, hbehind]
      split
      · exact ⟨pre, post, rfl, fun k' hk' => hpost' k' (List.mem_append_left _ hk')⟩
      · exact ⟨pre, post ++ [e.1], by simp, hpost'⟩
    · rw [hkeys]
      rw [hcons] at hbehind
      cases pre with
      | nil =>
        -- the key is the oldest one of a full map, so too many were stored since
        obtain ⟨rfl, rfl⟩ := List.cons.inj hbehind
        have hnodup := (InsertionMap.nodup_cons_of_keys hcons).2
        have hlength : (a :: rest).length = (storeAll capacity l).size := by
          rw [← hcons, InsertionMap.length_keys]
        exact absurd (capacity_le_card hnodup (hlength ▸ hfull) hnew hpost) (not_le.2 hfew)
      | cons b pre =>
        obtain ⟨-, rfl⟩ := List.cons.inj hbehind
        exact ⟨pre, post ++ [e.1], by simp, hpost'⟩

/-- A harmless step retains what is to be retained after it. -/
theorem retained_concat (hcapacity : 0 < capacity) (hharmless : Harmless capacity l e)
    (hbehind : ∀ k ∈ (l ++ [e]).map Prod.fst,
      (othersSince k ((l ++ [e]).map Prod.fst)).card < capacity → Behind capacity (l ++ [e]) k)
    (h : Retained capacity l) : Retained capacity (l ++ [e]) := by
  intro e' he' hfew
  obtain ⟨pre, post, hkeys', -⟩ := hbehind e'.1 (List.mem_map_of_mem he') hfew
  rw [storeAll_concat] at hkeys' ⊢
  rw [List.map_append, List.map_singleton] at hfew
  by_cases hself : e'.1 = e.1
  · rw [hself, othersSince_concat_self] at hfew
    have hvalue : e'.2 = e.2 := by
      rcases List.mem_append.1 he' with hold | hlast
      · exact hharmless.value e'.2 (hself ▸ hold) hfew
      · rw [List.mem_singleton.1 hlast]
    rw [hself, hvalue]
    exact get?_store_self
  · have hold : e' ∈ l := by
      refine (List.mem_append.1 he').resolve_right fun hlast => hself ?_
      rw [List.mem_singleton.1 hlast]
    rw [othersSince_concat_of_mem (List.mem_map_of_mem hold) (Ne.symm hself)] at hfew
    have hget := h e' hold ((Finset.card_le_card (Finset.subset_insert _ _)).trans_lt hfew)
    rcases store_cases hcapacity hharmless.room with
      ⟨-, hother⟩ | ⟨a, rest, -, hcons, -, hkeys, hother⟩
    · rw [hother _ hself, hget]
    · -- the dropped key is not there afterwards, as this one is
      have hmem : e'.1 ∈ rest := by
        have hstored : e'.1 ∈ rest ++ [e.1] := by
          rw [← hkeys, hkeys']
          simp
        simpa [hself] using hstored
      have hdropped := (InsertionMap.nodup_cons_of_keys hcons).1
      rw [hother _ hself (ne_of_mem_of_not_mem hmem hdropped), hget]

theorem keepsOthers_of_room (hcapacity : 0 < capacity)
    (hroom : e.1 ∈ m.keys → m.size < capacity ∨ m.keys.head? = some e.1) :
    KeepsOthers capacity m e := by
  intro hmem k hne
  rcases store_cases hcapacity hroom with ⟨-, hother⟩ | ⟨a, rest, -, hcons, hnew, -, hother⟩
  · exact hother k hne
  · rw [hcons] at hmem
    obtain rfl : e.1 = a := (List.mem_cons.1 hmem).resolve_right hnew
    exact hother k hne hne

/-- Storing a key again that a full map holds behind others drops another key. -/
theorem room_of_keepsOthers (h : KeepsOthers capacity m e) (hmem : e.1 ∈ m.keys) :
    m.size < capacity ∨ m.keys.head? = some e.1 := by
  by_contra hno
  rw [not_or, not_lt] at hno
  obtain ⟨hfull, hhead⟩ := hno
  obtain ⟨a, rest, hkeys⟩ := List.exists_cons_of_ne_nil (List.ne_nil_of_mem hmem)
  have hne : a ≠ e.1 := by
    rintro rfl
    exact hhead (by rw [hkeys, List.head?_cons])
  have hdropped : (store capacity m e).get? a = none := by
    rw [store, if_pos hfull, InsertionMap.get?_set, if_neg hne, InsertionMap.get?_eq_none_iff,
      InsertionMap.keys_dropOldest hkeys]
    exact (InsertionMap.nodup_cons_of_keys hkeys).1
  rw [h hmem a hne, InsertionMap.get?_eq_none_iff, hkeys] at hdropped
  exact hdropped List.mem_cons_self

theorem harmless_of_retained (hkeeps : KeepsOthers capacity (storeAll capacity l) e)
    (h : Retained capacity (l ++ [e])) : Harmless capacity l e where
  room := room_of_keepsOthers hkeeps
  value := by
    intro v hv hfew
    have hfew' : (othersSince e.1 ((l ++ [e]).map Prod.fst)).card < capacity := by
      rw [List.map_append, List.map_singleton, othersSince_concat_self]
      exact hfew
    have hfirst := h (e.1, v) (List.mem_append_left _ hv) hfew'
    have hlast := h e (by simp) hfew'
    exact Option.some.inj (hfirst.symm.trans hlast)

end Step

variable {capacity : ℕ}

/-- What holds after harmless steps. -/
theorem retained_and_behind (hcapacity : 0 < capacity) {l : List (κ × ν)}
    (h : ∀ pre e, pre ++ [e] <+: l → Harmless capacity pre e) :
    Retained capacity l ∧ ∀ k ∈ l.map Prod.fst,
      (othersSince k (l.map Prod.fst)).card < capacity → Behind capacity l k := by
  induction l using List.reverseRecOn with
  | nil => exact ⟨nofun, nofun⟩
  | append_singleton l e ih =>
    have hlast := h l e (List.prefix_refl _)
    obtain ⟨hretained, hbehind⟩ :=
      ih fun pre e' hpre => h pre e' (hpre.trans (List.prefix_append l [e]))
    have hbehind' := fun k => behind_concat hcapacity hlast.room hbehind (k := k)
    exact ⟨retained_concat hcapacity hlast hbehind' hretained, hbehind'⟩

/-- What is stored up to an entry was stored by the inputs up to one. -/
theorem exists_concat_of_filterMap {γ β : Type*} {f : γ → Option β} {cs : List γ} {pre : List β}
    {e : β} (h : pre ++ [e] <+: cs.filterMap f) :
    ∃ cs' c, cs' ++ [c] <+: cs ∧ cs'.filterMap f = pre ∧ f c = some e := by
  obtain ⟨rest, hrest⟩ := h
  rw [List.append_assoc, List.singleton_append] at hrest
  obtain ⟨cs₁, cs₂, rfl, hpre, htail⟩ := List.filterMap_eq_append_iff.1 hrest.symm
  obtain ⟨quiet, c, cs₃, rfl, hquiet, hc, -⟩ := List.filterMap_eq_cons_iff.1 htail
  refine ⟨cs₁ ++ quiet, c, ⟨cs₃, by simp⟩, ?_, hc⟩
  rw [List.filterMap_append, hpre, List.filterMap_eq_nil_iff.2 hquiet, List.append_nil]

/-- **When a bounded map is a queue.** In a run of inputs of which some store an entry: every entry
is retained, and storing a key again changes no other key, at every step, if and only if every step
is harmless. -/
theorem forall_retained_iff {γ : Type*} (f : γ → Option (κ × ν)) (hcapacity : 0 < capacity)
    (cs : List γ) :
    ((∀ pre, pre <+: cs → Retained capacity (pre.filterMap f)) ∧
      ∀ pre c, pre ++ [c] <+: cs → ∀ e, f c = some e →
        KeepsOthers capacity (storeAll capacity (pre.filterMap f)) e) ↔
    ∀ pre c, pre ++ [c] <+: cs → ∀ e, f c = some e →
      Harmless capacity (pre.filterMap f) e := by
  constructor
  · rintro ⟨hretained, hkeeps⟩ pre c hpre e he
    refine harmless_of_retained (hkeeps pre c hpre e he) ?_
    have hlast : (pre ++ [c]).filterMap f = pre.filterMap f ++ [e] := by
      rw [List.filterMap_append, List.filterMap_cons, he, List.filterMap_nil]
    exact hlast ▸ hretained _ hpre
  · intro h
    refine ⟨fun pre hpre => (retained_and_behind hcapacity ?_).1, fun pre c hpre e he => ?_⟩
    · intro stored e hstored
      obtain ⟨cs', c, hcs', rfl, he⟩ := exists_concat_of_filterMap hstored
      exact h cs' c (hcs'.trans hpre) e he
    · exact keepsOthers_of_room hcapacity (h pre c hpre e he).room

end FifoMap
