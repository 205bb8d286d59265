import OpenTTT.Foundations.InsertionMap
import OpenTTT.Foundations.Mealy
import Mathlib.Data.Int.Basic

/-!
# Caches whose entries expire

A cache of keys with the time at which each one expires. A key is known until the clock has passed
that time; asking for a key that has expired removes it, and adding a key to a cache that has grown
beyond its limit first removes all that have expired. Nothing else removes an entry, so a key is
known at every reading of the clock up to its expiry (`Held`), however many others are added.

A `Guard` puts checks in front of such a cache, and admits what passes them with a key that is not
known. `not_fresh_twice` is its safety over runs: a key that has been admitted is not admitted
again while it is held.
-/

namespace ExpiringCache

variable {κ : Type*} [DecidableEq κ]

/-! ## The operations -/

/-- Whether a key is known at a time. -/
def has (now : ℤ) (m : InsertionMap κ ℤ) (k : κ) : Bool × InsertionMap κ ℤ :=
  match m.get? k with
  | none => (false, m)
  | some exp => if now > exp then (false, m.delete k) else (true, m)

/-- Remove what has expired. -/
def sweep (now : ℤ) (m : InsertionMap κ ℤ) : InsertionMap κ ℤ :=
  m.deleteWhere fun e => decide (now > e.2)

/-- Add a key that expires `ttl` from now, after a sweep if there are more than `limit` entries. -/
def add (limit : ℕ) (ttl sweepNow now : ℤ) (m : InsertionMap κ ℤ) (k : κ) : InsertionMap κ ℤ :=
  (if m.size > limit then sweep sweepNow m else m).set k (now + ttl)

/-! ## What the operations do to the entries -/

/-- Asking for a key that is known removes nothing. -/
theorem has_snd_of_known {now : ℤ} {m : InsertionMap κ ℤ} {k : κ} (h : (has now m k).1 = true) :
    (has now m k).2 = m := by
  unfold has at h ⊢
  split
  · rfl
  · split
    · rename_i hget hlate
      rw [hget] at h
      simp only [if_pos hlate] at h
      exact absurd h Bool.false_ne_true
    · rfl

theorem mem_entries_of_has {now : ℤ} {m : InsertionMap κ ℤ} {k : κ} {e : κ × ℤ}
    (h : e ∈ (has now m k).2.entries) : e ∈ m.entries := by
  unfold has at h
  split at h
  · exact h
  · split at h
    · rw [InsertionMap.entries_delete, List.mem_filter] at h
      exact h.1
    · exact h

/-- Adding a key adds no other. -/
theorem mem_entries_add {limit : ℕ} {ttl sweepNow now : ℤ} {m : InsertionMap κ ℤ} {k : κ}
    {e : κ × ℤ} (h : e ∈ (add limit ttl sweepNow now m k).entries) :
    e = (k, now + ttl) ∨ e ∈ m.entries := by
  rcases InsertionMap.mem_entries_set.1 h with h | ⟨-, h⟩
  · exact Or.inl h
  · right
    split at h
    · rw [sweep, InsertionMap.entries_deleteWhere, List.mem_filter] at h
      exact h.1
    · exact h

theorem self_mem_entries_add (limit : ℕ) (ttl sweepNow now : ℤ) (m : InsertionMap κ ℤ) (k : κ) :
    (k, now + ttl) ∈ (add limit ttl sweepNow now m k).entries :=
  InsertionMap.mem_entries_set.2 (Or.inl rfl)

/-! ## Keys that are held -/

/-- The key `k` is in the cache and does not expire before `t`. -/
def Held (k : κ) (t : ℤ) (m : InsertionMap κ ℤ) : Prop := ∃ exp, (k, exp) ∈ m.entries ∧ t ≤ exp

variable {k : κ} {t now : ℤ} {m : InsertionMap κ ℤ}

/-- A key that is held is known. -/
theorem Held.has (h : Held k t m) (hnow : now ≤ t) : (has now m k).1 = true := by
  obtain ⟨exp, hmem, hexp⟩ := h
  rw [ExpiringCache.has, InsertionMap.get?_eq_some_iff.2 hmem]
  simp only [gt_iff_lt]
  rw [if_neg (by omega)]

theorem Held.of_has (h : Held k t m) (hnow : now ≤ t) (k' : κ) :
    Held k t (ExpiringCache.has now m k').2 := by
  obtain ⟨exp, hmem, hexp⟩ := h
  unfold ExpiringCache.has
  cases hget : m.get? k' with
  | none => exact ⟨exp, hmem, hexp⟩
  | some exp' =>
    dsimp only
    split
    · rename_i hlate
      refine ⟨exp, ?_, hexp⟩
      rw [InsertionMap.entries_delete, List.mem_filter]
      refine ⟨hmem, decide_eq_true ?_⟩
      -- the removed key has expired, so it is another one
      rintro rfl
      have heq := InsertionMap.eq_of_fst_eq hmem (InsertionMap.get?_eq_some_iff.1 hget) rfl
      rw [Prod.mk.injEq] at heq
      omega
    · exact ⟨exp, hmem, hexp⟩

theorem Held.sweep (h : Held k t m) (hnow : now ≤ t) : Held k t (sweep now m) := by
  obtain ⟨exp, hmem, hexp⟩ := h
  refine ⟨exp, ?_, hexp⟩
  rw [ExpiringCache.sweep, InsertionMap.entries_deleteWhere, List.mem_filter]
  refine ⟨hmem, ?_⟩
  simp only [Bool.not_eq_true', decide_eq_false_iff_not]
  omega

/-- Adding another key keeps a key that is held. -/
theorem Held.add {limit : ℕ} {ttl sweepNow : ℤ} {k' : κ} (h : Held k t m) (hne : k ≠ k')
    (hsweep : sweepNow ≤ t) : Held k t (add limit ttl sweepNow now m k') := by
  have hswept : Held k t (if m.size > limit then ExpiringCache.sweep sweepNow m else m) := by
    split
    · exact h.sweep hsweep
    · exact h
  obtain ⟨exp, hmem, hexp⟩ := hswept
  exact ⟨exp, InsertionMap.mem_entries_set.2 (Or.inr ⟨hne, hmem⟩), hexp⟩

/-- A key that is added is held until it expires. -/
theorem held_add (limit : ℕ) (ttl sweepNow now : ℤ) (m : InsertionMap κ ℤ) (k : κ) :
    Held k (now + ttl) (add limit ttl sweepNow now m k) :=
  ⟨now + ttl, self_mem_entries_add limit ttl sweepNow now m k, Int.le_refl _⟩

/-! ## A guard in front of a cache -/

/-- Checks in front of a cache: what a call has to pass, its key, and its clock readings. -/
structure Guard (κ γ : Type*) where
  limit : ℕ
  ttl : ℤ
  passes : γ → Bool
  key : γ → κ
  hasNow : γ → ℤ
  sweepNow : γ → ℤ
  addNow : γ → ℤ

namespace Guard

variable {γ : Type*} (g : Guard κ γ)

/-- A call: admitted if it passes the checks with a key that is not known, which is then added. -/
def step (m : InsertionMap κ ℤ) (c : γ) : Bool × InsertionMap κ ℤ :=
  if g.passes c = true then
    let (seen, m') := has (g.hasNow c) m (g.key c)
    if seen then (false, m')
    else (true, add g.limit g.ttl (g.sweepNow c) (g.addNow c) m' (g.key c))
  else (false, m)

/-- The cache after a run of calls. -/
def cacheAfter (m : InsertionMap κ ℤ) (cs : List γ) : InsertionMap κ ℤ := Mealy.after g.step m cs

/-- What an admitted call has been through. -/
theorem step_fst_iff {m : InsertionMap κ ℤ} {c : γ} : (g.step m c).1 = true ↔
    g.passes c = true ∧ (has (g.hasNow c) m (g.key c)).1 = false := by
  unfold step
  by_cases hpass : g.passes c = true
  · rw [if_pos hpass]
    rcases has (g.hasNow c) m (g.key c) with ⟨seen, m'⟩
    cases seen <;> simp [hpass]
  · simp [hpass]

/-- An admitted key is held until it expires. -/
theorem held_of_fresh {m : InsertionMap κ ℤ} {c : γ} (h : (g.step m c).1 = true) :
    Held (g.key c) (g.addNow c + g.ttl) (g.step m c).2 := by
  obtain ⟨hpass, hunseen⟩ := g.step_fst_iff.1 h
  unfold step
  rw [if_pos hpass]
  revert hunseen
  rcases has (g.hasNow c) m (g.key c) with ⟨seen, m'⟩
  rintro rfl
  exact held_add g.limit g.ttl (g.sweepNow c) (g.addNow c) m' (g.key c)

/-- A call keeps the keys that are held beyond its clock readings. -/
theorem held_step {m : InsertionMap κ ℤ} {c : γ} (h : Held k t m) (hhas : g.hasNow c ≤ t)
    (hsweep : g.sweepNow c ≤ t) : Held k t (g.step m c).2 := by
  unfold step
  split
  · have hseen := h.of_has hhas (g.key c)
    have hself : k = g.key c → (has (g.hasNow c) m (g.key c)).1 = true := by
      rintro rfl
      exact h.has hhas
    revert hseen hself
    rcases has (g.hasNow c) m (g.key c) with ⟨seen, m'⟩
    cases seen with
    | true => exact fun hseen _ => hseen
    | false => exact fun hseen hself => hseen.add (fun heq => Bool.noConfusion (hself heq)) hsweep
  · exact h

/-- A run of calls keeps the keys that are held beyond its clock readings. -/
theorem held_cacheAfter {m : InsertionMap κ ℤ} {cs : List γ} (h : Held k t m)
    (hcs : ∀ c ∈ cs, g.hasNow c ≤ t ∧ g.sweepNow c ≤ t) : Held k t (g.cacheAfter m cs) := by
  induction cs generalizing m with
  | nil => exact h
  | cons c cs ih =>
    obtain ⟨hhas, hsweep⟩ := hcs c List.mem_cons_self
    rw [cacheAfter, Mealy.after_cons]
    exact ih (g.held_step h hhas hsweep) fun d hd => hcs d (List.mem_cons_of_mem c hd)

/-- **No key is admitted at two calls of a run** whose clock does not decrease, unless it has
expired when the second call asks for it. -/
theorem not_fresh_twice {m : InsertionMap κ ℤ} {cs : List γ} {i j : ℕ} {c₁ c₂ : γ} (hij : i < j)
    (hi : cs[i]? = some c₁) (hj : cs[j]? = some c₂)
    (hclock : cs.Pairwise fun c c' => g.hasNow c ≤ g.hasNow c' ∧ g.sweepNow c ≤ g.hasNow c')
    (hkey : g.key c₂ = g.key c₁) (hnow : g.hasNow c₂ ≤ g.addNow c₁ + g.ttl)
    (h₁ : (g.step (g.cacheAfter m (cs.take i)) c₁).1 = true) :
    (g.step (g.cacheAfter m (cs.take j)) c₂).1 = false := by
  have hheld := g.held_of_fresh h₁
  have hmid : ∀ c ∈ (cs.take j).drop (i + 1),
      g.hasNow c ≤ g.addNow c₁ + g.ttl ∧ g.sweepNow c ≤ g.addNow c₁ + g.ttl := by
    intro c hc
    obtain ⟨k, hk, rfl⟩ := List.mem_take_iff_getElem.1 (List.mem_of_mem_drop hc)
    obtain ⟨hjlt, rfl⟩ := List.getElem?_eq_some_iff.1 hj
    have hle := List.pairwise_iff_getElem.1 hclock k j (by omega) hjlt (by omega)
    omega
  have hafter : g.cacheAfter m (cs.take j) =
      g.cacheAfter (g.step (g.cacheAfter m (cs.take i)) c₁).2 ((cs.take j).drop (i + 1)) := by
    have hsplit := Mealy.take_eq_of_lt hij hi
    rw [cacheAfter, hsplit, Mealy.after_append, Mealy.after_cons, ← hsplit]
    rfl
  have hknown := (g.held_cacheAfter hheld hmid).has hnow
  rw [← hafter, ← hkey] at hknown
  by_contra hfresh
  have hunseen := (g.step_fst_iff.1 (Bool.not_eq_false _ ▸ hfresh)).2
  rw [hknown] at hunseen
  exact Bool.noConfusion hunseen

end Guard

end ExpiringCache
