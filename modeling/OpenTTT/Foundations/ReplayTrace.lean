import OpenTTT.Foundations.ReplayCache

/-!
# What a call leaves behind in a replay cache

A verifier behind a replay cache (`Guard.verify`) returns what the call and the freshness of its
key determine. A call has no effect on later ones if their results are the same with and without
it. This is a matter of what its query leaves in the cache: a recorded key is no longer fresh, and
a swept key is fresh again.

`Guard.outputs_step_iff` is the answer for later calls at any times: a call without effect does not
get to the cache, or finds its key there with nothing to sweep. `Guard.outputs_step_iff_forward` is
the answer for later calls at later times: the sweep does no harm if the cache is still more than
half full after it, since the next query sweeps again.
-/

namespace ReplayCache

variable {κ : Type*} [DecidableEq κ] {capacity : ℕ} {ttl now : ℤ} {m : InsertionMap κ ℤ}

/-- The cache in which a query looks for its key. -/
def live (capacity : ℕ) (ttl now : ℤ) (m : InsertionMap κ ℤ) : InsertionMap κ ℤ :=
  if m.size > capacity / 2 then sweep ttl now m else m

theorem mem_entries_live {e : κ × ℤ} : e ∈ (live capacity ttl now m).entries ↔
    e ∈ m.entries ∧ (m.size > capacity / 2 → now - e.2 ≤ ttl) := by
  unfold live
  split
  · rename_i hsize
    rw [entries_sweep, List.mem_filter]
    simp [hsize]
  · rename_i hsize
    simp [hsize]

/-- A query whose key is known leaves the cache that it has looked in. -/
theorem query_of_known {k : κ} (h : k ∈ (live capacity ttl now m).keys) :
    query capacity ttl m now k = (false, live capacity ttl now m) := by
  have hhas : (live capacity ttl now m).has k = true := InsertionMap.has_iff.2 h
  unfold live at hhas ⊢
  simp only [query, hhas, if_true]

theorem query_fst_live (k : κ) :
    (query capacity ttl m now k).1 = true ↔ k ∉ (live capacity ttl now m).keys := by
  rw [query_fst, Bool.not_eq_true', ← Bool.not_eq_true, InsertionMap.has_iff, live]

/-- A query depends on the cache that it looks in only. -/
theorem query_congr {m' : InsertionMap κ ℤ}
    (h : live capacity ttl now m = live capacity ttl now m') (k : κ) :
    query capacity ttl m now k = query capacity ttl m' now k := by
  unfold live at h
  simp only [query, h]

/-- A later sweep makes up for an earlier one. -/
theorem sweep_sweep {now' : ℤ} (h : now ≤ now') (m : InsertionMap κ ℤ) :
    sweep ttl now' (sweep ttl now m) = sweep ttl now' m := by
  refine InsertionMap.ext ?_
  rw [entries_sweep, entries_sweep, entries_sweep, List.filter_filter]
  refine List.filter_congr fun e _ => ?_
  have himp : ¬ now' - e.2 > ttl → ¬ now - e.2 > ttl := by omega
  by_cases hnow' : now' - e.2 > ttl <;> simp [hnow', himp]

theorem live_live {now' : ℤ} (h : now ≤ now')
    (hsize : capacity / 2 < (live capacity ttl now m).size) :
    live capacity ttl now' (live capacity ttl now m) = live capacity ttl now' m := by
  by_cases hm : m.size > capacity / 2
  · have hlive : live capacity ttl now m = sweep ttl now m := if_pos hm
    rw [hlive] at hsize ⊢
    rw [live, if_pos hsize, live, if_pos hm, sweep_sweep h]
  · have hlive : live capacity ttl now m = m := if_neg hm
    rw [hlive]

/-! ## Telling caches apart -/

/-- A recorded key is not fresh when it is asked for again. -/
theorem query_again {k : κ} (httl : 0 ≤ ttl) (h : (query capacity ttl m now k).1 = true) :
    (query capacity ttl (query capacity ttl m now k).2 now k).1 = false :=
  (retained_of_query h).not_fresh (by omega)

/-- Where something has been swept there is a key that is known to a query at the time of its
record, and fresh after the sweep. -/
theorem exists_swept (h : live capacity ttl now m ≠ m) :
    m.size > capacity / 2 ∧ ∃ e ∈ m.entries, now - e.2 > ttl := by
  by_contra hnot
  refine h (InsertionMap.ext ?_)
  unfold live
  split
  · rename_i hsize
    rw [sweep_eq_self fun e he => not_lt.1 fun hexp => hnot ⟨hsize, e, he, hexp⟩]
  · rfl

theorem query_of_swept {e : κ × ℤ} (httl : 0 ≤ ttl) (hsize : m.size > capacity / 2)
    (he : e ∈ m.entries) (hexp : now - e.2 > ttl) :
    (query capacity ttl m e.2 e.1).1 = false ∧
      (query capacity ttl (live capacity ttl now m) e.2 e.1).1 = true := by
  constructor
  · by_contra hfresh
    rw [Bool.not_eq_false] at hfresh
    have hold := ((query_fresh_iff_of_mem he).1 hfresh).2
    omega
  · refine query_fresh_of_notMem fun hmem => ?_
    obtain ⟨e', he', hkey⟩ := List.mem_map.1 hmem
    rw [mem_entries_live] at he'
    have heq : e' = e := InsertionMap.eq_of_fst_eq he'.1 he hkey
    have hkept := he'.2 hsize
    rw [heq] at hkept
    omega

/-- A key that survives a sweep of more than half of the cache is fresh without the sweep once it
has expired, and known after it. -/
theorem query_of_kept {k : κ} (hk : k ∈ (live capacity ttl now m).keys)
    (hne : live capacity ttl now m ≠ m) (hsize : (live capacity ttl now m).size ≤ capacity / 2) :
    ∃ t, now ≤ t ∧ (query capacity ttl m t k).1 = true ∧
      (query capacity ttl (live capacity ttl now m) t k).1 = false := by
  obtain ⟨e, he, rfl⟩ := List.mem_map.1 hk
  have hm := (mem_entries_live.1 he).1
  refine ⟨max now (e.2 + ttl + 1), le_max_left _ _, ?_, ?_⟩
  · refine (query_fresh_iff_of_mem hm).2 ⟨(exists_swept hne).1, ?_⟩
    have hle := le_max_right now (e.2 + ttl + 1)
    omega
  · by_contra hfresh
    rw [Bool.not_eq_false] at hfresh
    have hlarge := ((query_fresh_iff_of_mem he).1 hfresh).1
    omega

/-! ## Calls without effect -/

namespace Guard

variable {γ ρ : Type*} (g : Guard κ γ) (result : γ → Bool → ρ)

/-- A verifier behind a replay cache: the call and the freshness of its key determine the
result. -/
def verify (m : InsertionMap κ ℤ) (c : γ) : ρ × InsertionMap κ ℤ :=
  (result c (g.step m c).1, (g.step m c).2)

/-- Calls for every key and time that get to the cache and tell whether the key is fresh. -/
structure Probes (probe : κ → ℤ → γ) : Prop where
  passes : ∀ k t, g.passes (probe k t) = true
  key : ∀ k t, g.key (probe k t) = k
  now : ∀ k t, g.now (probe k t) = t
  tells : ∀ k t, result (probe k t) true ≠ result (probe k t) false

/-- A call does not get to the cache, or finds its key there with nothing to sweep. -/
def Traceless (m : InsertionMap κ ℤ) (c : γ) : Prop :=
  g.passes c = true → g.key c ∈ (live g.capacity g.ttl (g.now c) m).keys ∧
    live g.capacity g.ttl (g.now c) m = m

/-- A call does not get to the cache, or finds its key there with nothing to sweep, or with more
than half of the cache left after the sweep. -/
def TracelessForward (m : InsertionMap κ ℤ) (c : γ) : Prop :=
  g.passes c = true → g.key c ∈ (live g.capacity g.ttl (g.now c) m).keys ∧
    (live g.capacity g.ttl (g.now c) m = m ∨
      g.capacity / 2 < (live g.capacity g.ttl (g.now c) m).size)

variable {g result} {probe : κ → ℤ → γ}

/-- Caches with the same results for a probe agree on the freshness of its key. -/
theorem Probes.fresh_eq (h : g.Probes result probe) {m m' : InsertionMap κ ℤ} {k : κ} {t : ℤ}
    (hout : Mealy.outputs (g.verify result) m [probe k t] =
      Mealy.outputs (g.verify result) m' [probe k t]) :
    (query g.capacity g.ttl m t k).1 = (query g.capacity g.ttl m' t k).1 := by
  simp only [Mealy.outputs, verify, g.step_of_passes (h.passes k t), h.key, h.now,
    List.cons.injEq, and_true] at hout
  have htells := h.tells k t
  revert hout
  cases (query g.capacity g.ttl m t k).1 with
  | true =>
    cases (query g.capacity g.ttl m' t k).1 with
    | true => exact fun _ => rfl
    | false => exact fun heq => absurd heq htells
  | false =>
    cases (query g.capacity g.ttl m' t k).1 with
    | true => exact fun heq => absurd heq.symm htells
    | false => exact fun _ => rfl

/-- **Calls without effect on later calls at any times.** -/
theorem Probes.outputs_step_iff (h : g.Probes result probe) (httl : 0 ≤ g.ttl)
    (m : InsertionMap κ ℤ) (c : γ) :
    (∀ cs, Mealy.outputs (g.verify result) (g.step m c).2 cs =
      Mealy.outputs (g.verify result) m cs) ↔ g.Traceless m c := by
  constructor
  · intro hout hpass
    rw [g.step_of_passes hpass] at hout
    by_cases hknown : g.key c ∈ (live g.capacity g.ttl (g.now c) m).keys
    · refine ⟨hknown, ?_⟩
      by_contra hne
      rw [query_of_known hknown] at hout
      obtain ⟨hsize, e, he, hexp⟩ := exists_swept hne
      obtain ⟨hstale, hfresh⟩ := query_of_swept httl hsize he hexp
      rw [h.fresh_eq (hout _), hstale] at hfresh
      exact Bool.false_ne_true hfresh
    · have hfresh := (query_fst_live (g.key c)).2 hknown
      have hagain := query_again httl hfresh
      rw [h.fresh_eq (hout _), hfresh] at hagain
      exact Bool.noConfusion hagain
  · intro htrace cs
    by_cases hpass : g.passes c = true
    · obtain ⟨hknown, hlive⟩ := htrace hpass
      rw [g.step_of_passes hpass, query_of_known hknown, hlive]
    · rw [g.step_of_not_passes hpass]

/-- The sweep of a cache that stays more than half full does not matter to later calls. -/
theorem outputs_live {t : ℤ} {cs : List γ} (hnow : ∀ d ∈ cs, t ≤ g.now d)
    (hsize : g.capacity / 2 < (live g.capacity g.ttl t m).size) :
    Mealy.outputs (g.verify result) (live g.capacity g.ttl t m) cs =
      Mealy.outputs (g.verify result) m cs := by
  induction cs with
  | nil => rfl
  | cons d cs ih =>
    have ih' := ih fun d' hd' => hnow d' (List.mem_cons_of_mem d hd')
    rw [Mealy.outputs, Mealy.outputs]
    by_cases hpass : g.passes d = true
    · have hstep : g.step (live g.capacity g.ttl t m) d = g.step m d := by
        rw [g.step_of_passes hpass, g.step_of_passes hpass]
        exact query_congr (live_live (hnow d List.mem_cons_self) hsize) _
      simp only [verify, hstep]
    · simp only [verify, g.step_of_not_passes hpass]
      exact congrArg _ ih'

/-- **Calls without effect on later calls at later times**, `later` being the runs of such calls
that are considered. -/
theorem Probes.outputs_step_iff_forward (h : g.Probes result probe) (httl : 0 ≤ g.ttl)
    (m : InsertionMap κ ℤ) (c : γ) {later : List γ → Prop}
    (hprobe : ∀ k t, g.now c ≤ t → later [probe k t])
    (hlater : ∀ cs, later cs → ∀ d ∈ cs, g.now c ≤ g.now d) :
    (∀ cs, later cs → Mealy.outputs (g.verify result) (g.step m c).2 cs =
      Mealy.outputs (g.verify result) m cs) ↔ g.TracelessForward m c := by
  constructor
  · intro hout hpass
    rw [g.step_of_passes hpass] at hout
    by_cases hknown : g.key c ∈ (live g.capacity g.ttl (g.now c) m).keys
    · refine ⟨hknown, ?_⟩
      by_contra hnot
      rw [not_or, not_lt] at hnot
      rw [query_of_known hknown] at hout
      obtain ⟨t, ht, hfresh, hstale⟩ := query_of_kept hknown hnot.1 hnot.2
      rw [h.fresh_eq (hout _ (hprobe _ t ht)), hfresh] at hstale
      exact Bool.noConfusion hstale
    · have hfresh := (query_fst_live (g.key c)).2 hknown
      have hagain := query_again httl hfresh
      rw [h.fresh_eq (hout _ (hprobe _ _ le_rfl)), hfresh] at hagain
      exact Bool.noConfusion hagain
  · intro htrace cs hcs
    by_cases hpass : g.passes c = true
    · obtain ⟨hknown, hlive | hlive⟩ := htrace hpass
      · rw [g.step_of_passes hpass, query_of_known hknown, hlive]
      · rw [g.step_of_passes hpass, query_of_known hknown]
        exact outputs_live (hlater cs hcs) hlive
    · rw [g.step_of_not_passes hpass]

end Guard

end ReplayCache
