import Mathlib.Data.List.DropRight
import Mathlib.Data.List.Induction
import Mathlib.Tactic.SplitIfs

/-!
# Sliding windows and hysteresis

Two patterns of a monitor over a stream of observations.

A sliding window of size `n` appends every observation and drops the oldest one once it holds more
than `n`: it always consists of the last `n` observations (`push_rtake`).

A switch with hysteresis turns on under a condition `enter` and, once on, stays on under a weaker
condition `maintain`, both read off the observations so far. It is on if and only if `enter` held
at some point and `maintain` has held ever since (`On`); `on_concat` is what one more observation
does to it.

What a window still says about the future is how many of its last `j` observations were misses, for
`j` below the size, and only up to the number that a condition tolerates (`missesIn`). Windows that
agree on this (`Alike`) agree on it after any further observations (`Alike.push`).

A count over a window moves by at most one with every observation (`countP_rtake_append_le`,
`countP_rtake_le_append`). So a switch that enters where a full window counts at least `high` and is
maintained down to `low` keeps its state for `high - low` observations after every change
(`changes_apart`).
-/

variable {α : Type*}

namespace SlidingWindow

/-- Append an observation, and drop the oldest one if there are more than `n`. -/
def push (n : ℕ) (w : List α) (a : α) : List α :=
  if (w ++ [a]).length > n then (w ++ [a]).tail else w ++ [a]

/-- The window of the last `n` observations stays that. -/
theorem push_rtake (n : ℕ) (l : List α) (a : α) : push n (l.rtake n) a = (l ++ [a]).rtake n := by
  unfold push List.rtake
  simp only [List.length_append, List.length_singleton, List.length_drop]
  by_cases h : n ≤ l.length
  · have hdrop : l.length + 1 - n = l.length - n + 1 := by omega
    rw [if_pos (by omega), hdrop, ← List.drop_append_of_le_length (by omega), List.tail_drop]
  · have hlen : l.length - n = 0 := by omega
    have hlen' : l.length + 1 - n = 0 := by omega
    rw [if_neg (by omega), hlen, hlen', List.drop_zero, List.drop_zero]

theorem length_rtake (n : ℕ) (l : List α) : (l.rtake n).length = min n l.length := by
  rw [List.rtake, List.length_drop]
  omega

/-- The last observations of a list whose end `l` is long enough are those of `l`. -/
theorem rtake_append_of_le {n : ℕ} {l : List α} (h : n ≤ l.length) (l' : List α) :
    (l' ++ l).rtake n = l.rtake n := by
  rw [List.rtake, List.rtake, List.length_append, List.drop_append,
    List.drop_eq_nil_of_le (by omega), List.nil_append]
  congr 1
  omega

theorem push_eq_rtake {n : ℕ} {w : List α} (h : w.length ≤ n) (a : α) :
    push n w a = (w ++ [a]).rtake n := by
  have hw : w.rtake n = w := by
    rw [List.rtake, Nat.sub_eq_zero_of_le h, List.drop_zero]
  calc push n w a = push n (w.rtake n) a := by rw [hw]
    _ = (w ++ [a]).rtake n := push_rtake n w a

theorem length_push_le {n : ℕ} {w : List α} (h : w.length ≤ n) (a : α) :
    (push n w a).length ≤ n := by
  rw [push_eq_rtake h, length_rtake]
  exact Nat.min_le_left n _

/-! ## Counts over a window -/

section Counts

variable {p : α → Bool} {n : ℕ}

theorem countP_rtake_le_succ (l : List α) : (l.rtake n).countP p ≤ (l.rtake (n + 1)).countP p := by
  refine List.Sublist.countP_le ?_
  have hsuffix : l.rtake n = (l.rtake (n + 1)).rtake n := by
    rw [List.rtake, List.rtake, List.rtake, List.drop_drop, List.length_drop]
    congr 1
    omega
  rw [hsuffix]
  exact List.drop_sublist _ _

theorem countP_rtake_succ_le (l : List α) :
    (l.rtake (n + 1)).countP p ≤ (l.rtake n).countP p + 1 := by
  unfold List.rtake
  rcases Nat.lt_or_ge n l.length with h | h
  · have hlt : l.length - (n + 1) < l.length := by omega
    have hsucc : l.length - (n + 1) + 1 = l.length - n := by omega
    rw [List.drop_eq_getElem_cons hlt, hsucc, List.countP_cons]
    split <;> omega
  · rw [Nat.sub_eq_zero_of_le h, Nat.sub_eq_zero_of_le (h.trans n.le_succ)]
    exact Nat.le_succ _

/-- With one more observation, the count over a window grows by at most one. -/
theorem countP_rtake_concat_le (l : List α) (a : α) :
    ((l ++ [a]).rtake n).countP p ≤ (l.rtake n).countP p + 1 := by
  cases n with
  | zero => simp
  | succ n =>
    have hle := countP_rtake_le_succ (p := p) (n := n) l
    have ha : [a].countP p ≤ 1 := List.countP_le_length
    rw [List.rtake_concat_succ, List.countP_append]
    omega

/-- And it falls by at most one. -/
theorem countP_rtake_le_concat (l : List α) (a : α) :
    (l.rtake n).countP p ≤ ((l ++ [a]).rtake n).countP p + 1 := by
  cases n with
  | zero => simp
  | succ n =>
    have hle := countP_rtake_succ_le (p := p) (n := n) l
    rw [List.rtake_concat_succ, List.countP_append]
    omega

/-- **Further observations** add at most their number to the count over a window, -/
theorem countP_rtake_append_le (l l' : List α) :
    ((l ++ l').rtake n).countP p ≤ (l.rtake n).countP p + l'.length := by
  induction l' using List.reverseRecOn with
  | nil => rw [List.append_nil, List.length_nil, Nat.add_zero]
  | append_singleton l' a ih =>
    have hstep := countP_rtake_concat_le (p := p) (n := n) (l ++ l') a
    rw [← List.append_assoc, List.length_append, List.length_singleton]
    omega

/-- and take at most their number from it. -/
theorem countP_rtake_le_append (l l' : List α) :
    (l.rtake n).countP p ≤ ((l ++ l').rtake n).countP p + l'.length := by
  induction l' using List.reverseRecOn with
  | nil => rw [List.append_nil, List.length_nil, Nat.add_zero]
  | append_singleton l' a ih =>
    have hstep := countP_rtake_le_concat (p := p) (n := n) (l ++ l') a
    rw [← List.append_assoc, List.length_append, List.length_singleton]
    omega

end Counts

/-! ## The misses of a window -/

section Misses

variable (miss : α → Bool)

/-- The misses among the last `j` observations, counted up to `b`; a window with fewer than `j`
observations counts as one with `b` misses. -/
def missesIn (b : ℕ) (w : List α) (j : ℕ) : ℕ :=
  if j ≤ w.length then min b ((w.rtake j).countP miss) else b

/-- The windows agree on the misses, up to `b`, among the observations that are still in a window
of size `n` after one more observation. -/
def Alike (n b : ℕ) (w w' : List α) : Prop :=
  ∀ j < n, missesIn miss b w j = missesIn miss b w' j

theorem missesIn_le (b : ℕ) (w : List α) (j : ℕ) : missesIn miss b w j ≤ b := by
  unfold missesIn
  split_ifs
  · exact Nat.min_le_left b _
  · exact le_rfl

/-- A smaller bound on the count. -/
theorem min_missesIn {b b' : ℕ} (h : b ≤ b') (w : List α) (j : ℕ) :
    min b (missesIn miss b' w j) = missesIn miss b w j := by
  unfold missesIn
  split_ifs <;> omega

variable {miss}

@[simp] theorem missesIn_zero (b : ℕ) (w : List α) : missesIn miss b w 0 = 0 := by
  simp [missesIn]

theorem missesIn_lt_iff {b : ℕ} {w : List α} {j : ℕ} :
    missesIn miss b w j < b ↔ j ≤ w.length ∧ (w.rtake j).countP miss < b := by
  unfold missesIn
  split_ifs with h
  · rw [and_iff_right h]
    omega
  · exact iff_of_false (lt_irrefl b) fun hc => h hc.1

theorem missesIn_rtake {n j : ℕ} (h : j ≤ n) (b : ℕ) (w : List α) :
    missesIn miss b (w.rtake n) j = missesIn miss b w j := by
  have hlen := length_rtake n w
  unfold missesIn
  by_cases hj : j ≤ w.length
  · have hdrop : (w.rtake n).rtake j = w.rtake j := by
      rw [List.rtake, hlen, List.rtake, List.rtake, List.drop_drop]
      congr 1
      omega
    rw [if_pos (by omega), if_pos hj, hdrop]
  · rw [if_neg (by omega), if_neg hj]

theorem missesIn_concat (b : ℕ) (w : List α) (a : α) (j : ℕ) :
    missesIn miss b (w ++ [a]) (j + 1) = min b (missesIn miss b w j + (miss a).toNat) := by
  unfold missesIn
  rw [List.rtake_concat_succ, List.countP_append, List.countP_singleton, List.length_append,
    List.length_singleton]
  by_cases hj : j ≤ w.length
  · rw [if_pos (by omega), if_pos hj]
    cases miss a with
    | false => simp
    | true =>
      simp only [if_true, Bool.toNat_true]
      omega
  · rw [if_neg (by omega), if_neg hj]
    omega

variable (miss) in
/-- More observations contain at least as many misses. -/
theorem missesIn_mono (b : ℕ) (w : List α) {j k : ℕ} (h : j ≤ k) :
    missesIn miss b w j ≤ missesIn miss b w k := by
  induction w using List.reverseRecOn generalizing j k with
  | nil =>
    unfold missesIn
    rcases Nat.eq_zero_or_pos k with rfl | hk
    · rw [Nat.le_zero.1 h]
    · rw [if_neg (show ¬ k ≤ ([] : List α).length by simpa using hk.ne')]
      exact missesIn_le miss b [] j
  | append_singleton w a ih =>
    cases j with
    | zero => simp
    | succ j =>
      obtain ⟨k, rfl⟩ : ∃ i, k = i + 1 := ⟨k - 1, by omega⟩
      have hjk := ih (Nat.le_of_succ_le_succ h)
      rw [missesIn_concat, missesIn_concat]
      omega

/-- **One more observation** is added to the count, whatever it drops. -/
theorem missesIn_push {n b j : ℕ} {w : List α} (hw : w.length ≤ n) (hj : j < n) (a : α) :
    missesIn miss b (push n w a) (j + 1) = min b (missesIn miss b w j + (miss a).toNat) := by
  rw [push_eq_rtake hw, missesIn_rtake hj, missesIn_concat]

/-- Windows that agree keep agreeing. -/
theorem Alike.push {n b : ℕ} {w w' : List α} (h : Alike miss n b w w') (hw : w.length ≤ n)
    (hw' : w'.length ≤ n) (a : α) : Alike miss n b (push n w a) (SlidingWindow.push n w' a) := by
  intro j hj
  cases j with
  | zero => simp
  | succ j => rw [missesIn_push hw (by omega), missesIn_push hw' (by omega), h j (by omega)]

/-- A smaller bound on the counts sees less. -/
theorem Alike.of_le {n b b' : ℕ} {w w' : List α} (h : Alike miss n b' w w') (hb : b ≤ b') :
    Alike miss n b w w' := by
  intro j hj
  rw [← min_missesIn miss hb, h j hj, min_missesIn miss hb]

/-- With at most `b` misses in the whole windows a larger bound sees no more. -/
theorem Alike.of_lt {n b b' : ℕ} {w w' : List α} (h : Alike miss n b w w')
    (hw : missesIn miss b w n < b) (hw' : missesIn miss b w' n < b) (hb : b ≤ b') :
    Alike miss n b' w w' := by
  have hcount : ∀ {v : List α}, missesIn miss b v n < b → ∀ j < n,
      missesIn miss b' v j = missesIn miss b v j := by
    intro v hv j hj
    have hlt := lt_of_le_of_lt (missesIn_mono miss b v hj.le) hv
    have hmin := min_missesIn miss hb v j
    omega
  intro j hj
  rw [hcount hw j hj, hcount hw' j hj, h j hj]

end Misses

end SlidingWindow

namespace Hysteresis

variable {enter maintain : List α → Prop}

/-- `enter` held after some of the observations, and `maintain` after all of them since. -/
def On (enter maintain : List α → Prop) (l : List α) : Prop :=
  ∃ k ≤ l.length, enter (l.take k) ∧ ∀ j, k ≤ j → j ≤ l.length → maintain (l.take j)

theorem not_on_nil (h : ¬ enter []) : ¬ On enter maintain [] := by
  rintro ⟨k, -, hk, -⟩
  rw [List.take_nil] at hk
  exact h hk

/-- The condition of a switch that is on holds now. -/
theorem On.maintained {l : List α} (h : On enter maintain l) : maintain l := by
  obtain ⟨k, hk, -, hall⟩ := h
  have hl := hall l.length hk le_rfl
  rwa [List.take_length] at hl

/-- **One more observation**: the switch is on if it enters now, or was on and is maintained. -/
theorem on_concat (hem : ∀ l, enter l → maintain l) (l : List α) (a : α) :
    On enter maintain (l ++ [a]) ↔
      enter (l ++ [a]) ∨ On enter maintain l ∧ maintain (l ++ [a]) := by
  have hlen : (l ++ [a]).length = l.length + 1 := by rw [List.length_append, List.length_singleton]
  have hfull : (l ++ [a]).take (l.length + 1) = l ++ [a] := by rw [← hlen, List.take_length]
  constructor
  · rintro ⟨k, hk, henter, hall⟩
    rw [hlen] at hk hall
    rcases Nat.lt_or_ge l.length k with hlt | hle
    · -- the switch enters with the last observation
      rw [show k = l.length + 1 by omega, hfull] at henter
      exact Or.inl henter
    · rw [List.take_append_of_le_length hle] at henter
      refine Or.inr ⟨⟨k, hle, henter, fun j hkj hj => ?_⟩, ?_⟩
      · have htake : (l ++ [a]).take j = l.take j := List.take_append_of_le_length hj
        exact htake ▸ hall j hkj (by omega)
      · have hlast := hall (l.length + 1) (by omega) le_rfl
        rwa [hfull] at hlast
  · rintro (henter | ⟨⟨k, hk, henter, hall⟩, hlast⟩)
    · refine ⟨l.length + 1, hlen.ge, by rwa [hfull], fun j hj hj' => ?_⟩
      rw [show j = l.length + 1 by omega, hfull]
      exact hem _ henter
    · refine ⟨k, by omega, by rwa [List.take_append_of_le_length hk], fun j hkj hj => ?_⟩
      rcases Nat.lt_or_ge l.length j with hlt | hle
      · rw [show j = l.length + 1 by omega, hfull]
        exact hlast
      · rw [List.take_append_of_le_length hle]
        exact hall j hkj hle

/-! ## Two thresholds on one window -/

section Thresholds

variable {p : α → Bool} {n low high : ℕ}

/-- A full window whose count is at least a threshold. -/
def Reaches (p : α → Bool) (n threshold : ℕ) (l : List α) : Prop :=
  n ≤ l.length ∧ threshold ≤ (l.rtake n).countP p

theorem Reaches.mono (hle : low ≤ high) (l : List α) (h : Reaches p n high l) : Reaches p n low l :=
  ⟨h.1, hle.trans h.2⟩

/-- A switch that enters stays on while the count cannot have fallen below the lower threshold. -/
theorem on_append_of_reaches (hle : low ≤ high) {l l' : List α} (h : Reaches p n high l)
    (hl' : l'.length ≤ high - low) : On (Reaches p n high) (Reaches p n low) (l ++ l') := by
  induction l' using List.reverseRecOn with
  | nil =>
    refine ⟨l.length, by simp, by simpa using h, fun j hj hj' => ?_⟩
    rw [List.append_nil] at hj' ⊢
    rw [List.take_of_length_le hj]
    exact h.mono hle l
  | append_singleton l' a ih =>
    have hcount := SlidingWindow.countP_rtake_le_append (p := p) (n := n) l (l' ++ [a])
    have hthreshold := h.2
    rw [List.length_append, List.length_singleton] at hl' hcount
    rw [← List.append_assoc] at hcount ⊢
    refine (on_concat (Reaches.mono hle) (l ++ l') a).2 (Or.inr ⟨ih (by omega), ?_, ?_⟩)
    · have hfull := h.1
      rw [List.length_append, List.length_append]
      omega
    · omega

/-- One that falls below the lower threshold stays off while the count cannot have reached the
higher one. -/
theorem not_on_append_of_not_reaches (hle : low ≤ high) {l l' : List α}
    (hcount : (l.rtake n).countP p < low) (hoff : ¬ On (Reaches p n high) (Reaches p n low) l)
    (hl' : l'.length ≤ high - low) : ¬ On (Reaches p n high) (Reaches p n low) (l ++ l') := by
  induction l' using List.reverseRecOn with
  | nil => rwa [List.append_nil]
  | append_singleton l' a ih =>
    have hle' := SlidingWindow.countP_rtake_append_le (p := p) (n := n) l (l' ++ [a])
    rw [List.length_append, List.length_singleton] at hl' hle'
    rw [← List.append_assoc] at hle' ⊢
    rw [on_concat (Reaches.mono hle)]
    rintro (henter | ⟨hon, -⟩)
    · have hthreshold := henter.2
      omega
    · exact ih (by omega) hon

/-- **After a change** the switch keeps its state for as many observations as the thresholds are
apart. -/
theorem on_append_iff_of_change (hle : low ≤ high) {l l' : List α} {a : α}
    (hchange : ¬ (On (Reaches p n high) (Reaches p n low) (l ++ [a]) ↔
      On (Reaches p n high) (Reaches p n low) l)) (hl' : l'.length ≤ high - low) :
    On (Reaches p n high) (Reaches p n low) (l ++ [a] ++ l') ↔
      On (Reaches p n high) (Reaches p n low) (l ++ [a]) := by
  have hconcat := on_concat (Reaches.mono (p := p) (n := n) hle) l a
  by_cases hon : On (Reaches p n high) (Reaches p n low) l
  · -- the switch has gone off: the window is still full, and its count is too low
    have hoff : ¬ On (Reaches p n high) (Reaches p n low) (l ++ [a]) :=
      fun h => hchange (iff_of_true h hon)
    have hcount : ((l ++ [a]).rtake n).countP p < low := by
      by_contra hcount
      refine hoff (hconcat.2 (Or.inr ⟨hon, ?_, not_lt.1 hcount⟩))
      rw [List.length_append]
      exact Nat.le_add_right_of_le hon.maintained.1
    exact iff_of_false (not_on_append_of_not_reaches hle hcount hoff hl') hoff
  · have hnow : On (Reaches p n high) (Reaches p n low) (l ++ [a]) := by
      by_contra hoff
      exact hchange (iff_of_false hoff hon)
    have henter : Reaches p n high (l ++ [a]) := (hconcat.1 hnow).resolve_right fun h => hon h.1
    exact iff_of_true (on_append_of_reaches hle henter hl') hnow

/-- **Changes are apart**: between two changes of the switch there are at least as many observations
as the thresholds are apart. -/
theorem changes_apart (hle : low ≤ high) {l : List α} {i j : ℕ} (hij : i < j)
    (hi : ¬ (On (Reaches p n high) (Reaches p n low) (l.take (i + 1)) ↔
      On (Reaches p n high) (Reaches p n low) (l.take i)))
    (hj : ¬ (On (Reaches p n high) (Reaches p n low) (l.take (j + 1)) ↔
      On (Reaches p n high) (Reaches p n low) (l.take j))) : i + (high - low) < j := by
  by_contra hclose
  have hlt : i < l.length := by
    by_contra hge
    refine hi ?_
    rw [List.take_of_length_le (by omega), List.take_of_length_le (by omega)]
  have hkept : ∀ k, i < k → k ≤ j + 1 → (On (Reaches p n high) (Reaches p n low) (l.take k) ↔
      On (Reaches p n high) (Reaches p n low) (l.take (i + 1))) := by
    intro k hik hkj
    have hsplit : l.take k = l.take i ++ [l[i]] ++ (l.take k).drop (i + 1) := by
      rw [← List.take_succ_eq_append_getElem hlt]
      have htake : (l.take k).take (i + 1) = l.take (i + 1) := by
        rw [List.take_take, Nat.min_eq_left hik]
      rw [← htake, List.take_append_drop]
    rw [List.take_succ_eq_append_getElem hlt] at hi ⊢
    rw [hsplit]
    refine on_append_iff_of_change hle hi ?_
    rw [List.length_drop, List.length_take]
    omega
  exact hj ((hkept (j + 1) (by omega) le_rfl).trans (hkept j hij (by omega)).symm)

end Thresholds

end Hysteresis
