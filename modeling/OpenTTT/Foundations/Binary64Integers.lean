import OpenTTT.Foundations.Binary64

/-!
# Integers among the double-precision numbers

The integers below `2 ^ 53` in absolute value are doubles, and so are their halves. A sum or a
difference of two of them need not be, but it lies below `2 ^ 54`, where every even integer is a
double (`round_intCast`). So the rounded mean of two lies between them (`mean_between`), and a
difference is below a bound if the rounded one is (`exists_sub_abs`). `largest_lt_iff` is about the
greatest number of a list.
-/

namespace Binary64

/-- The integers below `2 ^ 53`, divided by a power of two. -/
theorem round_intCast_div {z : ℤ} (hz : z.natAbs < 2 ^ 53) {k : ℕ} (hk : k ≤ 1074) :
    round ((z : ℚ) / 2 ^ k) = finite ((z : ℚ) / 2 ^ k) := by
  obtain ⟨n, rfl | rfl⟩ := z.eq_nat_or_neg
  · rw [Int.natAbs_natCast] at hz
    exact round_dyadic hz hk
  · rw [Int.natAbs_neg, Int.natAbs_natCast] at hz
    rw [Int.cast_neg, neg_div, round_neg, Int.cast_natCast, round_dyadic hz hk, neg]

theorem ofInt_eq {z : ℤ} (hz : z.natAbs < 2 ^ 53) : ofInt z = finite z := by
  have h := round_intCast_div hz (Nat.zero_le 1074)
  rwa [pow_zero, div_one] at h

theorem quantum_natCast {n : ℕ} (hlo : 2 ^ 53 ≤ n) (hhi : n < 2 ^ 54) : quantum n = 2 := by
  have hpos : (0 : ℚ) < n := by
    have hn : 0 < n := by omega
    exact_mod_cast hn
  have hlog : Int.log 2 (n : ℚ) = 53 := by
    apply le_antisymm
    · have hlt : Int.log 2 (n : ℚ) < 54 := by
        rw [← Int.lt_zpow_iff_log_lt one_lt_two hpos]
        exact_mod_cast hhi
      omega
    · rw [← Int.zpow_le_iff_le_log one_lt_two hpos]
      exact_mod_cast hlo
  rw [quantum_eq hpos, hlog]
  norm_num

/-- **The integers below `2 ^ 54`** are doubles, or they are rounded to an even neighbour. -/
theorem round_intCast {z : ℤ} (hz : z.natAbs < 2 ^ 54) :
    ∃ r : ℤ, round z = finite r ∧ z - 1 ≤ r ∧ r ≤ z + 1 ∧
      (z.natAbs < 2 ^ 53 ∧ r = z ∨ 2 ^ 53 ≤ z.natAbs ∧ 2 ∣ r) := by
  rcases lt_or_ge z.natAbs (2 ^ 53) with hsmall | hbig
  · exact ⟨z, ofInt_eq hsmall, by omega, by omega, Or.inl ⟨hsmall, rfl⟩⟩
  have hquantum : quantum z = 2 := by
    obtain ⟨n, rfl | rfl⟩ := z.eq_nat_or_neg
    · exact quantum_natCast (by omega) (by omega)
    · rw [Int.cast_neg, quantum_neg]
      exact quantum_natCast (by omega) (by omega)
  have hfinite : |(z : ℚ)| < 2 ^ 1022 := by
    have hcast : |(z : ℚ)| < 2 ^ 54 := by
      rw [← Int.cast_abs, Int.abs_eq_natAbs]
      exact_mod_cast hz
    exact hcast.trans_le (pow_le_pow_right₀ one_le_two (by omega))
  have hhalf := abs_roundHalfEven_sub_le ((z : ℚ) / 2)
  rw [abs_le] at hhalf
  have hround : round z = finite (2 * roundHalfEven ((z : ℚ) / 2) : ℤ) := by
    rw [round_of_lt hfinite, roundFinite, hquantum, mul_comm]
    push_cast
    rfl
  refine ⟨_, hround, ?_, ?_, Or.inr ⟨hbig, Dvd.intro _ rfl⟩⟩
  · have hlo : (z : ℚ) - 1 ≤ 2 * roundHalfEven ((z : ℚ) / 2) := by linarith
    exact_mod_cast hlo
  · have hhi : (2 * roundHalfEven ((z : ℚ) / 2) : ℚ) ≤ z + 1 := by linarith
    exact_mod_cast hhi

/-! ## Means and differences -/

/-- The nearest integer to half of an integer. -/
theorem roundHalfUp_half (z : ℤ) :
    roundHalfUp (finite ((z : ℚ) / 2)) = finite ((z + 1) / 2 : ℤ) := by
  have hfloor : ⌊(z : ℚ) / 2 + 1 / 2⌋ = (z + 1) / 2 := by
    have hsum : (z : ℚ) / 2 + 1 / 2 = ((z + 1 : ℤ) : ℚ) / (2 : ℕ) := by
      push_cast
      ring
    rw [hsum, Rat.floor_intCast_div_natCast]
    rfl
  rw [roundHalfUp, hfloor]

/-- **The rounded mean of two integers lies between them.** -/
theorem mean_between {a b : ℤ} (ha : a.natAbs < 2 ^ 53) (hb : b.natAbs < 2 ^ 53) (hab : a ≤ b) :
    ∃ m : ℤ, (((ofInt a).add (ofInt b)).div (finite 2)).roundHalfUp = finite m ∧ a ≤ m ∧ m ≤ b := by
  obtain ⟨r, hr, hlo, hhi, hcase⟩ := round_intCast (by omega : (a + b).natAbs < 2 ^ 54)
  have hadd : (ofInt a).add (ofInt b) = finite r := by
    rw [ofInt_eq ha, ofInt_eq hb, add, ← Int.cast_add, hr]
  have hdiv : (finite r).div (finite 2) = round ((r : ℚ) / 2 ^ 1) := by
    rw [div, if_neg two_ne_zero, pow_one]
  rw [hadd, hdiv]
  rcases hcase with ⟨hsmall, rfl⟩ | ⟨-, m, rfl⟩
  · refine ⟨(a + b + 1) / 2, ?_, by omega, by omega⟩
    rw [round_intCast_div hsmall (by omega), pow_one, roundHalfUp_half]
  · refine ⟨m, ?_, by omega, by omega⟩
    have hhalf : ((2 * m : ℤ) : ℚ) / 2 ^ 1 = m := by
      push_cast
      ring
    have hround := ofInt_eq (by omega : m.natAbs < 2 ^ 53)
    rw [ofInt] at hround
    have hfloor : ⌊(m : ℚ) + 1 / 2⌋ = m := by
      rw [Int.floor_intCast_add]
      norm_num
    rw [hhalf, hround, roundHalfUp, hfloor]

/-- A difference of two integers is below a bound if the rounded difference is. -/
theorem exists_sub_abs {a b : ℤ} (ha : a.natAbs < 2 ^ 53) (hb : b.natAbs < 2 ^ 53) :
    ∃ d : ℤ, ((ofInt a).sub (ofInt b)).abs = finite d ∧
      ∀ c : ℤ, c < 2 ^ 53 → (d < c ↔ |a - b| < c) := by
  obtain ⟨r, hr, hlo, hhi, hcase⟩ := round_intCast (by omega : (a + -b).natAbs < 2 ^ 54)
  refine ⟨|r|, ?_, fun c hc => ?_⟩
  · rw [ofInt_eq ha, ofInt_eq hb, sub, neg, add, ← Int.cast_neg, ← Int.cast_add, hr, abs,
      Int.cast_abs]
  · rw [Int.abs_eq_natAbs, Int.abs_eq_natAbs]
    omega

/-! ## The greatest of a list -/

/-- The larger of a number and the largest so far. -/
def larger (largest t : Binary64) : Binary64 := if largest.lt t then t else largest

/-- The larger of a finite number and the largest so far, where there may be none so far. -/
theorem larger_lt_iff {largest : Binary64} (h : largest = infinity true ∨ ∃ p, largest = finite p)
    (q c : ℚ) : (larger largest (finite q)).lt (finite c) = true ↔
      largest.lt (finite c) = true ∧ q < c := by
  unfold larger
  rcases h with rfl | ⟨p, rfl⟩
  · simp [lt]
  · have hlt (x y : ℚ) : (finite x).lt (finite y) = true ↔ x < y := decide_eq_true_iff
    by_cases hpq : p < q
    · rw [if_pos ((hlt p q).2 hpq), hlt, hlt]
      exact ⟨fun h => ⟨hpq.trans h, h⟩, fun h => h.2⟩
    · rw [if_neg (mt (hlt p q).1 hpq), hlt]
      exact ⟨fun h => ⟨h, (not_lt.1 hpq).trans_lt h⟩, fun h => h.1⟩

/-- **The greatest of a list** is below a bound if all of it is. -/
theorem largest_lt_iff {qs : List ℚ} {largest : Binary64}
    (h : largest = infinity true ∨ ∃ p, largest = finite p) (c : ℚ) :
    ((qs.map finite).foldl larger largest).lt (finite c) = true ↔
      largest.lt (finite c) = true ∧ ∀ q ∈ qs, q < c := by
  induction qs generalizing largest with
  | nil => simp
  | cons q qs ih =>
    have hnext : larger largest (finite q) = infinity true ∨
        ∃ p, larger largest (finite q) = finite p := by
      unfold larger
      split
      · exact Or.inr ⟨q, rfl⟩
      · exact h
    rw [List.map_cons, List.foldl_cons, ih hnext, larger_lt_iff h, List.forall_mem_cons, and_assoc]

end Binary64
