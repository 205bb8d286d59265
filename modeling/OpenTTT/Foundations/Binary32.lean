import OpenTTT.Foundations.Binary64

/-!
# Single-precision numbers

The numbers of IEEE 754 binary32 among the doubles, and the words that stand for them. `round`
takes a double to the nearest single; `word` is the word of a single, and `ofWord` the number of a
word. `ofWord_word` says that a single is got back from its word.

As in the doubles, the sign of a zero is not kept.
-/

namespace Binary32

/-! ## Rounding -/

/-- The exponent of a number without sign: that of its first bit, and never below that of the
normal numbers. -/
def exponent (x : ℚ) : ℤ := if x = 0 then -126 else max (-126) (Int.log 2 x)

/-- The value of the last place of a single near `x`. -/
def quantum (x : ℚ) : ℚ := 2 ^ (exponent |x| - 23)

/-- `x` on the grid of its quantum. -/
def roundFinite (x : ℚ) : ℚ := Binary64.roundHalfEven (x / quantum x) * quantum x

/-- The single nearest to a double; an infinity from `2 ^ 128` on. -/
def round : Binary64 → Binary64
  | .finite q =>
    if |roundFinite q| < 2 ^ 128 then .finite (roundFinite q) else .infinity (decide (q < 0))
  | x => x

/-! ## Words -/

/-- The word of a number without sign. The first bit of a normal number is not written: it counts
as one more in the exponent. -/
def magnitude (x : ℚ) : ℕ := (exponent x + 126).toNat * 2 ^ 23 + ⌊x / 2 ^ (exponent x - 23)⌋.toNat

/-- The word of a single. -/
def word : Binary64 → ℕ
  | .finite q => (if q < 0 then 2 ^ 31 else 0) + magnitude |q|
  | .infinity negative => (if negative then 2 ^ 31 else 0) + 0xff * 2 ^ 23
  | .nan => 0x7fc00000

/-- The number of a word without sign. -/
def ofMagnitude (w : ℕ) : Binary64 :=
  if w / 2 ^ 23 = 0xff then (if w % 2 ^ 23 = 0 then .infinity false else .nan)
  else if w / 2 ^ 23 = 0 then .finite (w * 2 ^ (-149 : ℤ))
  else .finite (((2 ^ 23 + w % 2 ^ 23 : ℕ) : ℚ) * 2 ^ (((w / 2 ^ 23 : ℕ) : ℤ) - 150))

/-- The number of a word. -/
def ofWord (w : ℕ) : Binary64 :=
  if w < 2 ^ 31 then ofMagnitude w else (ofMagnitude (w - 2 ^ 31)).neg

/-! ## A single is got back -/

section Magnitude

variable {x : ℚ}

/-- The exponent of a number below `2 ^ 128`. -/
theorem exponent_bounds (hnonneg : 0 ≤ x) (hlt : x < 2 ^ 128) :
    -126 ≤ exponent x ∧ exponent x ≤ 127 ∧ x < 2 ^ (exponent x + 1) := by
  unfold exponent
  split
  · rename_i hzero
    rw [hzero]
    exact ⟨by omega, by omega, zpow_pos two_pos _⟩
  · rename_i hne
    have hpos : 0 < x := lt_of_le_of_ne hnonneg (Ne.symm hne)
    obtain ⟨hlo, hhi⟩ := Binary64.log_bounds hpos
    have hlog : Int.log 2 x < 128 := by
      rw [← Int.lt_zpow_iff_log_lt one_lt_two hpos]
      exact_mod_cast hlt
    refine ⟨le_max_left _ _, by omega, hhi.trans_le ?_⟩
    exact zpow_le_zpow_right₀ one_le_two (by omega)

/-- The bits of a number below `2 ^ 128`. -/
theorem floor_div_lt (hnonneg : 0 ≤ x) (hlt : x < 2 ^ 128) :
    ⌊x / 2 ^ (exponent x - 23)⌋.toNat < 2 ^ 24 := by
  obtain ⟨-, -, hhi⟩ := exponent_bounds hnonneg hlt
  have hdiv : x / 2 ^ (exponent x - 23) < 2 ^ 24 := by
    rw [div_lt_iff₀ (zpow_pos two_pos _), ← zpow_natCast, ← zpow_add₀ two_ne_zero]
    rwa [show ((24 : ℕ) : ℤ) + (exponent x - 23) = exponent x + 1 by push_cast; ring]
  have hfloor : ⌊x / 2 ^ (exponent x - 23)⌋ < 2 ^ 24 := by
    rw [Int.floor_lt]
    exact_mod_cast hdiv
  omega

/-- A number without sign has a word below those of the infinity. -/
theorem magnitude_lt (hnonneg : 0 ≤ x) (hlt : x < 2 ^ 128) : magnitude x < 0xff * 2 ^ 23 := by
  obtain ⟨hlo, hhi, -⟩ := exponent_bounds hnonneg hlt
  have hbits := floor_div_lt hnonneg hlt
  unfold magnitude
  omega

/-- The first bit of a normal number. -/
theorem le_floor_div (hpos : 0 < x) (hnormal : -126 < exponent x) :
    2 ^ 23 ≤ ⌊x / 2 ^ (exponent x - 23)⌋.toNat := by
  have hexp : exponent x = Int.log 2 x := by
    unfold exponent at hnormal ⊢
    rw [if_neg hpos.ne'] at hnormal ⊢
    omega
  have hlo := (Binary64.log_bounds hpos).1
  have hdiv : (2 : ℚ) ^ 23 ≤ x / 2 ^ (exponent x - 23) := by
    rw [le_div_iff₀ (zpow_pos two_pos _), ← zpow_natCast, ← zpow_add₀ two_ne_zero, hexp]
    rwa [show ((23 : ℕ) : ℤ) + (Int.log 2 x - 23) = Int.log 2 x by push_cast; ring]
  have hfloor : 2 ^ 23 ≤ ⌊x / 2 ^ (exponent x - 23)⌋ := by
    rw [Int.le_floor]
    exact_mod_cast hdiv
  omega

/-- A number without sign is got back if it is on its grid. -/
theorem ofMagnitude_magnitude (hnonneg : 0 ≤ x) (hlt : x < 2 ^ 128) {m : ℕ}
    (hgrid : x = m * 2 ^ (exponent x - 23)) : ofMagnitude (magnitude x) = .finite x := by
  obtain ⟨hlo, hhi, -⟩ := exponent_bounds hnonneg hlt
  have hfloor : ⌊x / 2 ^ (exponent x - 23)⌋.toNat = m := by
    have hdiv : x / 2 ^ (exponent x - 23) = m := by
      rw [div_eq_iff (zpow_pos two_pos _).ne']
      exact hgrid
    rw [hdiv, Int.floor_natCast, Int.toNat_natCast]
  have hbits := floor_div_lt hnonneg hlt
  rw [hfloor] at hbits
  obtain ⟨e, he⟩ : ∃ e : ℕ, exponent x = e - 126 := ⟨(exponent x + 126).toNat, by omega⟩
  have hmagnitude : magnitude x = e * 2 ^ 23 + m := by
    rw [magnitude, hfloor, he, sub_add_cancel, Int.toNat_natCast]
  rw [hmagnitude, ofMagnitude]
  rcases Nat.lt_or_ge m (2 ^ 23) with hsubnormal | hnormal
  · have hzero : e = 0 := by
      by_contra hne
      have hpos : 0 < x := by
        rcases hnonneg.eq_or_lt with rfl | hpos
        · exact absurd (show exponent 0 = -126 from if_pos rfl) (by omega)
        · exact hpos
      have hbit := le_floor_div hpos (by omega)
      rw [hfloor] at hbit
      exact absurd hsubnormal (not_lt.2 hbit)
    have hdiv : (e * 2 ^ 23 + m) / 2 ^ 23 = 0 := by omega
    have hword : e * 2 ^ 23 + m = m := by omega
    rw [if_neg (by omega), if_pos hdiv, hword, hgrid, he, hzero]
    norm_num
  · have hdiv : (e * 2 ^ 23 + m) / 2 ^ 23 = e + 1 := by omega
    have hmod : 2 ^ 23 + (e * 2 ^ 23 + m) % 2 ^ 23 = m := by omega
    rw [if_neg (by omega), if_neg (by omega), hmod, hdiv]
    refine congrArg _ (Eq.trans ?_ hgrid.symm)
    rw [he]
    push_cast
    ring_nf

end Magnitude

theorem round_finite (q : ℚ) : round (.finite q) =
    if |roundFinite q| < 2 ^ 128 then .finite (roundFinite q) else .infinity (decide (q < 0)) := rfl

theorem magnitude_of_round {q : ℚ} (h : round (.finite q) = .finite q) :
    |q| < 2 ^ 128 ∧ ofMagnitude (magnitude |q|) = .finite |q| := by
  rw [round_finite] at h
  split at h
  · rename_i hlt
    have hgrid : roundFinite q = q := Binary64.finite.inj h
    rw [hgrid] at hlt
    refine ⟨hlt, ofMagnitude_magnitude (abs_nonneg q) hlt
      (m := (Binary64.roundHalfEven (q / quantum q)).natAbs) ?_⟩
    have hquantum : |quantum q| = quantum q := abs_of_pos (zpow_pos two_pos _)
    rw [← quantum, Nat.cast_natAbs, Int.cast_abs, ← hquantum, ← abs_mul, hquantum, ← roundFinite,
      hgrid]
  · cases h

/-- **A single is got back** from its word. -/
theorem ofWord_word {x : Binary64} (h : round x = x) : ofWord (word x) = x := by
  cases x with
  | finite q =>
    obtain ⟨hlt, hmagnitude⟩ := magnitude_of_round h
    have hword := magnitude_lt (abs_nonneg q) hlt
    rw [word, ofWord]
    rcases lt_or_ge q 0 with hneg | hpos
    · rw [if_pos hneg, if_neg (by omega), Nat.add_sub_cancel_left, hmagnitude, Binary64.neg,
        abs_of_neg hneg, neg_neg]
    · rw [if_neg (not_lt.2 hpos), zero_add, if_pos (by omega), hmagnitude, abs_of_nonneg hpos]
  | infinity negative => cases negative <;> rfl
  | nan => rfl

/-- Words have four bytes. -/
theorem word_round_lt (x : Binary64) : word (round x) < 2 ^ 32 := by
  cases x with
  | finite q =>
    rw [round_finite]
    split
    · rename_i hlt
      have hword := magnitude_lt (abs_nonneg _) hlt
      rw [word]
      split <;> omega
    · rw [word]
      split <;> omega
  | infinity negative => cases negative <;> decide
  | nan => decide

/-! ## The range -/

/-- The finite numbers without sign are below `2 ^ 128`. -/
theorem lt_of_ofMagnitude {w : ℕ} (hw : w < 2 ^ 31) {q : ℚ} (h : ofMagnitude w = .finite q) :
    |q| < 2 ^ 128 := by
  unfold ofMagnitude at h
  split at h
  · split at h <;> cases h
  · split at h
    · rename_i hzero
      cases h
      have hlt : (w : ℚ) < 2 ^ 23 := by exact_mod_cast (by omega : w < 2 ^ 23)
      have hscale : (2 : ℚ) ^ (-149 : ℤ) ≤ 1 := zpow_le_one_of_nonpos₀ one_le_two (by omega)
      rw [abs_of_nonneg (by positivity)]
      calc (w : ℚ) * 2 ^ (-149 : ℤ) ≤ w * 1 := mul_le_mul_of_nonneg_left hscale (by positivity)
        _ < 2 ^ 128 := by linarith
    · rename_i hnotInfinite _
      cases h
      have hbits : ((2 ^ 23 + w % 2 ^ 23 : ℕ) : ℚ) < 2 ^ 24 := by
        exact_mod_cast (by omega : 2 ^ 23 + w % 2 ^ 23 < 2 ^ 24)
      have hexp : (2 : ℚ) ^ (((w / 2 ^ 23 : ℕ) : ℤ) - 150) ≤ 2 ^ (104 : ℤ) :=
        zpow_le_zpow_right₀ one_le_two (by omega)
      rw [abs_of_nonneg (mul_nonneg (Nat.cast_nonneg _) (zpow_pos two_pos _).le)]
      calc _ ≤ ((2 ^ 23 + w % 2 ^ 23 : ℕ) : ℚ) * 2 ^ (104 : ℤ) :=
            mul_le_mul_of_nonneg_left hexp (by positivity)
        _ < 2 ^ 24 * 2 ^ (104 : ℤ) := mul_lt_mul_of_pos_right hbits (by positivity)
        _ = 2 ^ 128 := by norm_num

/-- The finite numbers of words are below `2 ^ 128`. -/
theorem lt_of_ofWord {w : ℕ} (hw : w < 2 ^ 32) {q : ℚ} (h : ofWord w = .finite q) :
    |q| < 2 ^ 128 := by
  unfold ofWord at h
  split at h
  · rename_i hlt
    exact lt_of_ofMagnitude hlt h
  · cases hm : ofMagnitude (w - 2 ^ 31) with
    | finite p =>
      rw [hm] at h
      cases h
      rw [abs_neg]
      exact lt_of_ofMagnitude (by omega) hm
    | infinity s =>
      rw [hm] at h
      cases h
    | nan =>
      rw [hm] at h
      cases h

end Binary32
