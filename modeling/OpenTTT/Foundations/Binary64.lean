import Mathlib.Data.Int.Log
import Mathlib.Data.Rat.Floor
import Mathlib.Data.Rat.Lemmas
import Mathlib.Tactic.Linarith
import Mathlib.Tactic.Positivity
import Mathlib.Tactic.FieldSimp

/-!
# Double-precision numbers

The numbers of an IEEE 754 binary64 arithmetic, with their finite values kept as exact rationals
and every operation rounded to the nearest representable value, ties to even (`Binary64.round`).
The two infinities and the not-a-number value are separate constructors; the sign of a zero is
not kept, since no divisor here is a negative zero.

The comparisons are those of the standard: a comparison with `nan` is false. Everything computes,
so that a comparison of given numbers is decided by evaluation.
-/

/-- A double-precision number. -/
inductive Binary64
  /-- A finite value, as the exact rational it stands for. -/
  | finite (q : ℚ)
  /-- An infinity, `negative` for the one below every finite value. -/
  | infinity (negative : Bool)
  | nan
  deriving DecidableEq

namespace Binary64

/-! ## Rounding -/

/-- The nearest integer, ties to even. -/
def roundHalfEven (x : ℚ) : ℤ :=
  if x - ⌊x⌋ < 1 / 2 then ⌊x⌋
  else if 1 / 2 < x - ⌊x⌋ then ⌊x⌋ + 1
  else if ⌊x⌋ % 2 = 0 then ⌊x⌋ else ⌊x⌋ + 1

/-- The value of the last place of a double near `x`: 53 significant bits, and never below the
last place of the subnormal numbers. -/
def quantum (x : ℚ) : ℚ := 2 ^ max (-1074) (Int.log 2 |x| - 52)

/-- `x` on the grid of its quantum. -/
def roundFinite (x : ℚ) : ℚ := roundHalfEven (x / quantum x) * quantum x

/-- The double nearest to `x`; an infinity from `2 ^ 1024` on. -/
def round (x : ℚ) : Binary64 :=
  if |roundFinite x| < 2 ^ 1024 then finite (roundFinite x) else infinity (decide (x < 0))

/-! ## Arithmetic -/

/-- The number of an integer. -/
def ofInt (z : ℤ) : Binary64 := round z

/-- The number of a natural number, such as the length of a list. -/
def ofNat (n : ℕ) : Binary64 := round n

def neg : Binary64 → Binary64
  | finite q => finite (-q)
  | infinity s => infinity (!s)
  | nan => nan

def abs : Binary64 → Binary64
  | finite q => finite |q|
  | infinity _ => infinity false
  | nan => nan

def add : Binary64 → Binary64 → Binary64
  | finite p, finite q => round (p + q)
  | infinity s, infinity t => if s = t then infinity s else nan
  | infinity s, finite _ => infinity s
  | finite _, infinity t => infinity t
  | _, _ => nan

protected theorem add_comm (x y : Binary64) : x.add y = y.add x := by
  cases x with
  | finite p =>
    cases y with
    | finite q => rw [add, add, add_comm]
    | infinity t => rfl
    | nan => rfl
  | infinity s =>
    cases y with
    | finite q => rfl
    | infinity t => cases s <;> cases t <;> rfl
    | nan => rfl
  | nan => cases y <;> rfl

def sub (x y : Binary64) : Binary64 := add x (neg y)

def mul : Binary64 → Binary64 → Binary64
  | finite p, finite q => round (p * q)
  | infinity s, infinity t => infinity (s != t)
  | infinity s, finite q => if q = 0 then nan else infinity (s != decide (q < 0))
  | finite p, infinity t => if p = 0 then nan else infinity (decide (p < 0) != t)
  | _, _ => nan

def div : Binary64 → Binary64 → Binary64
  | finite p, finite q =>
    if q = 0 then (if p = 0 then nan else infinity (decide (p < 0))) else round (p / q)
  | infinity s, finite q => infinity (s != decide (q < 0))
  | finite _, infinity _ => finite 0
  | _, _ => nan

/-! ## Comparisons -/

/-- `x < y`; false when one of the two is `nan`. -/
def lt : Binary64 → Binary64 → Bool
  | finite p, finite q => decide (p < q)
  | infinity s, infinity t => s && !t
  | infinity s, finite _ => s
  | finite _, infinity t => !t
  | _, _ => false

/-- `x ≤ y`; false when one of the two is `nan`. -/
def le : Binary64 → Binary64 → Bool
  | finite p, finite q => decide (p ≤ q)
  | infinity s, infinity t => s || !t
  | infinity s, finite _ => s
  | finite _, infinity t => !t
  | _, _ => false

theorem eq_of_le_of_not_lt {x y : Binary64} (hle : x.le y = true) (hlt : ¬ x.lt y = true) :
    x = y := by
  cases x with
  | finite p =>
    cases y with
    | finite q =>
      rw [le, decide_eq_true_eq] at hle
      rw [lt, decide_eq_true_eq] at hlt
      rw [hle.antisymm (not_lt.1 hlt)]
    | infinity t => exact absurd hle hlt
    | nan => cases hle
  | infinity s =>
    cases y with
    | finite q => exact absurd hle hlt
    | infinity t => cases s <;> cases t <;> simp_all [le, lt]
    | nan => cases hle
  | nan => cases hle

theorem not_lt_of_le {x y : Binary64} (h : x.le y = true) : ¬ y.lt x = true := by
  cases x with
  | finite p =>
    cases y with
    | finite q =>
      rw [le, decide_eq_true_eq] at h
      rw [lt, decide_eq_true_eq]
      exact not_lt.2 h
    | infinity t => cases t <;> simp_all [le, lt]
    | nan => cases h
  | infinity s =>
    cases y with
    | finite q => cases s <;> simp_all [le, lt]
    | infinity t => cases s <;> cases t <;> simp_all [le, lt]
    | nan => cases h
  | nan => cases h

theorem le_of_lt {x y : Binary64} (h : x.lt y = true) : x.le y = true := by
  cases x with
  | finite p =>
    cases y with
    | finite q =>
      rw [lt, decide_eq_true_eq] at h
      rw [le, decide_eq_true_eq]
      exact h.le
    | infinity t => exact h
    | nan => cases h
  | infinity s =>
    cases y with
    | finite q => exact h
    | infinity t => cases s <;> cases t <;> first | rfl | cases h
    | nan => cases h
  | nan => cases h

protected theorem le_refl {x : Binary64} (h : x ≠ nan) : x.le x = true := by
  cases x with
  | finite p =>
    rw [le, decide_eq_true_eq]
  | infinity s => cases s <;> rfl
  | nan => exact absurd rfl h

protected theorem le_trans {x y z : Binary64} (hxy : x.le y = true) (hyz : y.le z = true) :
    x.le z = true := by
  cases x with
  | finite p =>
    cases y with
    | finite q =>
      cases z with
      | finite r =>
        rw [le, decide_eq_true_eq] at hxy hyz ⊢
        exact hxy.trans hyz
      | infinity t => exact hyz
      | nan => cases hyz
    | infinity t => cases z <;> simp_all [le]
    | nan => cases hxy
  | infinity s =>
    cases y with
    | finite q => cases z <;> simp_all [le]
    | infinity t => cases s <;> cases t <;> cases z <;> simp_all [le]
    | nan => cases hxy
  | nan => cases hxy

theorem le_of_not_lt {x y : Binary64} (hx : x ≠ nan) (hy : y ≠ nan) (h : ¬ x.lt y = true) :
    y.le x = true := by
  cases x with
  | finite p =>
    cases y with
    | finite q =>
      rw [lt, decide_eq_true_eq] at h
      rw [le, decide_eq_true_eq]
      exact not_lt.1 h
    | infinity t => cases t <;> simp_all [lt, le]
    | nan => exact absurd rfl hy
  | infinity s =>
    cases y with
    | finite q => cases s <;> simp_all [lt, le]
    | infinity t => cases s <;> cases t <;> simp_all [lt, le]
    | nan => exact absurd rfl hy
  | nan => exact absurd rfl hx

/-- The smaller of two numbers, `nan` if one of them is. -/
def min (x y : Binary64) : Binary64 :=
  if x = nan ∨ y = nan then nan else if lt y x then y else x

protected theorem min_comm (x y : Binary64) : x.min y = y.min x := by
  unfold min
  by_cases hx : x = nan
  · simp [hx]
  by_cases hy : y = nan
  · simp [hy]
  simp only [hx, hy, or_self, if_false]
  split
  · rename_i hyx
    rw [if_neg (not_lt_of_le (le_of_lt hyx))]
  · rename_i hyx
    split
    · rfl
    · rename_i hxy
      exact eq_of_le_of_not_lt (le_of_not_lt hy hx hyx) hxy

/-- The lower one of a number and the lowest so far, which stays if one of the two is `nan`. -/
def lower (lowest x : Binary64) : Binary64 := if x.lt lowest then x else lowest

theorem lower_right_comm (z x y : Binary64) : lower (lower z x) y = lower (lower z y) x := by
  unfold lower
  cases x <;> cases y <;> cases z <;> simp [lt] <;> grind

/-- The nearest integer, ties upwards. The result is an integer or not finite. -/
def roundHalfUp : Binary64 → Binary64
  | finite q => finite ⌊q + 1 / 2⌋
  | x => x

/-- The integer a number stands for, if it stands for one. -/
def toInt? : Binary64 → Option ℤ
  | finite q => if q.den = 1 then some q.num else none
  | _ => none

theorem eq_finite_of_toInt? {x : Binary64} {z : ℤ} (h : x.toInt? = some z) : x = finite z := by
  cases x with
  | finite q =>
    unfold toInt? at h
    dsimp only at h
    split at h
    · rename_i hden
      rw [← Option.some.inj h, (Rat.den_eq_one_iff q).1 hden]
    · cases h
  | infinity _ => cases h
  | nan => cases h

/-! ## What rounding keeps -/

theorem quantum_pos (x : ℚ) : 0 < quantum x := zpow_pos two_pos _

/-- Integers are not rounded. -/
theorem roundHalfEven_intCast (z : ℤ) : roundHalfEven z = z := by
  simp [roundHalfEven]

/-- A multiple of its quantum is not rounded. -/
theorem roundFinite_of_eq_mul {x : ℚ} {z : ℤ} (h : x = z * quantum x) : roundFinite x = x := by
  have hdiv : x / quantum x = z := by
    rw [div_eq_iff (quantum_pos x).ne']
    exact h
  rw [roundFinite, hdiv, roundHalfEven_intCast, ← h]

/-- A number of 53 bits behind a binary point is not rounded. -/
theorem roundFinite_dyadic {n k : ℕ} (hn : n < 2 ^ 53) (hk : k ≤ 1074) :
    roundFinite (n / 2 ^ k) = n / 2 ^ k := by
  rcases Nat.eq_zero_or_pos n with rfl | hpos
  · simp [roundFinite, roundHalfEven]
  have hx : (0 : ℚ) < n / 2 ^ k := by positivity
  have hlog : Int.log 2 ((n : ℚ) / 2 ^ k) < 53 - k := by
    rw [← Int.lt_zpow_iff_log_lt one_lt_two hx, Nat.cast_ofNat, zpow_sub₀ two_ne_zero,
      zpow_natCast]
    have hcast : (n : ℚ) < 2 ^ 53 := by exact_mod_cast hn
    exact div_lt_div_of_pos_right hcast (by positivity)
  -- the exponent of the last place is at most that of the last bit
  obtain ⟨e, he⟩ : ∃ e : ℕ, max (-1074) (Int.log 2 ((n : ℚ) / 2 ^ k) - 52) = -(k + e : ℕ) :=
    ⟨(-max (-1074) (Int.log 2 ((n : ℚ) / 2 ^ k) - 52) - k).toNat, by omega⟩
  have hquantum : quantum (n / 2 ^ k) = (2 ^ (k + e))⁻¹ := by
    rw [quantum, abs_of_pos hx, he, zpow_neg, zpow_natCast]
  refine roundFinite_of_eq_mul (z := n * 2 ^ e) ?_
  rw [hquantum, pow_add]
  push_cast
  field_simp

/-- **The numbers of 53 bits behind a binary point** are doubles. -/
theorem round_dyadic {n k : ℕ} (hn : n < 2 ^ 53) (hk : k ≤ 1074) :
    round (n / 2 ^ k) = finite (n / 2 ^ k) := by
  have hlt : |(n : ℚ) / 2 ^ k| < 2 ^ 1024 := by
    rw [abs_of_nonneg (by positivity)]
    have hcast : (n : ℚ) < 2 ^ 53 := by exact_mod_cast hn
    calc (n : ℚ) / 2 ^ k ≤ n := div_le_self (by positivity) (one_le_pow₀ one_le_two)
      _ < 2 ^ 53 := hcast
      _ ≤ 2 ^ 1024 := pow_le_pow_right₀ one_le_two (by omega)
  rw [round, roundFinite_dyadic hn hk, if_pos hlt]

/-- **The integers below `2 ^ 53` are doubles.** -/
theorem round_natCast {n : ℕ} (h : n < 2 ^ 53) : round n = finite n := by
  have hdyadic := round_dyadic h (Nat.zero_le 1074)
  rwa [pow_zero, div_one] at hdyadic

theorem ofNat_eq {n : ℕ} (h : n < 2 ^ 53) : ofNat n = finite n := round_natCast h

/-- The difference of a number with itself. -/
theorem sub_self_eq (x : Binary64) : x.sub x = finite 0 ∨ x.sub x = nan := by
  cases x with
  | finite q =>
    refine Or.inl ?_
    have hzero := round_natCast (show 0 < 2 ^ 53 by norm_num)
    rw [Nat.cast_zero] at hzero
    rw [sub, neg, add, add_neg_cancel, hzero]
  | infinity s => cases s <;> exact Or.inr rfl
  | nan => exact Or.inr rfl

/-- A number that is not below the smallest double is not rounded to zero. -/
theorem round_pos {x : ℚ} (hx : 2 ^ (-1074 : ℤ) ≤ x) : ¬ (round x).le (finite 0) = true := by
  have hpos : 0 < x := (zpow_pos two_pos _).trans_le hx
  have hlog : -1074 ≤ Int.log 2 x := by
    rw [← Int.zpow_le_iff_le_log one_lt_two hpos]
    exact_mod_cast hx
  have hle : quantum x ≤ x := by
    rw [quantum, abs_of_pos hpos]
    refine le_trans ?_ (Int.zpow_log_le_self one_lt_two hpos)
    push_cast
    exact zpow_le_zpow_right₀ one_le_two (by omega)
  have hone : 1 ≤ roundHalfEven (x / quantum x) := by
    have hfloor : 1 ≤ ⌊x / quantum x⌋ := by
      rw [Int.le_floor, Int.cast_one, one_le_div (quantum_pos x)]
      exact hle
    unfold roundHalfEven
    split_ifs <;> omega
  have hround : 0 < roundFinite x := by
    have hcast : (0 : ℚ) < roundHalfEven (x / quantum x) := by exact_mod_cast hone
    exact mul_pos hcast (quantum_pos x)
  unfold round
  split
  · rw [le, decide_eq_true_eq]
    exact not_le.2 hround
  · rw [decide_eq_false (not_lt.2 hpos.le)]
    exact Bool.false_ne_true

/-- A natural number that is above another one is above it also when it is rounded. -/
theorem lt_ofNat {m n : ℕ} (hm : m < 2 ^ 52) (h : m < n) : (finite m).lt (ofNat n) = true := by
  rcases Nat.lt_or_ge n (2 ^ 53) with hn | hn
  · rw [ofNat_eq hn, lt, decide_eq_true_eq]
    exact_mod_cast h
  have hx : (2 : ℚ) ^ 53 ≤ n := by exact_mod_cast hn
  have hpos : (0 : ℚ) < n := lt_of_lt_of_le (by norm_num) hx
  have hlog : 53 ≤ Int.log 2 (n : ℚ) := by
    rw [← Int.zpow_le_iff_le_log one_lt_two hpos]
    exact_mod_cast hx
  have hquantum : quantum n ≤ n / 2 ^ 52 := by
    rw [quantum, abs_of_pos hpos, max_eq_right (by omega), le_div_iff₀ (by norm_num),
      ← zpow_natCast, ← zpow_add₀ two_ne_zero]
    refine le_trans ?_ (Int.zpow_log_le_self one_lt_two hpos)
    push_cast
    exact zpow_le_zpow_right₀ one_le_two (by omega)
  have hround : (m : ℚ) < roundFinite n := by
    have hfloor : ⌊(n : ℚ) / quantum n⌋ ≤ roundHalfEven (n / quantum n) := by
      unfold roundHalfEven
      split_ifs <;> omega
    have hcast : (n : ℚ) / quantum n - 1 ≤ roundHalfEven (n / quantum n) := by
      have hle : ((⌊(n : ℚ) / quantum n⌋ : ℤ) : ℚ) ≤ (roundHalfEven (n / quantum n) : ℤ) := by
        exact_mod_cast hfloor
      linarith [Int.sub_one_lt_floor ((n : ℚ) / quantum n)]
    have hbelow : (n : ℚ) - quantum n ≤ roundFinite n := by
      have hmul := mul_le_mul_of_nonneg_right hcast (quantum_pos n).le
      rw [sub_mul, div_mul_cancel₀ _ (quantum_pos n).ne', one_mul] at hmul
      exact hmul
    have hm' : (m : ℚ) < 2 ^ 52 := by exact_mod_cast hm
    linarith
  unfold ofNat round
  split
  · rw [lt, decide_eq_true_eq]
    exact hround
  · rw [decide_eq_false (not_lt.2 hpos.le)]
    rfl

/-! ## Negative numbers -/

theorem roundHalfEven_neg (x : ℚ) : roundHalfEven (-x) = -roundHalfEven x := by
  obtain ⟨z, hz⟩ : ∃ z, z = ⌊x⌋ := ⟨_, rfl⟩
  have hle : (z : ℚ) ≤ x := hz ▸ Int.floor_le x
  have hlt : x < z + 1 := hz ▸ Int.lt_floor_add_one x
  rcases hle.eq_or_lt with heq | hfrac
  · rw [← heq, ← Int.cast_neg, roundHalfEven_intCast, roundHalfEven_intCast]
  have hfloor : ⌊-x⌋ = -z - 1 := by
    rw [Int.floor_eq_iff]
    push_cast
    constructor <;> linarith
  have hcast : ((-z - 1 : ℤ) : ℚ) = -z - 1 := by push_cast; ring
  simp only [roundHalfEven, hfloor, ← hz, hcast]
  split_ifs <;> first | omega | (exfalso; linarith)

theorem quantum_neg (x : ℚ) : quantum (-x) = quantum x := by
  rw [quantum, quantum, abs_neg]

theorem roundFinite_neg (x : ℚ) : roundFinite (-x) = -roundFinite x := by
  rw [roundFinite, roundFinite, quantum_neg, neg_div, roundHalfEven_neg, Int.cast_neg, neg_mul]

/-- **Rounding is symmetric.** -/
theorem round_neg (x : ℚ) : round (-x) = neg (round x) := by
  unfold round
  rw [roundFinite_neg, abs_neg]
  split
  · rfl
  · rename_i hbig
    have hne : x ≠ 0 := by
      rintro rfl
      rw [roundFinite, zero_div] at hbig
      norm_num [roundHalfEven] at hbig
    rcases lt_or_gt_of_ne hne with hneg | hpos
    · rw [decide_eq_true hneg, decide_eq_false (by linarith)]
      rfl
    · rw [decide_eq_false (not_lt.2 hpos.le), decide_eq_true (by linarith)]
      rfl

/-! ## The nearest double -/

theorem roundHalfEven_of_near {x : ℚ} {z : ℤ} (h : |x - z| < 1 / 2) : roundHalfEven x = z := by
  rw [abs_lt] at h
  rcases le_or_gt (z : ℚ) x with hle | hlt
  · have hfloor : ⌊x⌋ = z := Int.floor_eq_iff.2 ⟨hle, by linarith⟩
    rw [roundHalfEven, hfloor, if_pos h.2]
  · have hfloor : ⌊x⌋ = z - 1 := by
      rw [Int.floor_eq_iff]
      push_cast
      constructor <;> linarith
    have hfrac : 1 / 2 < x - ((z - 1 : ℤ) : ℚ) := by
      push_cast
      linarith
    rw [roundHalfEven, hfloor, if_neg (not_lt.2 hfrac.le), if_pos hfrac, sub_add_cancel]

theorem zpow_eq_mul {e m : ℤ} (h : e ≤ m) : ∃ k : ℤ, (2 : ℚ) ^ m = k * 2 ^ e := by
  refine ⟨2 ^ (m - e).toNat, ?_⟩
  push_cast
  rw [← zpow_natCast, ← zpow_add₀ two_ne_zero]
  congr 1
  omega

/-- Of two multiples of a number, the greater is greater by that number at least. -/
theorem add_le_of_mul_lt_mul {q x y : ℚ} (hq : 0 < q) {a b : ℤ} (hx : x = a * q) (hy : y = b * q)
    (h : x < y) : x + q ≤ y := by
  rw [hx, hy] at h ⊢
  have hab : a + 1 ≤ b := by
    have hcast : (a : ℚ) < b := lt_of_mul_lt_mul_right h hq.le
    exact_mod_cast hcast
  have hcast : (a : ℚ) + 1 ≤ b := by exact_mod_cast hab
  calc (a : ℚ) * q + q = (a + 1) * q := by ring
    _ ≤ b * q := mul_le_mul_of_nonneg_right hcast hq.le

section Nearest

variable {x : ℚ}

/-- The exponent of the last place of a double. -/
theorem quantum_eq (hpos : 0 < x) : quantum x = 2 ^ max (-1074) (Int.log 2 x - 52) := by
  rw [quantum, abs_of_pos hpos]

/-- A double is a multiple of its quantum, and so is the next power of two, on either side. -/
theorem exists_eq_mul_quantum (hx : round x = finite x) : ∃ z : ℤ, x = z * quantum x := by
  refine ⟨roundHalfEven (x / quantum x), ?_⟩
  unfold round at hx
  split at hx
  · exact (finite.inj hx).symm
  · cases hx

theorem log_bounds (hpos : 0 < x) : (2 : ℚ) ^ Int.log 2 x ≤ x ∧ x < 2 ^ (Int.log 2 x + 1) := by
  have hlo := Int.zpow_log_le_self (b := 2) (by omega) hpos
  have hhi := Int.lt_zpow_succ_log_self (b := 2) (by omega) x
  push_cast at hlo hhi
  exact ⟨hlo, hhi⟩

/-- The quantum of a double is at most the power of two below it. -/
theorem quantum_exponent_le (hx : round x = finite x) (hpos : 0 < x) :
    max (-1074) (Int.log 2 x - 52) ≤ Int.log 2 x := by
  obtain ⟨z, hz⟩ := exists_eq_mul_quantum hx
  have hone : 1 ≤ z := by
    rw [hz] at hpos
    have hcast : (0 : ℚ) < z := pos_of_mul_pos_left hpos (quantum_pos x).le
    exact_mod_cast hcast
  have hle : (2 : ℚ) ^ max (-1074) (Int.log 2 x - 52) ≤ x := by
    rw [← quantum_eq hpos]
    have hcast : (1 : ℚ) ≤ z := by exact_mod_cast hone
    calc quantum x = 1 * quantum x := (one_mul _).symm
      _ ≤ z * quantum x := mul_le_mul_of_nonneg_right hcast (quantum_pos x).le
      _ = x := hz.symm
  rw [← Int.zpow_le_iff_le_log one_lt_two hpos]
  exact_mod_cast hle

theorem zpow_le_quantum (hpos : 0 < x) : (2 : ℚ) ^ (Int.log 2 x - 52) ≤ quantum x := by
  rw [quantum_eq hpos]
  exact zpow_le_zpow_right₀ one_le_two (le_max_right _ _)

/-- A number near a double has its exponent, or a smaller one. -/
theorem log_le_of_near (hx : round x = finite x) (hpos : 0 < x) {y : ℚ} (hypos : 0 < y)
    (h : y - x < 2 ^ (Int.log 2 x - 52)) : Int.log 2 y ≤ Int.log 2 x := by
  by_contra hgt
  obtain ⟨z, hz⟩ := exists_eq_mul_quantum hx
  obtain ⟨k, hk⟩ := zpow_eq_mul (quantum_exponent_le hx hpos |>.trans (Int.le_add_one le_rfl))
  rw [← quantum_eq hpos] at hk
  -- the next power of two is past the double by its last place
  have hnext := add_le_of_mul_lt_mul (quantum_pos x) hz hk (log_bounds hpos).2
  have hy : (2 : ℚ) ^ (Int.log 2 x + 1) ≤ y :=
    (zpow_le_zpow_right₀ one_le_two (by omega)).trans (log_bounds hypos).1
  linarith [zpow_le_quantum hpos]

/-- If it has a smaller one, the double is at most the next power of two. -/
theorem le_zpow_of_near (hx : round x = finite x) (hpos : 0 < x) {y : ℚ} (hypos : 0 < y)
    (h : x - y < 2 ^ (Int.log 2 x - 52)) (hhalf : x < 2 * y) : x ≤ 2 ^ (Int.log 2 y + 1) := by
  by_contra hlt
  obtain ⟨z, hz⟩ := exists_eq_mul_quantum hx
  obtain ⟨k, hk⟩ := zpow_eq_mul (quantum_exponent_le hx hpos)
  rw [← quantum_eq hpos] at hk
  have hylt := (log_bounds hypos).2
  have hlog : Int.log 2 y + 1 ≤ Int.log 2 x := by
    by_contra hge
    have hle : (2 : ℚ) ^ (Int.log 2 x + 1) ≤ 2 ^ (Int.log 2 y + 1) :=
      zpow_le_zpow_right₀ one_le_two (by omega)
    exact hlt ((log_bounds hpos).2.le.trans hle)
  have hle : (2 : ℚ) ^ (Int.log 2 y + 1) ≤ 2 ^ Int.log 2 x := zpow_le_zpow_right₀ one_le_two hlog
  -- the double is its power of two, since the number next to it is below
  have heq : x = 2 ^ Int.log 2 x := by
    by_contra hne
    have hgt := lt_of_le_of_ne (log_bounds hpos).1 (Ne.symm hne)
    have hstep := add_le_of_mul_lt_mul (quantum_pos x) hk hz hgt
    linarith [zpow_le_quantum hpos]
  have hlog' : Int.log 2 y + 1 ≤ Int.log 2 x - 1 := by
    by_contra hge
    have hle' : (2 : ℚ) ^ Int.log 2 x ≤ 2 ^ (Int.log 2 y + 1) :=
      zpow_le_zpow_right₀ one_le_two (by omega)
    exact hlt (heq.le.trans hle')
  have hquarter : (2 : ℚ) ^ (Int.log 2 y + 1) ≤ 2 ^ (Int.log 2 x - 1) :=
    zpow_le_zpow_right₀ one_le_two hlog'
  rw [zpow_sub_one₀ two_ne_zero, ← heq] at hquarter
  linarith

/-- **What rounds to a double**: everything that is nearer than a part in `2 ^ 54`. -/
theorem round_of_near (hx : round x = finite x) (hpos : 0 < x) {y : ℚ}
    (h : |y - x| < x / 2 ^ 54) : round y = finite x := by
  have hfraction : x / 2 ^ 54 < 2 ^ (Int.log 2 x - 53) := by
    rw [div_lt_iff₀ (by positivity), ← zpow_natCast, ← zpow_add₀ two_ne_zero]
    have hexp : Int.log 2 x - 53 + ((54 : ℕ) : ℤ) = Int.log 2 x + 1 := by
      push_cast
      ring
    rw [hexp]
    exact (log_bounds hpos).2
  have hlast : (2 : ℚ) ^ (Int.log 2 x - 53) ≤ 2 ^ (Int.log 2 x - 52) :=
    zpow_le_zpow_right₀ one_le_two (by omega)
  have hsmall : x / 2 ^ 54 ≤ x / 4 := div_le_div_of_nonneg_left hpos.le (by norm_num) (by norm_num)
  obtain ⟨hbelow, habove⟩ := abs_lt.1 h
  have hypos : 0 < y := by linarith
  have hlog := log_le_of_near hx hpos hypos (by linarith)
  have hnext := le_zpow_of_near hx hpos hypos (by linarith) (by linarith)
  -- the double is on the grid of the number, less than half of a place away
  obtain ⟨k, hk⟩ : ∃ k : ℤ, quantum x = k * quantum y := by
    rw [quantum_eq hpos, quantum_eq hypos]
    exact zpow_eq_mul (by omega)
  obtain ⟨z, hz⟩ := exists_eq_mul_quantum hx
  have hgrid : x = (z * k : ℤ) * quantum y := by
    push_cast
    rw [mul_assoc, ← hk]
    exact hz
  have hplace : x / 2 ^ 54 ≤ quantum y / 2 := by
    have hsplit : (2 : ℚ) ^ (Int.log 2 y + 1) = 2 ^ (Int.log 2 y - 52) * 2 ^ 53 := by
      rw [← zpow_natCast, ← zpow_add₀ two_ne_zero]
      congr 1
      push_cast
      ring
    rw [hsplit] at hnext
    have hq := zpow_le_quantum hypos
    rw [div_le_iff₀ (by positivity)]
    linarith
  have hnear : |y / quantum y - (z * k : ℤ)| < 1 / 2 := by
    have hq := quantum_pos y
    have hdiff : y / quantum y - (z * k : ℤ) = (y - x) / quantum y := by
      rw [eq_div_iff hq.ne', sub_mul, ← hgrid, div_mul_cancel₀ _ hq.ne']
    rw [hdiff, abs_div, abs_of_pos hq, div_lt_iff₀ hq]
    linarith
  have hround : roundFinite y = x := by
    rw [roundFinite, roundHalfEven_of_near hnear, ← hgrid]
  have hlt : |x| < 2 ^ 1024 := by
    have hx' := hx
    unfold round at hx'
    split at hx'
    · rename_i hlt
      rwa [finite.inj hx'] at hlt
    · cases hx'
  rw [round, hround, if_pos hlt]

end Nearest

/-! ## The range -/

theorem abs_roundHalfEven_sub_le (x : ℚ) : |(roundHalfEven x : ℚ) - x| ≤ 1 / 2 := by
  have hle := Int.floor_le x
  have hlt := Int.lt_floor_add_one x
  unfold roundHalfEven
  rw [abs_le]
  split_ifs
  · constructor <;> linarith
  · push_cast
    constructor <;> linarith
  · constructor <;> linarith
  · push_cast
    constructor <;> linarith

/-- The last place of a number is at most the number, or one. -/
theorem quantum_le (x : ℚ) : quantum x ≤ 1 + |x| := by
  have habs := abs_nonneg x
  rcases eq_or_ne x 0 with rfl | hne
  · norm_num [quantum]
  rw [quantum]
  rcases max_cases (-1074) (Int.log 2 |x| - 52) with ⟨hmax, -⟩ | ⟨hmax, -⟩
  · rw [hmax]
    have hone : (2 : ℚ) ^ (-1074 : ℤ) ≤ 2 ^ (0 : ℤ) := zpow_le_zpow_right₀ one_le_two (by omega)
    rw [zpow_zero] at hone
    linarith
  · rw [hmax]
    have hlog := (log_bounds (abs_pos.2 hne)).1
    have hle : (2 : ℚ) ^ (Int.log 2 |x| - 52) ≤ 2 ^ Int.log 2 |x| :=
      zpow_le_zpow_right₀ one_le_two (by omega)
    linarith

theorem abs_roundFinite_le (x : ℚ) : |roundFinite x| ≤ 2 * |x| + 1 := by
  have hq := quantum_pos x
  have hhalf : |roundFinite x - x| ≤ quantum x / 2 := by
    have hsplit : roundFinite x - x =
        ((roundHalfEven (x / quantum x) : ℚ) - x / quantum x) * quantum x := by
      rw [sub_mul, div_mul_cancel₀ _ hq.ne', roundFinite]
    rw [hsplit, abs_mul, abs_of_pos hq]
    calc _ ≤ 1 / 2 * quantum x :=
          mul_le_mul_of_nonneg_right (abs_roundHalfEven_sub_le _) hq.le
      _ = quantum x / 2 := by ring
  have hle := quantum_le x
  have htriangle := abs_add_le (roundFinite x - x) x
  rw [sub_add_cancel] at htriangle
  linarith [abs_nonneg x]

/-- **A number below `2 ^ 1022`** rounds to a finite one. -/
theorem round_of_lt {x : ℚ} (h : |x| < 2 ^ 1022) : round x = finite (roundFinite x) := by
  refine if_pos ((abs_roundFinite_le x).trans_lt ?_)
  have hpow : (2 : ℚ) ^ 1024 = 2 ^ 2 * 2 ^ 1022 := by rw [← pow_add]
  have hone : (1 : ℚ) ≤ 2 ^ 1022 := one_le_pow₀ one_le_two
  rw [hpow]
  generalize (2 : ℚ) ^ 1022 = bound at h hone ⊢
  linarith

/-- A number that is finite and rounded to the nearest integer stands for one. -/
theorem toInt?_roundHalfUp_finite (q : ℚ) : (roundHalfUp (finite q)).toInt? = some ⌊q + 1 / 2⌋ := by
  simp [roundHalfUp, toInt?]

end Binary64
