import OpenTTT.Foundations.Binary64
import OpenTTT.Foundations.DecimalText

/-!
# The text of a number

`Number.prototype.toString`: the shortest decimal digits that round to the number, written out
with their zeros while the decimal point is at most 21 places from the left, and in exponential
notation otherwise. An integer up to `2 ^ 53` in size is written with all its digits. No other
number has the text of a natural number below `2 ^ 53` (`eq_of_numberToString_eq`).
-/

namespace OpenTTT

/-- Of the two numbers of `k` decimal digits around `x` the nearer one, at the same distance the
even one. -/
def nearerDigits (x : ℚ) (k : ℕ) : ℕ :=
  let scaled := x * 10 ^ ((k : ℤ) - (Int.log 10 x + 1))
  let lower := ⌊scaled⌋.toNat
  if scaled - lower < 1 / 2 ∨ scaled - lower = 1 / 2 ∧ lower % 2 = 0 then lower else lower + 1

/-- The `k` decimal digits that stand for `x`: the nearer ones, unless only the other ones around
`x` round to it. -/
def decimalCandidate (x : ℚ) (k : ℕ) : ℕ :=
  let n := Int.log 10 x + 1
  let lower := ⌊x * 10 ^ ((k : ℤ) - n)⌋.toNat
  let nearer := nearerDigits x k
  let other := if nearer = lower then lower + 1 else lower
  if Binary64.round (nearer * 10 ^ (n - (k : ℤ))) ≠ .finite x ∧
      Binary64.round (other * 10 ^ (n - (k : ℤ))) = .finite x then other
  else nearer

/-- The number of the shortest digits that round to `x`. Doubles need at most 17. -/
def shortestLength (x : ℚ) : ℕ :=
  ((List.range 18).find? fun k => 0 < k ∧
    Binary64.round (decimalCandidate x k * 10 ^ (Int.log 10 x + 1 - (k : ℤ))) = .finite x).getD 17

/-- The shortest decimal digits `s` and the place `n` of the decimal point such that
`s * 10 ^ (n - k)`, with `k` the number of digits of `s`, rounds to `x`. -/
def shortestDigits (x : ℚ) : ℕ × ℤ :=
  let n := Int.log 10 x + 1
  let k := shortestLength x
  if decimalCandidate x k = 10 ^ k then (10 ^ (k - 1), n + 1) else (decimalCandidate x k, n)

/-- Digits `s`, with the decimal point after the first `n` of them. -/
def placePoint (s : ℕ) (n : ℤ) : String :=
  let digits := toString s
  let k := digits.length
  let zeros (i : ℤ) : String := String.ofList (List.replicate i.toNat '0')
  let head (i : ℕ) : String := String.ofList (digits.toList.take i)
  let tail (i : ℕ) : String := String.ofList (digits.toList.drop i)
  if (k : ℤ) ≤ n ∧ n ≤ 21 then digits ++ zeros (n - k)
  else if 0 < n ∧ n ≤ 21 then head n.toNat ++ "." ++ tail n.toNat
  else if -6 < n ∧ n ≤ 0 then "0." ++ zeros (-n) ++ digits
  else
    let exponent := (if 0 ≤ n - 1 then "e+" else "e-") ++ toString (n - 1).natAbs
    if k = 1 then digits ++ exponent else head 1 ++ "." ++ tail 1 ++ exponent

/-- The text of a positive finite number. -/
def positiveToString (x : ℚ) : String :=
  if x.den = 1 ∧ x ≤ 2 ^ 53 then toString x.num
  else placePoint (shortestDigits x).1 (shortestDigits x).2

/-- `String(x)`. -/
def numberToString : Binary64 → String
  | .finite q =>
    if q = 0 then "0" else if q < 0 then "-" ++ positiveToString (-q) else positiveToString q
  | .infinity negative => if negative then "-Infinity" else "Infinity"
  | .nan => "NaN"

theorem numberToString_finite (q : ℚ) : numberToString (.finite q) =
    if q = 0 then "0" else if q < 0 then "-" ++ positiveToString (-q) else positiveToString q := rfl

/-! ## The shortest digits -/

/-- Scaled to `k + 1` digits before the point, a number has so many. -/
theorem scaled_bounds {x : ℚ} (hx : 0 < x) (k : ℕ) :
    (10 : ℚ) ^ k ≤ x * 10 ^ (((k + 1 : ℕ) : ℤ) - (Int.log 10 x + 1)) ∧
      x * 10 ^ (((k + 1 : ℕ) : ℤ) - (Int.log 10 x + 1)) < (10 : ℚ) ^ (k + 1) := by
  have hlo := Int.zpow_log_le_self (b := 10) (by omega) hx
  have hhi := Int.lt_zpow_succ_log_self (b := 10) (by omega) x
  push_cast at hlo hhi
  have hpos : (0 : ℚ) < 10 ^ (((k + 1 : ℕ) : ℤ) - (Int.log 10 x + 1)) := zpow_pos (by norm_num) _
  constructor
  · calc (10 : ℚ) ^ k = 10 ^ Int.log 10 x * 10 ^ (((k + 1 : ℕ) : ℤ) - (Int.log 10 x + 1)) := by
          rw [← zpow_add₀ (by norm_num), ← zpow_natCast]
          congr 1
          push_cast
          ring
      _ ≤ _ := mul_le_mul_of_nonneg_right hlo hpos.le
  · calc x * 10 ^ (((k + 1 : ℕ) : ℤ) - (Int.log 10 x + 1))
        < 10 ^ (Int.log 10 x + 1) * 10 ^ (((k + 1 : ℕ) : ℤ) - (Int.log 10 x + 1)) :=
          mul_lt_mul_of_pos_right hhi hpos
      _ = (10 : ℚ) ^ (k + 1) := by
          rw [← zpow_add₀ (by norm_num), ← zpow_natCast]
          congr 1
          ring

theorem decimalCandidate_eq_or (x : ℚ) (k : ℕ) :
    decimalCandidate x k = ⌊x * 10 ^ ((k : ℤ) - (Int.log 10 x + 1))⌋.toNat ∨
      decimalCandidate x k = ⌊x * 10 ^ ((k : ℤ) - (Int.log 10 x + 1))⌋.toNat + 1 := by
  simp only [decimalCandidate, nearerDigits]
  split_ifs <;> simp

/-- `k + 1` digits are so many, or the next power of ten. -/
theorem decimalCandidate_bounds {x : ℚ} (hx : 0 < x) (k : ℕ) :
    10 ^ k ≤ decimalCandidate x (k + 1) ∧ decimalCandidate x (k + 1) ≤ 10 ^ (k + 1) := by
  obtain ⟨hlo, hhi⟩ := scaled_bounds hx k
  have hfloor : ((10 ^ k : ℕ) : ℤ) ≤ ⌊x * 10 ^ (((k + 1 : ℕ) : ℤ) - (Int.log 10 x + 1))⌋ := by
    rw [Int.le_floor]
    push_cast at hlo ⊢
    exact hlo
  have hceil : ⌊x * 10 ^ (((k + 1 : ℕ) : ℤ) - (Int.log 10 x + 1))⌋ < ((10 ^ (k + 1) : ℕ) : ℤ) := by
    rw [Int.floor_lt]
    push_cast at hhi ⊢
    exact hhi
  rcases decimalCandidate_eq_or x (k + 1) with heq | heq <;> rw [heq] <;> omega

theorem shortestDigits_eq (x : ℚ) : shortestDigits x =
    if decimalCandidate x (shortestLength x) = 10 ^ shortestLength x then
      (10 ^ (shortestLength x - 1), Int.log 10 x + 1 + 1)
    else (decimalCandidate x (shortestLength x), Int.log 10 x + 1) := rfl

theorem shortestLength_spec (x : ℚ) : ∃ k : ℕ, shortestLength x = k + 1 ∧
    (Binary64.round (decimalCandidate x (k + 1) *
      10 ^ (Int.log 10 x + 1 - ((k + 1 : ℕ) : ℤ))) = .finite x ∨ k + 1 = 17) := by
  unfold shortestLength
  cases hfind : (List.range 18).find? fun k => 0 < k ∧
      Binary64.round (decimalCandidate x k * 10 ^ (Int.log 10 x + 1 - (k : ℤ))) = .finite x with
  | none => exact ⟨16, rfl, Or.inr rfl⟩
  | some k =>
    have hmatch := List.find?_some hfind
    obtain ⟨hpos, hround⟩ := of_decide_eq_true hmatch
    obtain ⟨k, rfl⟩ := Nat.exists_eq_succ_of_ne_zero hpos.ne'
    exact ⟨k, rfl, Or.inl hround⟩

/-- The shortest digits have the value of the candidate of their length. -/
theorem shortestDigits_value {x : ℚ} (hx : 0 < x) {k : ℕ} (hk : shortestLength x = k + 1) :
    10 ^ k ≤ (shortestDigits x).1 ∧ (shortestDigits x).1 < 10 ^ (k + 1) ∧
      ((shortestDigits x).1 : ℚ) * 10 ^ ((shortestDigits x).2 - ((k + 1 : ℕ) : ℤ)) =
        decimalCandidate x (k + 1) * 10 ^ (Int.log 10 x + 1 - ((k + 1 : ℕ) : ℤ)) := by
  obtain ⟨hlo, hhi⟩ := decimalCandidate_bounds hx k
  rw [shortestDigits_eq, hk]
  split
  · -- the digits are those of a power of ten
    rename_i hcarry
    refine ⟨le_rfl, Nat.pow_lt_pow_right (by omega) (by omega), ?_⟩
    rw [hcarry, Nat.add_sub_cancel]
    push_cast
    rw [← zpow_natCast, ← zpow_natCast, ← zpow_add₀ (by norm_num), ← zpow_add₀ (by norm_num)]
    congr 1
    push_cast
    ring
  · rename_i hcarry
    exact ⟨hlo, lt_of_le_of_ne hhi hcarry, rfl⟩

/-- **The shortest digits** are as many as they are said to be, and they round to `x` unless there
are 17 of them. -/
theorem shortestDigits_spec {x : ℚ} (hx : 0 < x) : ∃ k : ℕ,
    (Nat.toDigits 10 (shortestDigits x).1).length = k + 1 ∧
    (Binary64.round ((shortestDigits x).1 *
      10 ^ ((shortestDigits x).2 - ((k + 1 : ℕ) : ℤ))) = .finite x ∨ k + 1 = 17) := by
  obtain ⟨k, hk, hround⟩ := shortestLength_spec x
  obtain ⟨hlo, hhi, hvalue⟩ := shortestDigits_value hx hk
  exact ⟨k, DecimalText.length_toDigits_eq hlo hhi, hvalue ▸ hround⟩

/-- The nearer digits are half a unit of the last digit away, or less. -/
theorem abs_nearerDigits_sub_le {x : ℚ} (hx : 0 < x) (k : ℕ) :
    |(nearerDigits x k : ℚ) - x * 10 ^ ((k : ℤ) - (Int.log 10 x + 1))| ≤ 1 / 2 := by
  obtain ⟨y, hy⟩ : ∃ y : ℚ, y = x * 10 ^ ((k : ℤ) - (Int.log 10 x + 1)) := ⟨_, rfl⟩
  have hpos : 0 < y := hy ▸ mul_pos hx (zpow_pos (by norm_num) _)
  have hfloor : ((⌊y⌋.toNat : ℕ) : ℚ) = ⌊y⌋ := by
    exact_mod_cast Int.toNat_of_nonneg (Int.floor_nonneg.2 hpos.le)
  have hle := Int.floor_le y
  have hlt := Int.lt_floor_add_one y
  simp only [nearerDigits, ← hy, hfloor]
  split
  · rename_i hlower
    have hhalf : y - ⌊y⌋ ≤ 1 / 2 := hlower.elim le_of_lt fun h => h.1.le
    rw [hfloor, abs_le]
    constructor <;> linarith
  · rename_i hupper
    have hhalf : 1 / 2 ≤ y - ⌊y⌋ := not_lt.1 fun h => hupper (Or.inl h)
    rw [Nat.cast_add_one, hfloor, abs_le]
    constructor <;> linarith

/-- Seventeen digits are near enough to a double. -/
theorem round_nearerDigits {x : ℚ} (hx : 0 < x) (hdouble : Binary64.round x = .finite x) :
    Binary64.round (nearerDigits x 17 * 10 ^ (Int.log 10 x + 1 - ((17 : ℕ) : ℤ))) =
      .finite x := by
  obtain ⟨m, hm⟩ : ∃ m : ℤ, m = ((17 : ℕ) : ℤ) - (Int.log 10 x + 1) := ⟨_, rfl⟩
  obtain ⟨hlo, -⟩ := scaled_bounds hx 16
  have hscaled : (10 : ℚ) ^ 16 ≤ x * 10 ^ m := by
    rw [hm]
    exact hlo
  have herror := abs_nearerDigits_sub_le hx 17
  rw [← hm] at herror
  have hexp : Int.log 10 x + 1 - ((17 : ℕ) : ℤ) = -m := by rw [hm, neg_sub]
  have hunit : (10 : ℚ) ^ m * 10 ^ (-m) = 1 := by
    rw [← zpow_add₀ (by norm_num), add_neg_cancel, zpow_zero]
  have hpos : (0 : ℚ) < 10 ^ (-m) := zpow_pos (by norm_num) _
  rw [hexp]
  refine Binary64.round_of_near hdouble hx ?_
  have hdiff : (nearerDigits x 17 : ℚ) * 10 ^ (-m) - x =
      (nearerDigits x 17 - x * 10 ^ m) * 10 ^ (-m) := by
    rw [sub_mul, mul_assoc x, hunit, mul_one]
  have hx' : x = x * 10 ^ m * 10 ^ (-m) := by rw [mul_assoc, hunit, mul_one]
  rw [hdiff, abs_mul, abs_of_pos hpos]
  -- half a unit of the last digit, of which the number has at least `10 ^ 16`
  calc |(nearerDigits x 17 : ℚ) - x * 10 ^ m| * 10 ^ (-m) ≤ 1 / 2 * 10 ^ (-m) :=
        mul_le_mul_of_nonneg_right herror hpos.le
    _ < 10 ^ 16 / 2 ^ 54 * 10 ^ (-m) := mul_lt_mul_of_pos_right (by norm_num) hpos
    _ ≤ x * 10 ^ m / 2 ^ 54 * 10 ^ (-m) :=
        mul_le_mul_of_nonneg_right (div_le_div_of_nonneg_right hscaled (by norm_num)) hpos.le
    _ = x / 2 ^ 54 := by rw [div_mul_eq_mul_div, ← hx']

theorem decimalCandidate_of_round {x : ℚ} {k : ℕ}
    (h : Binary64.round (nearerDigits x k * 10 ^ (Int.log 10 x + 1 - (k : ℤ))) = .finite x) :
    decimalCandidate x k = nearerDigits x k :=
  if_neg fun hother => hother.1 h

theorem round_decimalCandidate {x : ℚ} (hx : 0 < x) (hdouble : Binary64.round x = .finite x) :
    Binary64.round (decimalCandidate x 17 * 10 ^ (Int.log 10 x + 1 - ((17 : ℕ) : ℤ))) =
      .finite x := by
  have hround := round_nearerDigits hx hdouble
  rwa [decimalCandidate_of_round hround]

/-- **The shortest digits of a double** round to it. -/
theorem shortestDigits_round {x : ℚ} (hx : 0 < x) (hdouble : Binary64.round x = .finite x) :
    ∃ k : ℕ, 10 ^ k ≤ (shortestDigits x).1 ∧ (shortestDigits x).1 < 10 ^ (k + 1) ∧
      Binary64.round ((shortestDigits x).1 *
        10 ^ ((shortestDigits x).2 - ((k + 1 : ℕ) : ℤ))) = .finite x := by
  obtain ⟨k, hk, hround⟩ := shortestLength_spec x
  obtain ⟨hlo, hhi, hvalue⟩ := shortestDigits_value hx hk
  refine ⟨k, hlo, hhi, ?_⟩
  rw [hvalue]
  rcases hround with hround | hmany
  · exact hround
  · rw [hmany]
    exact round_decimalCandidate hx hdouble

/-! ## Texts of natural numbers -/

/-- A text with a character that is no digit is not that of a natural number. -/
theorem ne_toString_of_mem {text : String} {c : Char} (hc : c.isDigit = false)
    (hmem : c ∈ text.toList) (n : ℕ) : text ≠ toString n := by
  rintro rfl
  rw [DecimalText.toList_toString] at hmem
  exact DecimalText.notMem_toDigits hc n hmem

/-- A number whose shortest digits, with zeros after them, are a natural number below `2 ^ 53` is
that number. -/
theorem eq_of_shortestDigits_mul {x : ℚ} (hx : 0 < x) {n i : ℕ} (hn : n < 2 ^ 53)
    (hpoint : (shortestDigits x).2 = (Nat.toDigits 10 (shortestDigits x).1).length + i)
    (h : (shortestDigits x).1 * 10 ^ i = n) : x = n := by
  obtain ⟨k, hlen, hround⟩ := shortestDigits_spec hx
  rw [hlen] at hpoint
  rcases hround with hround | hmany
  · have hcast : ((shortestDigits x).1 : ℚ) *
        10 ^ ((shortestDigits x).2 - ((k + 1 : ℕ) : ℤ)) = n := by
      rw [hpoint, add_sub_cancel_left, zpow_natCast, ← h]
      push_cast
      rfl
    rw [hcast, Binary64.round_natCast hn] at hround
    exact (Binary64.finite.inj hround).symm
  · -- seventeen digits are too many
    have hbig : 10 ^ 16 ≤ (shortestDigits x).1 := by
      by_contra hlt
      have hle := (Nat.length_toDigits_le_iff (b := 10) (k := 16) (by omega) (by omega)).2
        (Nat.not_le.1 hlt)
      omega
    have hle : (shortestDigits x).1 ≤ n := h ▸ Nat.le_mul_of_pos_right _ (by positivity)
    omega

theorem eq_of_placePoint_eq {x : ℚ} (hx : 0 < x) {n : ℕ} (hn : n < 2 ^ 53)
    (h : placePoint (shortestDigits x).1 (shortestDigits x).2 = toString n) : x = n := by
  have hlen : (toString (shortestDigits x).1).length =
      (Nat.toDigits 10 (shortestDigits x).1).length := by
    rw [← String.length_toList, DecimalText.toList_toString]
  unfold placePoint at h
  simp only [hlen] at h
  split at h
  · rename_i hinteger
    have htext := congrArg String.toList h
    rw [String.toList_append, String.toList_ofList, DecimalText.toList_toString,
      DecimalText.toList_toString] at htext
    exact eq_of_shortestDigits_mul hx hn (by omega) (DecimalText.mul_pow_eq_of_append htext)
  -- a text that is no natural number has a point or an exponent
  split at h
  · exact absurd h (ne_toString_of_mem (c := '.') rfl (by simp) n)
  split at h
  · exact absurd h (ne_toString_of_mem (c := '.') rfl (by simp) n)
  split at h
  · exact absurd h (ne_toString_of_mem (c := 'e') rfl (by split <;> simp) n)
  · exact absurd h (ne_toString_of_mem (c := '.') rfl (by simp) n)

/-- A natural number up to `2 ^ 53` is written with its digits. -/
theorem numberToString_natCast {n : ℕ} (hn : n ≤ 2 ^ 53) :
    numberToString (.finite n) = toString n := by
  rw [numberToString_finite]
  split
  · rename_i hzero
    rw [Nat.cast_eq_zero.1 hzero]
    rfl
  · have hle : (n : ℚ) ≤ 2 ^ 53 := by exact_mod_cast hn
    rw [if_neg (not_lt.2 n.cast_nonneg), positiveToString, if_pos ⟨Rat.den_natCast n, hle⟩,
      Rat.num_natCast, DecimalText.toString_of_nonneg (Int.natCast_nonneg n), Int.toNat_natCast]

theorem eq_of_positiveToString_eq {x : ℚ} (hx : 0 < x) {n : ℕ} (hn : n < 2 ^ 53)
    (h : positiveToString x = toString n) : x = n := by
  unfold positiveToString at h
  split at h
  · rename_i hinteger
    have hnum : 0 ≤ x.num := Rat.num_nonneg.2 hx.le
    rw [DecimalText.toString_of_nonneg hnum] at h
    have hn' := DecimalText.toString_nat_injective h
    have hx' : (x.num : ℚ) = x := Rat.coe_int_num_of_den_eq_one hinteger.1
    rw [← hx', ← hn', ← Int.cast_natCast, Int.toNat_of_nonneg hnum]
  · exact eq_of_placePoint_eq hx hn h

/-- **The text of a natural number below `2 ^ 53`** is that of no other number. -/
theorem eq_of_numberToString_eq {x : Binary64} {n : ℕ} (hn : n < 2 ^ 53)
    (h : numberToString x = toString n) : x = .finite n := by
  cases x with
  | finite q =>
    rw [numberToString_finite] at h
    split at h
    · rename_i hzero
      have hn' : 0 = n := DecimalText.toString_nat_injective h
      rw [hzero, ← hn']
      rfl
    split at h
    · exact absurd h (ne_toString_of_mem (c := '-') rfl (by simp) n)
    · rename_i hzero hneg
      rw [eq_of_positiveToString_eq (lt_of_le_of_ne (not_lt.1 hneg) (Ne.symm hzero)) hn h]
  | infinity negative =>
    refine absurd h (ne_toString_of_mem (c := 'I') rfl ?_ n)
    cases negative <;> decide
  | nan => exact absurd h (ne_toString_of_mem (c := 'N') rfl (by decide) n)

/-! ## No delimiters -/

theorem colon_notMem_placePoint (s : ℕ) (n : ℤ) : ':' ∉ (placePoint s n).toList := by
  have hdigits (m : ℕ) : ':' ∉ (toString m).toList := by
    rw [DecimalText.toList_toString]
    exact DecimalText.notMem_toDigits rfl m
  have htake (i : ℕ) : ':' ∉ (toString s).toList.take i := fun h =>
    hdigits s (List.mem_of_mem_take h)
  have hdrop (i : ℕ) : ':' ∉ (toString s).toList.drop i := fun h =>
    hdigits s (List.mem_of_mem_drop h)
  simp only [placePoint]
  split_ifs <;> simp only [String.toList_append, String.toList_ofList, List.mem_append, hdigits,
    htake, hdrop] <;> simp

/-- The text of a number holds no colon. -/
theorem colon_notMem_numberToString (x : Binary64) : ':' ∉ (numberToString x).toList := by
  have hpositive (q : ℚ) : ':' ∉ (positiveToString q).toList := by
    unfold positiveToString
    split
    · exact DecimalText.notMem_toString_int rfl (by decide) _
    · exact colon_notMem_placePoint _ _
  cases x with
  | finite q =>
    rw [numberToString_finite]
    split_ifs <;> simp [hpositive]
  | infinity negative => cases negative <;> decide
  | nan => decide

end OpenTTT
