import OpenTTT.Time.Median

/-!
# Readings that agree with their median

Both generators of proofs of time combine readings into one timestamp, and both verifiers compare
every reading with it. Whether all readings are within given tolerances of the combined timestamp
can be told from the readings alone (`within_combine_iff`): for two readings it is a matter of the
distance between them, otherwise every reading needs enough of the others within its tolerance on
either side (`Agree`).
-/

namespace OpenTTT

open OrderStatistic

/-- Readings agree up to the tolerances `w` if, of two, twice the tolerance of each covers the
distance between them (up to the parity of their sum, which the mean rounds away); and otherwise, if
for every reading more than half of all, rounded down, are at most its tolerance later, and at most
half, rounded down, are more than its tolerance earlier. -/
def Agree (readings : List TimeReading) (w : TimeReading → ℤ) : Prop :=
  if readings.length = 2 then
    ∀ r ∈ readings, |2 * r.timestamp - (readings.map TimeReading.timestamp).sum +
      (readings.map TimeReading.timestamp).sum.tmod 2| ≤ 2 * w r
  else
    ∀ r ∈ readings,
      readings.length / 2 < readings.countP (fun s => decide (s.timestamp ≤ r.timestamp + w r)) ∧
      readings.countP (fun s => decide (s.timestamp < r.timestamp - w r)) ≤ readings.length / 2

instance decidableAgree (readings : List TimeReading) (w : TimeReading → ℤ) :
    Decidable (Agree readings w) := by
  unfold Agree
  exact inferInstance

theorem sortReadings_perm (readings : List TimeReading) :
    (sortReadings readings).Perm readings := List.perm_insertionSort _ _

/-- Two readings are combined into their mean. -/
theorem combine_of_two {sorted : List TimeReading} {c : Combined} (hlen : sorted.length = 2)
    (hc : combine sorted = some c) :
    c.timestamp = (sorted.map TimeReading.timestamp).sum.tdiv 2 := by
  obtain ⟨r₀, r₁, rfl⟩ := List.length_eq_two.1 hlen
  cases hc
  simp

/-- Other numbers of readings are combined into the one in the middle. -/
theorem combine_of_ne_two {sorted : List TimeReading} {c : Combined} (hlen : sorted.length ≠ 2)
    (hc : combine sorted = some c) :
    (sorted.map TimeReading.timestamp)[sorted.length / 2]? = some c.timestamp := by
  match sorted with
  | [] => cases hc
  | [r] =>
    cases hc
    simp
  | [r₀, r₁] => exact absurd rfl hlen
  | r₀ :: r₁ :: r₂ :: rest =>
    rw [combine_of_three] at hc
    obtain ⟨r, hr, rfl⟩ := Option.map_eq_some_iff.1 hc
    rw [List.getElem?_map, hr]
    rfl

/-- A distance from a truncated mean. -/
theorem abs_sub_tdiv_two_le_iff (t s w : ℤ) :
    |t - s.tdiv 2| ≤ w ↔ |2 * t - s + s.tmod 2| ≤ 2 * w := by
  have hsum := Int.mul_tdiv_add_tmod s 2
  have htwice : 2 * t - s + s.tmod 2 = 2 * (t - s.tdiv 2) := by omega
  rw [htwice, abs_mul, abs_two]
  omega

/-- The distance as the verifiers compute it. -/
theorem ite_sub_eq_abs (a b : ℤ) : (if a > b then a - b else b - a) = |a - b| := by
  split
  · rw [abs_of_pos (by omega)]
  · rw [abs_of_nonpos (by omega)]
    omega

/-- **All readings are within their tolerance of the combined timestamp** if and only if they
agree. -/
theorem within_combine_iff {readings : List TimeReading} {c : Combined}
    (hc : combine (sortReadings readings) = some c) (w : TimeReading → ℤ) :
    (∀ r ∈ readings, |r.timestamp - c.timestamp| ≤ w r) ↔ Agree readings w := by
  have hlen := length_sortReadings readings
  have hperm := perm_sortReadings readings
  have hsorted := sorted_sortReadings readings
  unfold Agree
  split
  · rename_i htwo
    rw [combine_of_two (hlen.trans htwo) hc, hperm.sum_eq]
    refine forall₂_congr fun r _ => ?_
    exact abs_sub_tdiv_two_le_iff r.timestamp _ (w r)
  · rename_i hother
    have hmid := combine_of_ne_two (fun htwo => hother (hlen ▸ htwo)) hc
    rw [hlen] at hmid
    obtain ⟨hk, hget⟩ := List.getElem?_eq_some_iff.1 hmid
    refine forall₂_congr fun r _ => ?_
    have hle : c.timestamp ≤ r.timestamp + w r ↔ readings.length / 2 <
        readings.countP fun s => decide (s.timestamp ≤ r.timestamp + w r) := by
      rw [← hget, getElem_le_iff hsorted hk, hperm.countP_eq, List.countP_map]
      rfl
    have hge : r.timestamp - w r ≤ c.timestamp ↔
        readings.countP (fun s => decide (s.timestamp < r.timestamp - w r)) ≤
          readings.length / 2 := by
      rw [← hget, le_getElem_iff hsorted hk, hperm.countP_eq, List.countP_map]
      rfl
    rw [← hle, ← hge, abs_le]
    constructor
    · rintro ⟨hlo, hhi⟩
      exact ⟨by omega, by omega⟩
    · rintro ⟨hlo, hhi⟩
      exact ⟨by omega, by omega⟩

/-- Readings agree if each is within its tolerance of all others. -/
theorem agree_of_near {readings : List TimeReading} (hne : readings ≠ []) {w : TimeReading → ℤ}
    (h : ∀ r ∈ readings, ∀ s ∈ readings, |r.timestamp - s.timestamp| ≤ w r) : Agree readings w := by
  obtain ⟨c, hc⟩ := combine_sortReadings_isSome (List.length_pos_iff_ne_nil.2 hne)
  refine (within_combine_iff hc w).1 fun r hr => ?_
  -- the combined timestamp lies between two readings
  have hcard : 2 * (∅ : Finset (Fin (readings.map TimeReading.timestamp).length)).card <
      readings.length := by
    simpa using List.length_pos_iff_ne_nil.2 hne
  obtain ⟨⟨i, -, hi⟩, j, -, hj⟩ := betweenCorrect_combine hc hcard
  obtain ⟨s, hs, hsi⟩ := List.mem_map.1 (List.getElem_mem i.isLt)
  obtain ⟨t, ht, htj⟩ := List.mem_map.1 (List.getElem_mem j.isLt)
  have hlo := abs_le.1 (h r hr s hs)
  have hhi := abs_le.1 (h r hr t ht)
  rw [Fin.getElem_fin, ← hsi] at hi
  rw [Fin.getElem_fin, ← htj] at hj
  rw [abs_le]
  omega

end OpenTTT
