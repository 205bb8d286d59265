import OpenTTT.Foundations.Binary64
import OpenTTT.Foundations.Hysteresis
import Mathlib.Data.List.Count

/-!
# The match rate of a window

Both adaptive switches keep the outcomes of the last 20 blocks and compare their rate of matches,
a quotient of two counts in double precision, with a threshold of 0.95 or of 0.85. On a full
window these comparisons are those of the exact rates: `entry_le_matchRate_iff` and
`maintain_le_matchRate_iff` turn them into counts.

`Entered` and `Maintained` are the two conditions in terms of the outcomes so far, and `InTurbo`
the hysteresis they make.
-/

namespace OpenTTT

/-- The rate of matches of a history, 0 for an empty one. -/
def matchRate (history : List Bool) : Binary64 :=
  if history = [] then .finite 0
  else Binary64.div (Binary64.ofNat (history.count true)) (Binary64.ofNat history.length)

/-- The double 0.95. -/
def turboEntryRate : Binary64 := Binary64.round (95 / 100)

/-- The double 0.85. -/
def turboMaintainRate : Binary64 := Binary64.round (85 / 100)

/-- The rounded quotients `c / 20` lie on the side of the two thresholds on which the exact ones
lie. -/
theorem thresholds_of_twenty : ∀ c < 21,
    turboEntryRate.le (Binary64.div (Binary64.ofNat c) (Binary64.ofNat 20)) = decide (19 ≤ c) ∧
      turboMaintainRate.le (Binary64.div (Binary64.ofNat c) (Binary64.ofNat 20)) =
        decide (17 ≤ c) ∧
      (Binary64.div (Binary64.ofNat c) (Binary64.ofNat 20)).lt turboEntryRate = decide (c < 19) ∧
      (Binary64.div (Binary64.ofNat c) (Binary64.ofNat 20)).lt turboMaintainRate =
        decide (c < 17) := by
  decide +kernel

theorem matchRate_of_length {history : List Bool} (h : history.length = 20) :
    matchRate history =
      Binary64.div (Binary64.ofNat (history.count true)) (Binary64.ofNat 20) := by
  have hne : history ≠ [] := by
    rintro rfl
    simp at h
  rw [matchRate, if_neg hne, h]

theorem count_lt_of_length {history : List Bool} (h : history.length = 20) :
    history.count true < 21 := by
  have hle := List.count_le_length (a := true) (l := history)
  omega

theorem entry_le_matchRate_iff {history : List Bool} (h : history.length = 20) :
    turboEntryRate.le (matchRate history) = true ↔ 19 ≤ history.count true := by
  obtain ⟨hle, -, -, -⟩ := thresholds_of_twenty _ (count_lt_of_length h)
  rw [matchRate_of_length h, hle, decide_eq_true_iff]

theorem maintain_le_matchRate_iff {history : List Bool} (h : history.length = 20) :
    turboMaintainRate.le (matchRate history) = true ↔ 17 ≤ history.count true := by
  obtain ⟨-, hle, -, -⟩ := thresholds_of_twenty _ (count_lt_of_length h)
  rw [matchRate_of_length h, hle, decide_eq_true_iff]

theorem matchRate_lt_entry_iff {history : List Bool} (h : history.length = 20) :
    (matchRate history).lt turboEntryRate = true ↔ history.count true < 19 := by
  obtain ⟨-, -, hlt, -⟩ := thresholds_of_twenty _ (count_lt_of_length h)
  rw [matchRate_of_length h, hlt, decide_eq_true_iff]

theorem matchRate_lt_maintain_iff {history : List Bool} (h : history.length = 20) :
    (matchRate history).lt turboMaintainRate = true ↔ history.count true < 17 := by
  obtain ⟨-, -, -, hlt⟩ := thresholds_of_twenty _ (count_lt_of_length h)
  rw [matchRate_of_length h, hlt, decide_eq_true_iff]

/-! ## The hysteresis -/

/-- A full window with 19 matches. -/
def Entered (outcomes : List Bool) : Prop :=
  20 ≤ outcomes.length ∧ 19 ≤ (outcomes.rtake 20).count true

/-- A full window with 17 matches. -/
def Maintained (outcomes : List Bool) : Prop :=
  20 ≤ outcomes.length ∧ 17 ≤ (outcomes.rtake 20).count true

/-- The window was entered, and has been maintained since. -/
def InTurbo (outcomes : List Bool) : Prop := Hysteresis.On Entered Maintained outcomes

theorem Entered.maintained {outcomes : List Bool} (h : Entered outcomes) : Maintained outcomes :=
  ⟨h.1, by have := h.2; omega⟩

theorem not_inTurbo_nil : ¬ InTurbo [] := Hysteresis.not_on_nil fun h => by simpa using h.1

theorem inTurbo_concat (outcomes : List Bool) (ok : Bool) :
    InTurbo (outcomes ++ [ok]) ↔
      Entered (outcomes ++ [ok]) ∨ InTurbo outcomes ∧ Maintained (outcomes ++ [ok]) :=
  Hysteresis.on_concat (fun _ => Entered.maintained) outcomes ok

/-- From one change to the next the window gains or loses three matches, one with each block. -/
theorem inTurbo_changes_apart {outcomes : List Bool} {i j : ℕ} (hij : i < j)
    (hi : ¬ (InTurbo (outcomes.take (i + 1)) ↔ InTurbo (outcomes.take i)))
    (hj : ¬ (InTurbo (outcomes.take (j + 1)) ↔ InTurbo (outcomes.take j))) : i + 3 ≤ j :=
  Hysteresis.changes_apart (p := (· == true)) (n := 20) (by decide : 17 ≤ 19) hij hi hj

theorem twenty_le_length_rtake_iff {outcomes : List Bool} :
    20 ≤ (outcomes.rtake 20).length ↔ 20 ≤ outcomes.length := by
  rw [SlidingWindow.length_rtake]
  omega

theorem length_rtake_of_le {outcomes : List Bool} (h : 20 ≤ outcomes.length) :
    (outcomes.rtake 20).length = 20 := by
  rw [SlidingWindow.length_rtake]
  omega

/-- A full window at the maintain threshold. -/
theorem maintain_test_iff (outcomes : List Bool) :
    ((outcomes.rtake 20).length ≥ 20 ∧
      turboMaintainRate.le (matchRate (outcomes.rtake 20)) = true) ↔ Maintained outcomes := by
  rw [ge_iff_le, twenty_le_length_rtake_iff]
  exact and_congr_right fun h => maintain_le_matchRate_iff (length_rtake_of_le h)

/-- A full window at the entry threshold. -/
theorem entry_test_iff (outcomes : List Bool) :
    ((outcomes.rtake 20).length ≥ 20 ∧
      turboEntryRate.le (matchRate (outcomes.rtake 20)) = true) ↔ Entered outcomes := by
  rw [ge_iff_le, twenty_le_length_rtake_iff]
  exact and_congr_right fun h => entry_le_matchRate_iff (length_rtake_of_le h)

/-- **The test of a block**, whose threshold depends on the mode before, is the hysteresis. -/
theorem test_iff_inTurbo {outcomes : List Bool} {turbo : Prop} [Decidable turbo]
    (hmode : turbo ↔ InTurbo outcomes) (ok : Bool) :
    ((outcomes ++ [ok]).rtake 20).length ≥ 20 ∧
      (if turbo then turboMaintainRate else turboEntryRate).le
        (matchRate ((outcomes ++ [ok]).rtake 20)) = true ↔ InTurbo (outcomes ++ [ok]) := by
  rw [inTurbo_concat]
  by_cases hturbo : turbo
  · rw [if_pos hturbo, maintain_test_iff]
    constructor
    · exact fun hm => Or.inr ⟨hmode.1 hturbo, hm⟩
    · exact fun hm => hm.elim Entered.maintained And.right
  · rw [if_neg hturbo, entry_test_iff]
    constructor
    · exact Or.inl
    · exact fun hm => hm.elim id fun hon => absurd (hmode.2 hon.1) hturbo

/-- **The conditions window by window**: after `k` blocks the window consists of the outcomes
`k - 20` to `k - 1`. -/
theorem inTurbo_iff (outcomes : List Bool) : InTurbo outcomes ↔
    ∃ k, 20 ≤ k ∧ k ≤ outcomes.length ∧ 19 ≤ ((outcomes.take k).drop (k - 20)).count true ∧
      ∀ j, k ≤ j → j ≤ outcomes.length →
        17 ≤ ((outcomes.take j).drop (j - 20)).count true := by
  have hwindow : ∀ j ≤ outcomes.length,
      (outcomes.take j).rtake 20 = (outcomes.take j).drop (j - 20) := by
    intro j hj
    rw [List.rtake, List.length_take_of_le hj]
  constructor
  · rintro ⟨k, hk, ⟨hlen, henter⟩, hall⟩
    rw [List.length_take_of_le hk] at hlen
    refine ⟨k, hlen, hk, hwindow k hk ▸ henter, fun j hkj hj => ?_⟩
    exact hwindow j hj ▸ (hall j hkj hj).2
  · rintro ⟨k, hlen, hk, henter, hall⟩
    refine ⟨k, hk, ⟨?_, (hwindow k hk).symm ▸ henter⟩, fun j hkj hj => ⟨?_, ?_⟩⟩
    · rwa [List.length_take_of_le hk]
    · rw [List.length_take_of_le hj]
      omega
    · exact (hwindow j hj).symm ▸ hall j hkj hj

end OpenTTT
