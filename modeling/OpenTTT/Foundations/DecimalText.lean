import Mathlib.Data.List.Basic
import Mathlib.Data.Int.Notation
import Mathlib.Algebra.Group.Nat.Defs

/-!
# Decimal texts

The decimal text of an integer determines it and holds digits only, after a sign. Texts that are
joined with a delimiter can be told apart if the parts do not hold it, all but one of them:
`eq_of_append_cons_eq` splits at the first delimiter, `eq_of_append_cons_eq_last` at the last.
-/

namespace DecimalText

/-! ## Digits -/

theorem toList_toString (n : ℕ) : (toString n).toList = Nat.toDigits 10 n := by
  rw [Nat.toString_eq_ofList_toDigits, String.toList_ofList]

/-- A number has a text of digits. -/
theorem notMem_toDigits {c : Char} (hc : c.isDigit = false) (n : ℕ) : c ∉ Nat.toDigits 10 n := by
  intro hmem
  rw [Nat.isDigit_of_mem_toDigits (by omega) (by omega) hmem] at hc
  cases hc

theorem toDigits_injective : Function.Injective (Nat.toDigits 10) := by
  intro n m h
  have hvalue := congrArg (fun digits => Nat.ofDigitChars 10 digits 0) h
  simpa only [Nat.ofDigitChars_ten_toDigits] using hvalue

theorem toString_nat_injective : Function.Injective (toString : ℕ → String) := by
  intro n m h
  refine toDigits_injective ?_
  rw [← toList_toString, h, toList_toString]

/-- Zeros after the digits of a number multiply it. -/
theorem mul_pow_eq_of_append {s n i : ℕ}
    (h : Nat.toDigits 10 s ++ List.replicate i '0' = Nat.toDigits 10 n) : s * 10 ^ i = n := by
  have hvalue := congrArg (fun digits => Nat.ofDigitChars 10 digits 0) h
  simp only [Nat.ofDigitChars_append, Nat.ofDigitChars_ten_toDigits,
    Nat.ofDigitChars_replicate_zero] at hvalue
  rw [Nat.mul_comm]
  exact hvalue

/-- The numbers with `k + 1` digits. -/
theorem length_toDigits_eq {s k : ℕ} (hlo : 10 ^ k ≤ s) (hhi : s < 10 ^ (k + 1)) :
    (Nat.toDigits 10 s).length = k + 1 := by
  have hle := (Nat.length_toDigits_le_iff (b := 10) (by omega) k.succ_pos).2 hhi
  cases k with
  | zero => exact Nat.le_antisymm hle Nat.length_toDigits_pos
  | succ k =>
    have hgt : ¬ (Nat.toDigits 10 s).length ≤ k + 1 := fun h =>
      absurd ((Nat.length_toDigits_le_iff (by omega) k.succ_pos).1 h) (Nat.not_lt.2 hlo)
    omega

/-! ## Integers -/

theorem toString_of_nonneg {z : ℤ} (h : 0 ≤ z) : toString z = toString z.toNat := by
  rw [Int.toString_eq_repr, Int.repr_eq_if, if_pos h, Nat.toString_eq_repr]

theorem toString_of_neg {z : ℤ} (h : z < 0) : toString z = "-" ++ toString (-z).toNat := by
  rw [Int.toString_eq_repr, Int.repr_eq_if, if_neg (Int.not_le.2 h), Nat.toString_eq_repr]

/-- The text of an integer holds digits only, after a sign. -/
theorem notMem_toString_int {c : Char} (hc : c.isDigit = false) (hsign : c ≠ '-') (z : ℤ) :
    c ∉ (toString z).toList := by
  rcases Int.lt_or_le z 0 with hneg | hpos
  · rw [toString_of_neg hneg, String.toList_append, toList_toString, List.mem_append]
    rintro (hmem | hmem)
    · exact hsign (List.mem_singleton.1 hmem)
    · exact notMem_toDigits hc _ hmem
  · rw [toString_of_nonneg hpos, toList_toString]
    exact notMem_toDigits hc _

theorem toString_int_ne {z w : ℤ} (hz : z < 0) (hw : 0 ≤ w) : toString z ≠ toString w := by
  intro h
  have hsign : '-' ∈ (toString w).toList := by
    rw [← h, toString_of_neg hz, String.toList_append]
    exact List.mem_append_left _ List.mem_cons_self
  rw [toString_of_nonneg hw, toList_toString] at hsign
  exact notMem_toDigits rfl _ hsign

theorem toString_int_injective : Function.Injective (toString : ℤ → String) := by
  intro z w h
  rcases Int.lt_or_le z 0 with hz | hz <;> rcases Int.lt_or_le w 0 with hw | hw
  · rw [toString_of_neg hz, toString_of_neg hw, ← String.toList_inj, String.toList_append,
      String.toList_append, List.append_cancel_left_eq, String.toList_inj] at h
    have habs := toString_nat_injective h
    omega
  · exact absurd h (toString_int_ne hz hw)
  · exact absurd h.symm (toString_int_ne hw hz)
  · rw [toString_of_nonneg hz, toString_of_nonneg hw] at h
    have habs := toString_nat_injective h
    omega

/-! ## Delimiters -/

section Delimiters

variable {α : Type*} {c : α}

/-- A list is split at its first delimiter in one way. -/
theorem eq_of_append_cons_eq {a b x y : List α} (ha : c ∉ a) (hb : c ∉ b)
    (h : a ++ c :: x = b ++ c :: y) : a = b ∧ x = y := by
  induction a generalizing b with
  | nil =>
    cases b with
    | nil => exact ⟨rfl, (List.cons.inj h).2⟩
    | cons d b => exact absurd (List.cons.inj h).1 fun hd => hb (hd ▸ List.mem_cons_self)
  | cons d a ih =>
    cases b with
    | nil => exact absurd (List.cons.inj h).1 fun hd => ha (hd ▸ List.mem_cons_self)
    | cons e b =>
      obtain ⟨rfl, htail⟩ := List.cons.inj h
      obtain ⟨rfl, rfl⟩ := ih (fun hmem => ha (List.mem_cons_of_mem _ hmem))
        (fun hmem => hb (List.mem_cons_of_mem _ hmem)) htail
      exact ⟨rfl, rfl⟩

/-- A list is split at its last delimiter in one way. -/
theorem eq_of_append_cons_eq_last {a b x y : List α} (hx : c ∉ x) (hy : c ∉ y)
    (h : a ++ c :: x = b ++ c :: y) : a = b ∧ x = y := by
  have hrev := congrArg List.reverse h
  simp only [List.reverse_append, List.reverse_cons, List.append_assoc, List.cons_append,
    List.nil_append] at hrev
  obtain ⟨htail, hhead⟩ := eq_of_append_cons_eq (fun hmem => hx (List.mem_reverse.1 hmem))
    (fun hmem => hy (List.mem_reverse.1 hmem)) hrev
  exact ⟨List.reverse_injective hhead, List.reverse_injective htail⟩

end Delimiters

end DecimalText
