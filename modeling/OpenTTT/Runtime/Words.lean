import Mathlib.Data.UInt
import Mathlib.Data.List.MinMax

/-!
# Machine words

The operations on `u64` that the Rust code uses beside the arithmetic of `UInt64`, which wraps
around: saturating addition and subtraction, arithmetic that reports an overflow, and the bytes of a
word, the most significant first.
-/

namespace OpenTTT

/-- `a.saturating_sub(b)`. -/
def saturatingSub (a b : UInt64) : UInt64 := if b ≤ a then a - b else 0

/-- `a.saturating_add(b)`. -/
def saturatingAdd (a b : UInt64) : UInt64 :=
  if a.toNat + b.toNat < 2 ^ 64 then a + b else UInt64.ofNat (2 ^ 64 - 1)

@[simp] theorem toNat_saturatingSub (a b : UInt64) :
    (saturatingSub a b).toNat = a.toNat - b.toNat := by
  unfold saturatingSub
  split
  · rename_i h
    exact UInt64.toNat_sub_of_le a b h
  · rename_i h
    rw [UInt64.le_iff_toNat_le] at h
    have h0 : (0 : UInt64).toNat = 0 := rfl
    omega

@[simp] theorem toNat_saturatingAdd (a b : UInt64) :
    (saturatingAdd a b).toNat = min (a.toNat + b.toNat) (2 ^ 64 - 1) := by
  unfold saturatingAdd
  split
  · rename_i h
    rw [UInt64.toNat_add, Nat.mod_eq_of_lt h]
    omega
  · rw [UInt64.toNat_ofNat']
    omega

/-- `a + b`, with `none` for an overflow: a panic in a debug build, a sum that wraps around in a
release build. -/
def checkedAdd (a b : UInt64) : Option UInt64 :=
  if a.toNat + b.toNat < 2 ^ 64 then some (a + b) else none

/-- `a - b`, with `none` for an overflow. -/
def checkedSub (a b : UInt64) : Option UInt64 := if b ≤ a then some (a - b) else none

/-- `a * b`, with `none` for an overflow. -/
def checkedMul (a b : UInt64) : Option UInt64 :=
  if a.toNat * b.toNat < 2 ^ 64 then some (a * b) else none

theorem checkedAdd_eq_some {a b c : UInt64} :
    checkedAdd a b = some c ↔ a.toNat + b.toNat < 2 ^ 64 ∧ c = a + b := by
  unfold checkedAdd
  split <;> simp_all [eq_comm]

theorem checkedSub_eq_some {a b c : UInt64} : checkedSub a b = some c ↔ b ≤ a ∧ c = a - b := by
  unfold checkedSub
  split <;> simp_all [eq_comm]

theorem checkedMul_eq_some {a b c : UInt64} :
    checkedMul a b = some c ↔ a.toNat * b.toNat < 2 ^ 64 ∧ c = a * b := by
  unfold checkedMul
  split <;> simp_all [eq_comm]

/-- The mean of two words whose sum is a word. -/
theorem toNat_mean {a b : UInt64} (h : a.toNat + b.toNat < 2 ^ 64) :
    ((a + b) / 2).toNat = (a.toNat + b.toNat) / 2 := by
  rw [UInt64.toNat_div, UInt64.toNat_add, Nat.mod_eq_of_lt h]
  rfl

/-- The `width` lowest bytes of a number, the most significant first. -/
def toBeBytes (width n : ℕ) : List UInt8 :=
  (List.range width).reverse.map fun i => UInt8.ofNat (n / 256 ^ i)

instance lawfulOrderMaxUInt64 : Std.LawfulOrderMax UInt64 where
  max_le_iff a b c := by
    change (if a ≤ b then b else a) ≤ c ↔ _
    simp only [UInt64.le_iff_toNat_le]
    split <;> omega
  max_eq_or a b := by
    change (if a ≤ b then b else a) = a ∨ (if a ≤ b then b else a) = b
    split <;> simp

/-- The smallest of some words is at most each of them. -/
theorem min?_getD_le {l : List UInt64} {x : UInt64} (h : x ∈ l) (d : UInt64) :
    (l.min?.getD d).toNat ≤ x.toNat := by
  cases hm : l.min? with
  | none =>
    rw [List.min?_eq_none_iff] at hm
    simp [hm] at h
  | some m =>
    have hle := (List.min?_eq_some_iff.1 hm).2 x h
    exact UInt64.le_iff_toNat_le.1 hle

/-- The largest of some words is at least each of them. -/
theorem le_max?_getD {l : List UInt64} {x : UInt64} (h : x ∈ l) (d : UInt64) :
    x.toNat ≤ (l.max?.getD d).toNat := by
  cases hm : l.max? with
  | none =>
    rw [List.max?_eq_none_iff] at hm
    simp [hm] at h
  | some m =>
    have hle := (List.max?_eq_some_iff.1 hm).2 x h
    exact UInt64.le_iff_toNat_le.1 hle

end OpenTTT
