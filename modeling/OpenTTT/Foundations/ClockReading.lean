import Mathlib.Algebra.Order.Field.Basic
import Mathlib.Tactic.Linarith
import Mathlib.Tactic.Ring

/-!
# Readings of a distant clock

What a client knows of the time when the answer of a server arrives. The server reads its clock at
an instant `s`, after the sending `a` and before the receipt `b`, and the client takes what it is
told as the time at the middle of the exchange, or as the time of the receipt.

Both lemmas say exactly when an uncertainty covers the time of the receipt: a margin has to make up
for what the reading loses, less what the exchange has left over at the other end.
-/

namespace ClockReading

variable {K : Type*} [Field K] [LinearOrder K] [IsStrictOrderedRing K]

/-- **The middle of the exchange**: the server tells `s'`, its time rounded down. Half the round
trip and a margin cover the time of the receipt if and only if the margin and the way to the server
make up for what the rounding loses. -/
theorem abs_sub_middle_le_iff {a s b s' m : K} (hsb : s ≤ b) (hs' : s' ≤ s) (hm : 0 ≤ m) :
    |b - (s' + (b - a) / 2)| ≤ (b - a) / 2 + m ↔ s - s' ≤ m + (s - a) := by
  have hmiddle : b - (s' + (b - a) / 2) = (b - a) / 2 + (s - s' - (s - a)) := by ring
  rw [hmiddle, abs_le]
  constructor
  · rintro ⟨-, hle⟩
    linarith
  · intro hle
    constructor <;> linarith

/-- **The time of the receipt**: the server tells a time `c` that is off by at most `r`, and the
answer takes the time `d`. The radius and a margin cover the time of the receipt if and only if the
margin and what is left of the radius at its upper end make up for the way back. -/
theorem abs_add_sub_le_iff {c r s d m : K} (hs : |s - c| ≤ r) (hd : 0 ≤ d) (hm : 0 ≤ m) :
    |s + d - c| ≤ r + m ↔ d ≤ m + (c + r - s) := by
  rw [abs_le] at hs ⊢
  constructor
  · rintro ⟨-, hle⟩
    linarith
  · intro hle
    constructor <;> linarith [hs.1]

end ClockReading
