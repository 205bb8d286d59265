import Mathlib.Algebra.Group.Nat.Defs
import Mathlib.Control.Lawful
import Mathlib.Data.List.Range

/-!
# Code that may panic

A function that returns an option, and that can panic before it returns: an index out of bounds, or
a sum, a difference or a product out of the range of `usize`, which has 64 bits. `none` is a panic,
`some none` an early return of `None`, and `some (some a)` goes on with `a`.

The arithmetic, the indices and the slices of this monad are those of the language. Each of them has
a lemma for the case that it does not panic, and `foldlM_range'` is the rule for a loop over a range
of which no step panics.
-/

namespace Panicking

/-- A computation that may panic or return early. -/
abbrev Attempt (α : Type) : Type := OptionT Option α

variable {α σ : Type}

/-- A panic. -/
def panicked : Attempt α := OptionT.mk none

/-- A call whose `None` the caller looks at instead of passing it on. -/
def caught (x : Attempt α) : Attempt (Option α) := OptionT.mk (x.run.map some)

/-- `a + b`. -/
def usizeAdd (a b : ℕ) : Attempt ℕ := if a + b < 2 ^ 64 then pure (a + b) else panicked

/-- `a - b`. -/
def usizeSub (a b : ℕ) : Attempt ℕ := if b ≤ a then pure (a - b) else panicked

/-- `a * b`. -/
def usizeMul (a b : ℕ) : Attempt ℕ := if a * b < 2 ^ 64 then pure (a * b) else panicked

/-- `l[i]`. -/
def index (l : List α) (i : ℕ) : Attempt α :=
  match l[i]? with
  | some x => pure x
  | none => panicked

/-- `l[i] = x`. -/
def assign (l : List α) (i : ℕ) (x : α) : Attempt (List α) :=
  if i < l.length then pure (l.set i x) else panicked

/-- `&l[start..stop]`. -/
def slice (l : List α) (start stop : ℕ) : Attempt (List α) :=
  if start ≤ stop ∧ stop ≤ l.length then pure ((l.take stop).drop start) else panicked

theorem usizeAdd_eq {a b : ℕ} (h : a + b < 2 ^ 64) : usizeAdd a b = pure (a + b) := if_pos h

theorem usizeSub_eq {a b : ℕ} (h : b ≤ a) : usizeSub a b = pure (a - b) := if_pos h

theorem usizeMul_eq {a b : ℕ} (h : a * b < 2 ^ 64) : usizeMul a b = pure (a * b) := if_pos h

theorem index_eq {l : List α} {i : ℕ} {x : α} (h : l[i]? = some x) : index l i = pure x := by
  rw [index, h]

theorem assign_eq {l : List α} {i : ℕ} (h : i < l.length) (x : α) :
    assign l i x = pure (l.set i x) := if_pos h

theorem slice_eq {l : List α} {start stop : ℕ} (h : start ≤ stop) (hlen : stop ≤ l.length) :
    slice l start stop = pure ((l.take stop).drop start) := if_pos ⟨h, hlen⟩

theorem caught_of_run {x : Attempt α} {r : Option α} (h : x.run = some r) :
    caught x = pure r := by
  rw [caught, h]
  rfl

/-- A call that does not panic, and what is done with its value. -/
theorem run_bind {β : Type} {x : Attempt α} {r : Option α} (hx : x.run = some r)
    {f : α → Attempt β} {g : α → Option β} (hf : ∀ a, (f a).run = some (g a)) :
    (x >>= f).run = some (r.bind g) := by
  rw [OptionT.run_bind, hx]
  cases r with
  | none => rfl
  | some a => exact hf a

/-- **A loop over a range**: what holds of the state before every step. -/
theorem foldlM_range' {step : σ → ℕ → Attempt σ} (state : ℕ → σ) {start n : ℕ}
    (h : ∀ i, start ≤ i → i < start + n → step (state i) i = pure (state (i + 1))) :
    (List.range' start n).foldlM step (state start) = pure (state (start + n)) := by
  induction n generalizing start with
  | zero => rfl
  | succ n ih =>
    have hfirst := h start le_rfl (by omega)
    have hrest : (List.range' (start + 1) n).foldlM step (state (start + 1)) =
        pure (state (start + 1 + n)) := ih fun i hi hlt => h i (by omega) (by omega)
    rw [List.range'_succ, List.foldlM_cons, hfirst, pure_bind, hrest, Nat.add_right_comm,
      Nat.add_assoc]

end Panicking
