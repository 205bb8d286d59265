import Mathlib.Data.List.Basic

/-!
# Computations that throw and keep their state

A task reads and writes a state and may throw; what it has written before it throws stays written,
as in a language with exceptions and mutable objects. `bind_of_ok`, `bind_of_error`, `orElse_of_ok`
and `orElse_of_error` run a task step by step.

`Keeps` relates the states before and after a task, however it ends, by a relation that composes.

`tryEach` is the loop that tries candidates in turn until one does not throw. `tryEach_cases` says
how it ends when it is known of each candidate whether it throws, what holds when it does not, and
what a candidate that throws leaves behind; the latter is a relation that composes.
-/

namespace Throwing

/-- A computation with exceptions over a state that outlives them. -/
def Task (ε σ α : Type*) := σ → Except ε α × σ

namespace Task

variable {ε σ α β ι : Type}

/-- A step whose result is known and that writes nothing. -/
def answer (x : Except ε α) : Task ε σ α := fun s => (x, s)

/-- A step that writes. -/
def write (f : σ → σ) : Task ε σ Unit := fun s => (.ok (), f s)

/-- A step that reads. -/
def read (f : σ → α) : Task ε σ α := fun s => (.ok (f s), s)

/-- `throw`. -/
def raise (e : ε) : Task ε σ α := answer (.error e)

def andThen (x : Task ε σ α) (f : α → Task ε σ β) : Task ε σ β := fun s =>
  match x s with
  | (.ok a, t) => f a t
  | (.error e, t) => (.error e, t)

instance : Monad (Task ε σ) where
  pure a := answer (.ok a)
  bind := andThen

/-- `try x catch f`. -/
def orElse (x : Task ε σ α) (f : ε → Task ε σ α) : Task ε σ α := fun s =>
  match x s with
  | (.ok a, t) => (.ok a, t)
  | (.error e, t) => f e t

theorem pure_apply (a : α) (s : σ) : (pure a : Task ε σ α) s = (.ok a, s) := rfl

theorem bind_of_ok {x : Task ε σ α} {f : α → Task ε σ β} {s t : σ} {a : α}
    (h : x s = (.ok a, t)) : (x >>= f) s = f a t := by
  change andThen x f s = f a t
  rw [andThen, h]

theorem bind_of_error {x : Task ε σ α} {f : α → Task ε σ β} {s t : σ} {e : ε}
    (h : x s = (.error e, t)) : (x >>= f) s = (.error e, t) := by
  change andThen x f s = (.error e, t)
  rw [andThen, h]

theorem orElse_of_ok {x : Task ε σ α} {f : ε → Task ε σ α} {s t : σ} {a : α}
    (h : x s = (.ok a, t)) : orElse x f s = (.ok a, t) := by
  rw [orElse, h]

theorem orElse_of_error {x : Task ε σ α} {f : ε → Task ε σ α} {s t : σ} {e : ε}
    (h : x s = (.error e, t)) : orElse x f s = f e t := by
  rw [orElse, h]

/-! ## Trying in turn -/

/-- Runs the candidates in turn until one does not throw; whether there was one. -/
def tryEach (body : ι → Task ε σ Unit) : List ι → Task ε σ Bool
  | [] => pure false
  | i :: is => orElse (do body i; return true) fun _ => tryEach body is

/-- **The rule of the loop.** `Good` are the candidates that do not throw, after which `Done` holds.
`Failed p` relates the states around candidates that throw, `p` telling whether a `Made` one was
among them. -/
theorem tryEach_cases {body : ι → Task ε σ Unit} {Good Made : ι → Prop} {Done : σ → Prop}
    {Failed : Prop → σ → σ → Prop} (hrefl : ∀ s, Failed False s s)
    (htrans : ∀ p q s t u, Failed p s t → Failed q t u → Failed (p ∨ q) s u)
    (hbody : ∀ i s, (Good i ∧ ∃ t, body i s = (.ok (), t) ∧ Done t) ∨
      ¬ Good i ∧ ∃ e t, body i s = (.error e, t) ∧ Failed (Made i) s t) (is : List ι) (s : σ) :
    ((∃ i ∈ is, Good i) ∧ ∃ t, tryEach body is s = (.ok true, t) ∧ Done t) ∨
      (¬ ∃ i ∈ is, Good i) ∧
        ∃ t, tryEach body is s = (.ok false, t) ∧ Failed (∃ i ∈ is, Made i) s t := by
  induction is generalizing s with
  | nil => exact Or.inr ⟨by simp, s, rfl, by simpa using hrefl s⟩
  | cons i is ih =>
    rcases hbody i s with ⟨hgood, t, hrun, hdone⟩ | ⟨hbad, e, t, hrun, hfailed⟩
    · refine Or.inl ⟨⟨i, List.mem_cons_self, hgood⟩, t, ?_, hdone⟩
      rw [tryEach]
      exact orElse_of_ok ((bind_of_ok hrun).trans (pure_apply true t))
    · have hnext : tryEach body (i :: is) s = tryEach body is t := by
        rw [tryEach]
        exact orElse_of_error (bind_of_error hrun)
      rw [hnext]
      simp only [List.mem_cons, exists_eq_or_imp]
      rcases ih t with ⟨hex, u, hrest, hdone⟩ | ⟨hnone, u, hrest, hrestFailed⟩
      · exact Or.inl ⟨Or.inr hex, u, hrest, hdone⟩
      · refine Or.inr ⟨by simp [hbad, hnone], u, hrest, htrans _ _ _ _ _ hfailed hrestFailed⟩

/-! ## What a task keeps -/

/-- A relation between earlier and later states. -/
structure Composes (R : σ → σ → Prop) : Prop where
  refl : ∀ s, R s s
  trans : ∀ s t u, R s t → R t u → R s u

/-- However the task ends, the states before and after it are related. -/
def Keeps (R : σ → σ → Prop) (x : Task ε σ α) : Prop := ∀ s, R s (x s).2

section Keeps

variable {R : σ → σ → Prop}

theorem keeps_answer (hR : Composes R) (x : Except ε α) : Keeps R (answer x : Task ε σ α) :=
  hR.refl

theorem keeps_read (hR : Composes R) (f : σ → α) : Keeps R (read f : Task ε σ α) := hR.refl

theorem Keeps.bind (hR : Composes R) {x : Task ε σ α} {f : α → Task ε σ β} (hx : Keeps R x)
    (hf : ∀ a, Keeps R (f a)) : Keeps R (x >>= f) := by
  intro s
  rcases hrun : x s with ⟨result, t⟩
  have hst : R s t := by simpa only [hrun] using hx s
  cases result with
  | ok a =>
    rw [bind_of_ok hrun]
    exact hR.trans s t _ hst (hf a t)
  | error e =>
    rw [bind_of_error hrun]
    exact hst

theorem Keeps.orElse (hR : Composes R) {x : Task ε σ α} {f : ε → Task ε σ α} (hx : Keeps R x)
    (hf : ∀ e, Keeps R (f e)) : Keeps R (x.orElse f) := by
  intro s
  rcases hrun : x s with ⟨result, t⟩
  have hst : R s t := by simpa only [hrun] using hx s
  cases result with
  | ok a =>
    rw [orElse_of_ok hrun]
    exact hst
  | error e =>
    rw [orElse_of_error hrun]
    exact hR.trans s t _ hst (hf e t)

/-- The loop keeps what its candidates keep. -/
theorem keeps_tryEach (hR : Composes R) {body : ι → Task ε σ Unit} (hbody : ∀ i, Keeps R (body i))
    (is : List ι) : Keeps R (tryEach body is) := by
  induction is with
  | nil => exact keeps_answer hR _
  | cons i is ih =>
    exact Keeps.orElse hR (Keeps.bind hR (hbody i) fun _ => keeps_answer hR _) fun _ => ih

end Keeps

end Task

end Throwing
