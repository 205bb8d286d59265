import Mathlib.Data.List.Basic

/-!
# Contracts that call outside

A contract with a state and entry points, on a machine whose frames either succeed or revert and
where a frame that reverts leaves no trace. An entry point can stop in the middle and call code
outside (`Outcome.call`); it goes on only if that call succeeds. What the code outside does is a
`Script`: it enters the contract again, opens frames of its own, and chooses each further step after
it has seen whether the one before succeeded.

The rule for such runs is `Kept.exec`: a relation between states that is reflexive and transitive,
and that an entry point establishes under the assumption that the call in its middle does, holds
between the start and the end of any script. `Kept.after` carries it to sequences of transactions.
-/

namespace Reentrancy

/-- What an entry point does from a state. -/
inductive Outcome (σ : Type*)
  /-- It fails. -/
  | revert
  /-- It succeeds without a call. -/
  | done (s : σ)
  /-- It calls outside from the state `s`; if the call succeeds it goes on, and can still fail. -/
  | call (s : σ) (resume : σ → Option σ)

/-- What the code outside does in one frame, with entry points of type `ε`. -/
inductive Script (ε : Type*)
  /-- The frame ends, and succeeds or reverts. -/
  | finish (success : Bool)
  /-- It enters the contract, whose own call outside does `outside`, and goes on after it. -/
  | enter (entry : ε) (outside : Script ε) (next : Bool → Script ε)
  /-- It opens a frame that does `body`, and goes on after it. -/
  | frame (body : Script ε) (next : Bool → Script ε)

variable {σ ε : Type*}

/-- The result of an entry point from the state `s`: whether it succeeds, and the state after it.
The code outside is a function from the state of the call. -/
def Outcome.settle (outcome : Outcome σ) (s : σ) (outside : σ → Bool × σ) : Bool × σ :=
  match outcome with
  | .revert => (false, s)
  | .done s₁ => (true, s₁)
  | .call s₁ resume =>
    if (outside s₁).1 then
      match resume (outside s₁).2 with
      | some s₂ => (true, s₂)
      | none => (false, s)
    else (false, s)

/-- A frame: what a script has done is undone if it reverts. -/
def inFrame (script : σ → Bool × σ) (s : σ) : Bool × σ :=
  if (script s).1 then (true, (script s).2) else (false, s)

/-- The run of a script: whether its frame succeeds, and the state at its end. -/
def exec (run : ε → σ → Outcome σ) : Script ε → σ → Bool × σ
  | .finish success, s => (success, s)
  | .enter entry outside next, s =>
    exec run (next ((run entry s).settle s (exec run outside)).1)
      ((run entry s).settle s (exec run outside)).2
  | .frame body next, s =>
    exec run (next (inFrame (exec run body) s).1) (inFrame (exec run body) s).2

/-- The state after a transaction. -/
def transact (run : ε → σ → Outcome σ) (s : σ) (script : Script ε) : σ :=
  (inFrame (exec run script) s).2

/-- The state after a list of transactions, each in an environment of its own. -/
def after {β : Type*} (run : β → ε → σ → Outcome σ) (s : σ) (txs : List (β × Script ε)) : σ :=
  txs.foldl (fun s tx => transact (run tx.1) s tx.2) s

/-! ## Reverting -/

/-- **An entry point that does not succeed** leaves the state as it was. -/
theorem settle_reverted (outcome : Outcome σ) (s : σ) (outside : σ → Bool × σ) :
    (outcome.settle s outside).1 = true ∨ (outcome.settle s outside).2 = s := by
  cases outcome with
  | revert => exact Or.inr rfl
  | done s₁ => exact Or.inl rfl
  | call s₁ resume =>
    rw [Outcome.settle]
    by_cases hok : (outside s₁).1 = true
    · rw [if_pos hok]
      cases resume (outside s₁).2 with
      | none => exact Or.inr rfl
      | some s₂ => exact Or.inl rfl
    · rw [if_neg hok]
      exact Or.inr rfl

/-! ## What runs keep -/

/-- A relation that entry points establish between the state before and the state after them, if the
call in their middle does. -/
structure Kept (run : ε → σ → Outcome σ) (P : σ → σ → Prop) : Prop where
  refl : ∀ s, P s s
  trans : ∀ {s t u}, P s t → P t u → P s u
  done : ∀ {entry s s₁}, run entry s = .done s₁ → P s s₁
  call : ∀ {entry s s₁ resume s₂ s₃}, run entry s = .call s₁ resume → P s₁ s₂ →
    resume s₂ = some s₃ → P s s₃

variable {run : ε → σ → Outcome σ} {P : σ → σ → Prop}

/-- One entry point, around a call that keeps the relation. -/
theorem Kept.settle (h : Kept run P) (entry : ε) (s : σ) {outside : σ → Bool × σ}
    (houtside : ∀ t, P t (outside t).2) : P s ((run entry s).settle s outside).2 := by
  cases hrun : run entry s with
  | revert => exact h.refl s
  | done s₁ => exact h.done hrun
  | call s₁ resume =>
    rw [Outcome.settle]
    split
    · cases hresume : resume (outside s₁).2 with
      | none => exact h.refl s
      | some s₂ => exact h.call hrun (houtside s₁) hresume
    · exact h.refl s

theorem Kept.inFrame (h : Kept run P) {script : σ → Bool × σ} (hscript : ∀ t, P t (script t).2)
    (s : σ) : P s (inFrame script s).2 := by
  unfold Reentrancy.inFrame
  split
  · exact hscript s
  · exact h.refl s

/-- **The induction over a script**: one case for each of its forms. -/
theorem Kept.exec (h : Kept run P) (script : Script ε) (s : σ) :
    P s (exec run script s).2 := by
  induction script generalizing s with
  | finish success => exact h.refl s
  | enter entry outside next ihoutside ihnext =>
    exact h.trans (h.settle entry s ihoutside) (ihnext _ _)
  | frame body next ihbody ihnext =>
    exact h.trans (h.inFrame ihbody s) (ihnext _ _)

/-- **Sequences of transactions**, each in its environment. -/
theorem Kept.after {β : Type*} {run : β → ε → σ → Outcome σ} (hrefl : ∀ s, P s s)
    (h : ∀ env, Kept (run env) P) (s : σ) (txs : List (β × Script ε)) : P s (after run s txs) := by
  induction txs generalizing s with
  | nil => exact hrefl s
  | cons tx txs ih => exact (h tx.1).trans ((h tx.1).inFrame ((h tx.1).exec tx.2) s) (ih _)

end Reentrancy
