import OpenTTT.Foundations.Mealy

/-!
# Transactions that succeed or revert

A contract is a function that takes a call and a state to the next state with the logs that it
emits, or to an error. A transaction that fails leaves the state as it was and emits nothing.
`committed` are the calls of a run that succeeded and `logs` what they have emitted;
`induction_committed` is the induction over a run that only looks at these.
-/

namespace Transactions

variable {σ γ ε η : Type*} (run : γ → σ → Except η (σ × List ε))

/-- A transaction as a step: its result, and the state after it. -/
def step (s : σ) (c : γ) : Except η (List ε) × σ :=
  match run c s with
  | .ok (s', emitted) => (.ok emitted, s')
  | .error e => (.error e, s)

/-- The state after transactions. -/
def after (s : σ) (cs : List γ) : σ := Mealy.after (step run) s cs

/-- The calls that succeeded. -/
def committed (s : σ) : List γ → List γ
  | [] => []
  | c :: cs =>
    match run c s with
    | .ok (s', _) => c :: committed s' cs
    | .error _ => committed s cs

/-- The logs of the calls that succeeded. -/
def logs (s : σ) : List γ → List ε
  | [] => []
  | c :: cs =>
    match run c s with
    | .ok (s', emitted) => emitted ++ logs s' cs
    | .error _ => logs s cs

variable {run}

@[simp] theorem after_nil (s : σ) : after run s [] = s := rfl

theorem after_cons_ok {s s' : σ} {c : γ} {emitted : List ε} (h : run c s = .ok (s', emitted))
    (cs : List γ) : after run s (c :: cs) = after run s' cs := by
  rw [after, Mealy.after_cons, step, h]
  rfl

theorem after_cons_error {s : σ} {c : γ} {e : η} (h : run c s = .error e) (cs : List γ) :
    after run s (c :: cs) = after run s cs := by
  rw [after, Mealy.after_cons, step, h]
  rfl

theorem after_singleton_ok {s s' : σ} {c : γ} {emitted : List ε}
    (h : run c s = .ok (s', emitted)) : after run s [c] = s' :=
  after_cons_ok h []

theorem after_singleton_error {s : σ} {c : γ} {e : η} (h : run c s = .error e) :
    after run s [c] = s :=
  after_cons_error h []

/-- The induction over a run that follows other transactions. -/
theorem induction_append {P : List γ → List ε → σ → Prop}
    (hstep : ∀ {cs es s c s' emitted}, P cs es s → run c s = .ok (s', emitted) →
      P (cs ++ [c]) (es ++ emitted) s')
    {cs₀ : List γ} {es₀ : List ε} {s : σ} (hs : P cs₀ es₀ s) (cs : List γ) :
    P (cs₀ ++ committed run s cs) (es₀ ++ logs run s cs) (after run s cs) := by
  induction cs generalizing cs₀ es₀ s with
  | nil => simpa [committed, logs] using hs
  | cons c cs ih =>
    cases hrun : run c s with
    | error e =>
      rw [after_cons_error hrun]
      simpa only [committed, logs, hrun] using ih hs
    | ok result =>
      obtain ⟨s', emitted⟩ := result
      have hnext := ih (hstep hs hrun)
      rw [after_cons_ok hrun]
      simpa only [committed, logs, hrun, List.append_assoc, List.singleton_append] using hnext

/-- **The induction over a run**: what holds at the start, and is kept by every call that succeeds
together with the calls and the logs so far, holds after any transactions. -/
theorem induction_committed {P : List γ → List ε → σ → Prop}
    (hstep : ∀ {cs es s c s' emitted}, P cs es s → run c s = .ok (s', emitted) →
      P (cs ++ [c]) (es ++ emitted) s')
    {s : σ} (hs : P [] [] s) (cs : List γ) :
    P (committed run s cs) (logs run s cs) (after run s cs) :=
  induction_append hstep hs cs

end Transactions
