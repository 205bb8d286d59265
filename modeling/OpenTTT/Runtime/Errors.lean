import Mathlib.Tactic.TypeStar

/-!
# Errors and settled promises

What a call of the TypeScript code can end in. `TTTBaseError` is the error of `errors.ts`, whose
constructor takes four arguments, or three of them with a default code; of its subclasses, the
ones raised here are `TTTTimeSynthesisError`s. `Thrown` is anything a call can throw: such an
error, a plain `Error`, or a `RangeError`, `TypeError` or `SyntaxError` of the runtime, whose texts
are the runtime's and are left out.

`Settled` is an entry of the array that `Promise.allSettled` resolves to.
-/

namespace OpenTTT

/-- `TTTBaseError`, with the parts its message is built from. -/
structure TTTBaseError where
  code : String
  message : String
  reason : String
  fix : String
  deriving DecidableEq

namespace TTTBaseError

/-- The constructor with four arguments. -/
def ofCode (code message reason fix : String) : TTTBaseError := ⟨code, message, reason, fix⟩

/-- The constructor with three arguments, of the earlier signature. -/
def ofMessage (message reason fix : String) : TTTBaseError := ⟨"TTT_E002", message, reason, fix⟩

/-- The text of the error. -/
def text (e : TTTBaseError) : String :=
  "[" ++ e.code ++ "] " ++ e.message ++ " (Reason: " ++ e.reason ++ ". Fix: " ++ e.fix ++ ")"

end TTTBaseError

/-- What a call can throw. -/
inductive Thrown
  | timeSynthesisError (e : TTTBaseError)
  | error (message : String)
  | rangeError
  | typeError
  | syntaxError
  deriving DecidableEq

/-- The outcome of one promise. -/
inductive Settled (α : Type*)
  | fulfilled (value : α)
  | rejected (reason : String)

/-- The values of the fulfilled promises, in order. -/
def fulfilledValues {α : Type*} : List (Settled α) → List α
  | [] => []
  | .fulfilled value :: results => value :: fulfilledValues results
  | .rejected _ :: results => fulfilledValues results

theorem length_fulfilledValues_le {α : Type*} (results : List (Settled α)) :
    (fulfilledValues results).length ≤ results.length := by
  induction results with
  | nil => exact Nat.le_refl 0
  | cons result results ih =>
    cases result with
    | fulfilled value => exact Nat.succ_le_succ ih
    | rejected reason => exact Nat.le_succ_of_le ih

@[simp] theorem ok_bind {ε α β : Type} (a : α) (f : α → Except ε β) :
    (Except.ok a >>= f) = f a := rfl

/-- A sequence of two steps succeeds if both do. -/
theorem bind_eq_ok {ε α β : Type} {x : Except ε α} {f : α → Except ε β} {r : β} :
    (x >>= f) = .ok r ↔ ∃ a, x = .ok a ∧ f a = .ok r := by
  cases x <;> simp [bind, Except.bind]

/-- An error that is wrapped is still an error. -/
theorem mapError_eq_ok {ε ε' α : Type} {f : ε → ε'} {x : Except ε α} {a : α} :
    x.mapError f = .ok a ↔ x = .ok a := by
  cases x with
  | error e => exact ⟨nofun, nofun⟩
  | ok b => exact ⟨fun h => congrArg _ (Except.ok.inj h), fun h => congrArg _ (Except.ok.inj h)⟩

/-- Results that agree after a map are the same error, or values that it does not tell apart. -/
theorem eq_of_map_eq {ε α β : Type} {f : α → β} {x y : Except ε α} (h : x.map f = y.map f) :
    (∃ e, x = .error e ∧ y = .error e) ∨ ∃ a b, x = .ok a ∧ y = .ok b ∧ f a = f b := by
  cases x with
  | error e =>
    cases y with
    | error e' =>
      injection h with he
      exact Or.inl ⟨e, rfl, congrArg Except.error he.symm⟩
    | ok b => cases h
  | ok a =>
    cases y with
    | error e' => cases h
    | ok b =>
      injection h with hab
      exact Or.inr ⟨a, b, rfl, rfl, hab⟩

end OpenTTT
