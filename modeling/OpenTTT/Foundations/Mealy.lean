import Mathlib.Algebra.BigOperators.Group.List.Basic
import Mathlib.Data.List.Basic
import Mathlib.Data.List.Induction
import Mathlib.Logic.Function.Basic

/-!
# Runs of a machine with outputs

A machine is a step function from a state and an input to an output and the next state. `after`
is the state after a list of inputs and `outputs` the outputs on the way. `outputs_getElem?`
reads one output of a run off the state before it, and `invariant_history` is the induction that
carries an invariant of single steps to whole runs; `forall_after_iff` is its form for an invariant
that steps keep on a condition only, and `exists_last_source_of_after` the one that names the input
to which something in the state goes back. `outputs_eq_of_simulation` is the induction over two runs
at once: a relation that every step keeps, and under which it outputs the same, makes the outputs of
the runs equal, and `forall₂_outputs_iff` says on which inputs they correspond, where they need not
on all. `conserved` adds up over a run what goes in and what comes out.

`family` is a family of machines that share one input list; `family_isolated` says that they do not
interfere. `outputs_inputsFor_true` deletes inputs from a run that leave the state alone.
-/

namespace Mealy

variable {σ γ ρ : Type*} (step : σ → γ → ρ × σ)

/-- The state after a list of inputs. -/
def after (s : σ) (cs : List γ) : σ := cs.foldl (fun s c => (step s c).2) s

/-- The outputs of a list of inputs. -/
def outputs (s : σ) : List γ → List ρ
  | [] => []
  | c :: cs => (step s c).1 :: outputs (step s c).2 cs

@[simp] theorem after_nil (s : σ) : after step s [] = s := rfl

@[simp] theorem after_cons (s : σ) (c : γ) (cs : List γ) :
    after step s (c :: cs) = after step (step s c).2 cs := rfl

theorem after_append (s : σ) (cs ds : List γ) :
    after step s (cs ++ ds) = after step (after step s cs) ds := by
  rw [after, List.foldl_append]
  rfl

theorem after_concat (s : σ) (cs : List γ) (c : γ) :
    after step s (cs ++ [c]) = (step (after step s cs) c).2 := by
  rw [after_append]
  rfl

/-- The output of the input at a position is that of the state after the inputs before it. -/
theorem outputs_getElem? {cs : List γ} {i : ℕ} {c : γ} (s : σ) (hi : cs[i]? = some c) :
    (outputs step s cs)[i]? = some (step (after step s (cs.take i)) c).1 := by
  induction cs generalizing s i with
  | nil => simp at hi
  | cons d cs ih =>
    cases i with
    | zero =>
      rw [List.getElem?_cons_zero, Option.some.injEq] at hi
      subst hi
      rfl
    | succ i =>
      rw [List.getElem?_cons_succ] at hi
      rw [outputs, List.getElem?_cons_succ, ih _ hi, List.take_succ_cons, after_cons]

/-- An output on the way is that of its input in some state. -/
theorem exists_of_mem_zip_outputs {s : σ} {cs : List γ} {p : γ × ρ}
    (h : p ∈ cs.zip (outputs step s cs)) : ∃ s', p.2 = (step s' p.1).1 := by
  induction cs generalizing s with
  | nil => simp at h
  | cons c cs ih =>
    rw [outputs, List.zip_cons_cons, List.mem_cons] at h
    rcases h with rfl | h
    · exact ⟨s, rfl⟩
    · exact ih h

/-- **The induction over a run** with the inputs so far: what holds of them and the state at the
start and is kept by every step holds after any list of inputs. -/
theorem invariant_history {P : List γ → σ → Prop}
    (hstep : ∀ cs c s, P cs s → P (cs ++ [c]) (step s c).2) {s : σ} (hs : P [] s) (cs : List γ) :
    P cs (after step s cs) := by
  induction cs using List.reverseRecOn with
  | nil => exact hs
  | append_singleton cs c ih =>
    rw [after_concat]
    exact hstep cs c _ ih

/-- **Where things come from**: what the state of a run holds was held at the start, or was put
there by one of the inputs, after which none has cleared it. -/
theorem exists_last_source_of_after {α : Type*} (holds : σ → α → Prop) {puts clears : γ → α → Prop}
    (hstep : ∀ s c a, holds (step s c).2 a → holds s a ∧ ¬ clears c a ∨ puts c a) {s : σ}
    {cs : List γ} {a : α} (h : holds (after step s cs) a) :
    holds s a ∨ ∃ before c later, cs = before ++ c :: later ∧ puts c a ∧
      ∀ d ∈ later, ¬ clears d a := by
  induction cs using List.reverseRecOn with
  | nil => exact Or.inl h
  | append_singleton cs c ih =>
    rw [after_concat] at h
    rcases hstep _ c a h with ⟨hold, hclears⟩ | hputs
    · rcases ih hold with hstart | ⟨before, d, later, rfl, hputs, hlater⟩
      · exact Or.inl hstart
      · refine Or.inr ⟨before, d, later ++ [c], by simp, hputs, fun e he => ?_⟩
        rcases List.mem_append.1 he with he | he
        · exact hlater e he
        · rwa [List.mem_singleton.1 he]
    · exact Or.inr ⟨cs, c, [], rfl, hputs, by simp⟩

/-- The same, without what clears. -/
theorem exists_source_of_after {α : Type*} (holds : σ → α → Prop) {puts : γ → α → Prop}
    (hstep : ∀ s c a, holds (step s c).2 a → holds s a ∨ puts c a) {s : σ} {cs : List γ} {a : α}
    (h : holds (after step s cs) a) : holds s a ∨ ∃ c ∈ cs, puts c a := by
  have hlast : ∀ s c a, holds (step s c).2 a → (holds s a ∧ ¬ False) ∨ puts c a :=
    fun s c a h => (hstep s c a h).imp_left fun hold => ⟨hold, not_false⟩
  rcases exists_last_source_of_after step holds hlast h with
    hstart | ⟨before, c, later, rfl, hputs, -⟩
  · exact Or.inl hstart
  · exact Or.inr ⟨c, by simp, hputs⟩

theorem outputs_append (s : σ) (cs ds : List γ) :
    outputs step s (cs ++ ds) = outputs step s cs ++ outputs step (after step s cs) ds := by
  induction cs generalizing s with
  | nil => rfl
  | cons c cs ih => rw [List.cons_append, outputs, outputs, ih, after_cons, List.cons_append]

/-- Two runs with the same outputs so far and after one more input have the same last output. -/
theorem output_eq_of_outputs_concat {σ' : Type*} {step' : σ' → γ → ρ × σ'} {s : σ} {t : σ'}
    {cs : List γ} {c : γ} (h : outputs step s (cs ++ [c]) = outputs step' t (cs ++ [c])) :
    (step (after step s cs) c).1 = (step' (after step' t cs) c).1 := by
  rw [outputs_append, outputs_append] at h
  exact List.head_eq_of_cons_eq (List.append_inj_right' h rfl)

/-- Where single steps keep `P` under a condition and only then, every state of a run has `P` if and
only if every step of it meets the condition. -/
theorem forall_after_iff {P : σ → Prop} {Q : σ → γ → Prop}
    (hstep : ∀ s c, P s → (P (step s c).2 ↔ Q s c)) {s : σ} (hs : P s) (cs : List γ) :
    (∀ i, P (after step s (cs.take i))) ↔
      ∀ i c, cs[i]? = some c → Q (after step s (cs.take i)) c := by
  induction cs generalizing s with
  | nil => simpa using hs
  | cons d cs ih =>
    constructor
    · intro h i c hi
      have hd : P (step s d).2 := h 1
      cases i with
      | zero =>
        rw [List.getElem?_cons_zero, Option.some.injEq] at hi
        subst hi
        exact (hstep s d hs).1 hd
      | succ i =>
        rw [List.getElem?_cons_succ] at hi
        exact (ih hd).1 (fun j => h (j + 1)) i c hi
    · intro h i
      have hd : P (step s d).2 := (hstep s d hs).2 (h 0 d rfl)
      cases i with
      | zero => exact hs
      | succ i => exact (ih hd).2 (fun j c hj => h (j + 1) c hj) i

/-- **The induction over two runs**, the inputs of the second one obtained from those of the
first. -/
theorem outputs_eq_of_simulation {σ' γ' : Type*} {step' : σ' → γ' → ρ × σ'} {f : γ → γ'}
    {R : σ → σ' → Prop} {Q : γ → Prop}
    (hstep : ∀ s t c, R s t → Q c →
      (step s c).1 = (step' t (f c)).1 ∧ R (step s c).2 (step' t (f c)).2)
    {s : σ} {t : σ'} (h : R s t) {cs : List γ} (hcs : ∀ c ∈ cs, Q c) :
    outputs step s cs = outputs step' t (cs.map f) := by
  induction cs generalizing s t with
  | nil => rfl
  | cons c cs ih =>
    obtain ⟨hout, hrel⟩ := hstep s t c h (hcs c List.mem_cons_self)
    rw [List.map_cons, outputs, outputs, hout,
      ih hrel fun d hd => hcs d (List.mem_cons_of_mem c hd)]

/-- The induction over two runs of the same inputs, up to the first one at which the outputs do not
correspond. -/
theorem forall₂_outputs_iff {σ' ρ' : Type*} {step' : σ' → γ → ρ' × σ'} {R : σ → σ' → Prop}
    {S : ρ → ρ' → Prop} {Q : γ → Prop}
    (hstep : ∀ s t c, R s t →
      (S (step s c).1 (step' t c).1 ↔ Q c) ∧ (Q c → R (step s c).2 (step' t c).2))
    {s : σ} {t : σ'} (h : R s t) (cs : List γ) :
    List.Forall₂ S (outputs step s cs) (outputs step' t cs) ↔ ∀ c ∈ cs, Q c := by
  induction cs generalizing s t with
  | nil => simp [outputs]
  | cons c cs ih =>
    obtain ⟨hout, hrel⟩ := hstep s t c h
    rw [outputs, outputs, List.forall₂_cons, List.forall_mem_cons, hout]
    constructor
    · rintro ⟨hc, hrest⟩
      exact ⟨hc, (ih (hrel hc)).1 hrest⟩
    · rintro ⟨hc, hrest⟩
      exact ⟨hc, (ih (hrel hc)).2 hrest⟩

/-- The states of two runs of the same inputs that keep a relation. -/
theorem rel_after {σ' ρ' : Type*} {step' : σ' → γ → ρ' × σ'} {R : σ → σ' → Prop} {Q : γ → Prop}
    (hstep : ∀ s t c, R s t → Q c → R (step s c).2 (step' t c).2) {s : σ} {t : σ'} (h : R s t)
    {cs : List γ} (hcs : ∀ c ∈ cs, Q c) : R (after step s cs) (after step' t cs) := by
  induction cs generalizing s t with
  | nil => exact h
  | cons c cs ih =>
    rw [List.forall_mem_cons] at hcs
    exact ih (hstep s t c h hcs.1) hcs.2

/-- **The balance of a run**: where every step takes in `i`, gives out `o` and holds the rest, so
does a run. -/
theorem conserved {M : Type*} [AddCommMonoid M] (held : σ → M) {i : γ → ρ → M} {o : ρ → M}
    (hstep : ∀ s c, held s + i c (step s c).1 = o (step s c).1 + held (step s c).2) (s : σ)
    (cs : List γ) :
    held s + ((cs.zip (outputs step s cs)).map fun p => i p.1 p.2).sum =
      ((outputs step s cs).map o).sum + held (after step s cs) := by
  induction cs generalizing s with
  | nil => simp [outputs]
  | cons c cs ih =>
    rw [outputs, List.zip_cons_cons, List.map_cons, List.sum_cons, List.map_cons, List.sum_cons,
      ← add_assoc, hstep, add_assoc, ih, add_assoc, after_cons]

/-! ## Machines side by side -/

/-- Machines with the same step, one for each name: an input goes to the one that it names. -/
def family {ι : Type*} [DecidableEq ι] (s : ι → σ) (c : ι × γ) : ρ × (ι → σ) :=
  ((step (s c.1) c.2).1, Function.update s c.1 (step (s c.1) c.2).2)

/-- The inputs that name a machine. -/
def inputsFor {ι : Type*} [DecidableEq ι] (i : ι) (cs : List (ι × γ)) : List γ :=
  (cs.filter fun c => c.1 = i).map Prod.snd

/-- The outputs of the inputs that name a machine. -/
def outputsFor {ι : Type*} [DecidableEq ι] (i : ι) (cs : List (ι × γ)) (rs : List ρ) : List ρ :=
  ((cs.zip rs).filter fun p => p.1.1 = i).map Prod.snd

section Family

variable {ι : Type*} [DecidableEq ι]

theorem inputsFor_cons_self (i : ι) (c : γ) (cs : List (ι × γ)) :
    inputsFor i ((i, c) :: cs) = c :: inputsFor i cs := by
  simp [inputsFor]

theorem inputsFor_cons_of_ne {i : ι} {c : ι × γ} (h : c.1 ≠ i) (cs : List (ι × γ)) :
    inputsFor i (c :: cs) = inputsFor i cs := by
  simp [inputsFor, h]

theorem inputsFor_concat (i : ι) (cs : List (ι × γ)) (c : ι × γ) :
    inputsFor i (cs ++ [c]) = inputsFor i cs ++ if c.1 = i then [c.2] else [] := by
  by_cases h : c.1 = i <;> simp [inputsFor, h]

theorem outputsFor_cons_self (i : ι) (c : γ) (cs : List (ι × γ)) (r : ρ) (rs : List ρ) :
    outputsFor i ((i, c) :: cs) (r :: rs) = r :: outputsFor i cs rs := by
  simp [outputsFor]

theorem outputsFor_cons_of_ne {i : ι} {c : ι × γ} (h : c.1 ≠ i) (cs : List (ι × γ)) (r : ρ)
    (rs : List ρ) : outputsFor i (c :: cs) (r :: rs) = outputsFor i cs rs := by
  simp [outputsFor, h]

/-- **Inputs without effect can be deleted**: where the inputs marked `false` have outputs that only
come with an unchanged state, the others have the same outputs without them. -/
theorem outputs_inputsFor_true {quiet : ρ → Prop}
    (hquiet : ∀ s c, quiet (step s c).1 → (step s c).2 = s) {s : σ} {cs : List (Bool × γ)}
    (h : ∀ r ∈ outputsFor false cs (outputs step s (cs.map Prod.snd)), quiet r) :
    outputs step s (inputsFor true cs) = outputsFor true cs (outputs step s (cs.map Prod.snd)) := by
  induction cs generalizing s with
  | nil => rfl
  | cons c cs ih =>
    obtain ⟨mark, c⟩ := c
    rw [List.map_cons, outputs] at h ⊢
    cases mark with
    | true =>
      rw [outputsFor_cons_of_ne Bool.true_eq_false.mp] at h
      rw [inputsFor_cons_self, outputsFor_cons_self, outputs, ih h]
    | false =>
      rw [outputsFor_cons_self] at h
      rw [inputsFor_cons_of_ne Bool.false_ne_true, outputsFor_cons_of_ne Bool.false_ne_true]
      have hs : (step s c).2 = s := hquiet s c (h _ List.mem_cons_self)
      rw [hs] at h ⊢
      exact ih fun r hr => h r (List.mem_cons_of_mem _ hr)

/-- **Machines side by side do not interfere**: what an interleaving of inputs returns for one of
them, and the state that it leaves it in, are those of its own inputs alone. -/
theorem family_isolated (s : ι → σ) (cs : List (ι × γ)) (i : ι) :
    outputsFor i cs (outputs (family step) s cs) = outputs step (s i) (inputsFor i cs) ∧
      after (family step) s cs i = after step (s i) (inputsFor i cs) := by
  induction cs generalizing s with
  | nil => exact ⟨rfl, rfl⟩
  | cons c cs ih =>
    obtain ⟨j, c⟩ := c
    rw [outputs, after_cons]
    by_cases h : j = i
    · subst h
      rw [outputsFor_cons_self, inputsFor_cons_self, outputs, after_cons]
      have hself : (family step s (j, c)).2 j = (step (s j) c).2 := Function.update_self ..
      rw [(ih _).1, (ih _).2, hself]
      exact ⟨rfl, rfl⟩
    · rw [outputsFor_cons_of_ne h, inputsFor_cons_of_ne h]
      have hother : (family step s (j, c)).2 i = s i := Function.update_of_ne (Ne.symm h) ..
      rw [(ih _).1, (ih _).2, hother]
      exact ⟨rfl, rfl⟩

end Family

/-- A list cut at two of its positions. -/
theorem take_eq_of_lt {cs : List γ} {i j : ℕ} {c : γ} (hij : i < j) (hi : cs[i]? = some c) :
    cs.take j = cs.take i ++ c :: (cs.take j).drop (i + 1) := by
  obtain ⟨hlt, rfl⟩ := List.getElem?_eq_some_iff.1 hi
  have hlen : i < (cs.take j).length := by rw [List.length_take]; omega
  have htake : (cs.take j).take i = cs.take i := by rw [List.take_take, Nat.min_eq_left (by omega)]
  have hget : (cs.take j)[i] = cs[i] := List.getElem_take
  rw [← htake, ← hget, ← List.drop_eq_getElem_cons hlen, List.take_append_drop]

end Mealy
