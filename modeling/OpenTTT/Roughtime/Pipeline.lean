import Mathlib.Data.List.TakeWhile
import Mathlib.Tactic.TypeStar

/-!
# The verification pipeline

`VerificationPipeline` of `wire.rs`: a record of the steps passed, of the first failure and of the
result, which the caller updates with one call for each gate, in any order. After a failure every
gate but `check_version` leaves the record alone; `check_version` has no such guard.

`run_eq` describes every run in which `check_version` is not called after a failure by the calls
before the first failing one, and `extends_passed` says what remains of that on every other one. The
pipeline does not ask for all gates: `result` says that `check_nonce` has passed and that nothing
had failed until then (`pipeline_run`).
-/

namespace OpenTTT.Roughtime

inductive VerifyStep
  | VersionCheck
  | BindingKeyCheck
  | HmacGate1
  | Ed25519Verify
  | RecencyCheck
  | NonceFreshness
  deriving DecidableEq

inductive VerifyError
  | UnknownVersion (got : UInt8)
  | BindingKeyMismatch
  | HmacFailed
  | SignatureInvalid
  | Stale (ageMs toleranceMs : UInt64)
  | ReplayedNonce
  deriving DecidableEq

structure VerificationPipeline where
  stepsPassed : List VerifyStep
  failedAt : Option (VerifyStep × VerifyError)
  result : Bool
  deriving DecidableEq

namespace VerificationPipeline

def new : VerificationPipeline := ⟨[], none, false⟩

/-- A gate that is skipped after a failure. -/
def gate (self : VerificationPipeline) (step : VerifyStep) (ok : Bool) (error : VerifyError) :
    VerificationPipeline :=
  if self.failedAt.isSome then self
  else if !ok then { self with failedAt := some (step, error) }
  else { self with stepsPassed := self.stepsPassed ++ [step] }

/-- `check_version`, which is not skipped. -/
def checkVersion (self : VerificationPipeline) (version : UInt8) : VerificationPipeline :=
  if version ≠ 1 then { self with failedAt := some (.VersionCheck, .UnknownVersion version) }
  else { self with stepsPassed := self.stepsPassed ++ [.VersionCheck] }

def checkBindingKey (self : VerificationPipeline) (bindingKeyOk : Bool) : VerificationPipeline :=
  self.gate .BindingKeyCheck bindingKeyOk .BindingKeyMismatch

def checkHmac (self : VerificationPipeline) (hmacOk : Bool) : VerificationPipeline :=
  self.gate .HmacGate1 hmacOk .HmacFailed

def checkSignature (self : VerificationPipeline) (sigOk : Bool) : VerificationPipeline :=
  self.gate .Ed25519Verify sigOk .SignatureInvalid

def checkRecency (self : VerificationPipeline) (ageMs toleranceMs : UInt64) :
    VerificationPipeline :=
  self.gate .RecencyCheck (!decide (ageMs > toleranceMs)) (.Stale ageMs toleranceMs)

/-- `check_nonce`, which also sets the result. -/
def checkNonce (self : VerificationPipeline) (isFresh : Bool) : VerificationPipeline :=
  if self.failedAt.isSome then self
  else if !isFresh then { self with failedAt := some (.NonceFreshness, .ReplayedNonce) }
  else { self with stepsPassed := self.stepsPassed ++ [.NonceFreshness], result := true }

/-- A call with its arguments. -/
inductive Call
  | checkVersion (version : UInt8)
  | checkBindingKey (bindingKeyOk : Bool)
  | checkHmac (hmacOk : Bool)
  | checkSignature (sigOk : Bool)
  | checkRecency (ageMs toleranceMs : UInt64)
  | checkNonce (isFresh : Bool)
  deriving DecidableEq

/-- A call as a step. -/
def perform (self : VerificationPipeline) : Call → VerificationPipeline
  | .checkVersion version => self.checkVersion version
  | .checkBindingKey bindingKeyOk => self.checkBindingKey bindingKeyOk
  | .checkHmac hmacOk => self.checkHmac hmacOk
  | .checkSignature sigOk => self.checkSignature sigOk
  | .checkRecency ageMs toleranceMs => self.checkRecency ageMs toleranceMs
  | .checkNonce isFresh => self.checkNonce isFresh

/-- The pipeline after a list of calls. -/
def run (self : VerificationPipeline) (calls : List Call) : VerificationPipeline :=
  calls.foldl perform self

namespace Call

/-- The step a call records. -/
def step : Call → VerifyStep
  | .checkVersion _ => .VersionCheck
  | .checkBindingKey _ => .BindingKeyCheck
  | .checkHmac _ => .HmacGate1
  | .checkSignature _ => .Ed25519Verify
  | .checkRecency _ _ => .RecencyCheck
  | .checkNonce _ => .NonceFreshness

/-- Whether the arguments of a call pass its check. -/
def passes : Call → Bool
  | .checkVersion version => decide (version = 1)
  | .checkBindingKey bindingKeyOk => bindingKeyOk
  | .checkHmac hmacOk => hmacOk
  | .checkSignature sigOk => sigOk
  | .checkRecency ageMs toleranceMs => decide (ageMs ≤ toleranceMs)
  | .checkNonce isFresh => isFresh

/-- The error of a call whose check fails. -/
def error : Call → VerifyError
  | .checkVersion version => .UnknownVersion version
  | .checkBindingKey _ => .BindingKeyMismatch
  | .checkHmac _ => .HmacFailed
  | .checkSignature _ => .SignatureInvalid
  | .checkRecency ageMs toleranceMs => .Stale ageMs toleranceMs
  | .checkNonce _ => .ReplayedNonce

end Call

/-! ## One call -/

/-- A call that passes, before any failure. -/
theorem perform_of_passes {self : VerificationPipeline} (h : self.failedAt = none) {c : Call}
    (hc : c.passes = true) : self.perform c =
      ⟨self.stepsPassed ++ [c.step], none,
        self.result || decide (c.step = .NonceFreshness)⟩ := by
  obtain ⟨steps, failed, result⟩ := self
  subst h
  cases c with
  | checkVersion version =>
    have hv : version = 1 := by simpa [Call.passes] using hc
    simp [perform, checkVersion, Call.step, hv]
  | checkRecency ageMs toleranceMs =>
    have hage : ageMs ≤ toleranceMs := by simpa [Call.passes] using hc
    simp [perform, checkRecency, gate, Call.step, UInt64.not_lt.2 hage]
  | checkNonce isFresh =>
    have hfresh : isFresh = true := hc
    simp [perform, checkNonce, Call.step, hfresh]
  | checkBindingKey ok | checkHmac ok | checkSignature ok =>
    have hok : ok = true := hc
    simp [perform, checkBindingKey, checkHmac, checkSignature, gate, Call.step, hok]

/-- A call that fails, before any failure. -/
theorem perform_of_fails {self : VerificationPipeline} (h : self.failedAt = none) {c : Call}
    (hc : c.passes = false) :
    self.perform c = { self with failedAt := some (c.step, c.error) } := by
  obtain ⟨steps, failed, result⟩ := self
  subst h
  cases c with
  | checkVersion version =>
    have hv : version ≠ 1 := by simpa [Call.passes] using hc
    simp [perform, checkVersion, Call.step, Call.error, hv]
  | checkRecency ageMs toleranceMs =>
    have hage : toleranceMs < ageMs := by simpa [Call.passes] using hc
    simp [perform, checkRecency, gate, Call.step, Call.error, hage]
  | checkNonce isFresh =>
    have hfresh : isFresh = false := hc
    simp [perform, checkNonce, Call.step, Call.error, hfresh]
  | checkBindingKey ok | checkHmac ok | checkSignature ok =>
    have hok : ok = false := hc
    simp [perform, checkBindingKey, checkHmac, checkSignature, gate, Call.step, Call.error, hok]

/-- After a failure, a call other than `check_version` changes nothing. -/
theorem perform_of_isSome {self : VerificationPipeline} (h : self.failedAt.isSome = true) {c : Call}
    (hc : c.step ≠ .VersionCheck) : self.perform c = self := by
  cases c with
  | checkVersion version => exact absurd rfl hc
  | checkNonce isFresh => simp [perform, checkNonce, h]
  | checkBindingKey ok | checkHmac ok | checkSignature ok =>
    simp [perform, checkBindingKey, checkHmac, checkSignature, gate, h]
  | checkRecency ageMs toleranceMs => simp [perform, checkRecency, gate, h]

/-! ## Runs -/

@[simp] theorem run_nil (self : VerificationPipeline) : self.run [] = self := rfl

@[simp] theorem run_cons (self : VerificationPipeline) (c : Call) (calls : List Call) :
    self.run (c :: calls) = (self.perform c).run calls := rfl

theorem run_append (self : VerificationPipeline) (calls more : List Call) :
    self.run (calls ++ more) = (self.run calls).run more := List.foldl_append

/-- A run of calls that pass, before any failure. -/
theorem run_of_passes {self : VerificationPipeline} (h : self.failedAt = none) {calls : List Call}
    (hcalls : ∀ c ∈ calls, c.passes = true) : self.run calls =
      ⟨self.stepsPassed ++ calls.map Call.step, none,
        self.result || calls.any fun c => decide (c.step = .NonceFreshness)⟩ := by
  induction calls generalizing self with
  | nil =>
    obtain ⟨steps, failed, result⟩ := self
    subst h
    simp
  | cons c calls ih =>
    rw [List.forall_mem_cons] at hcalls
    rw [run_cons, perform_of_passes h hcalls.1, ih rfl hcalls.2, List.map_cons, List.any_cons,
      List.append_assoc, Bool.or_assoc]
    rfl

/-- What is left of a failure by calls of any kind. -/
structure Extends (earlier later : VerificationPipeline) : Prop where
  failedAt : later.failedAt.isSome = true
  result : later.result = earlier.result
  stepsPassed : earlier.stepsPassed <+: later.stepsPassed

theorem extends_perform {self : VerificationPipeline} (h : self.failedAt.isSome = true) (c : Call) :
    Extends self (self.perform c) := by
  by_cases hc : c.step = .VersionCheck
  · cases c with
    | checkVersion version =>
      rw [perform, checkVersion]
      split
      · exact ⟨rfl, rfl, List.prefix_rfl⟩
      · exact ⟨h, rfl, List.prefix_append _ _⟩
    | _ => cases hc
  · rw [perform_of_isSome h hc]
    exact ⟨h, rfl, List.prefix_rfl⟩

/-- A failure is never taken back, and the result stays as it is. -/
theorem extends_run {self : VerificationPipeline} (h : self.failedAt.isSome = true)
    (calls : List Call) : Extends self (self.run calls) := by
  induction calls generalizing self with
  | nil => exact ⟨h, rfl, List.prefix_rfl⟩
  | cons c calls ih =>
    have hstep := extends_perform h c
    have hrest := ih hstep.failedAt
    exact ⟨hrest.failedAt, hrest.result.trans hstep.result,
      hstep.stepsPassed.trans hrest.stepsPassed⟩

/-- After a failure, a run without `check_version` changes nothing. -/
theorem run_of_isSome {self : VerificationPipeline} (h : self.failedAt.isSome = true)
    {calls : List Call} (hcalls : ∀ c ∈ calls, c.step ≠ .VersionCheck) : self.run calls = self := by
  induction calls with
  | nil => rfl
  | cons c calls ih =>
    rw [run_cons, perform_of_isSome h (hcalls c List.mem_cons_self)]
    exact ih fun c' hc' => hcalls c' (List.mem_cons_of_mem c hc')

/-- The pipeline after the calls before the first failing one. -/
def passed (calls : List Call) : VerificationPipeline :=
  ⟨(calls.takeWhile Call.passes).map Call.step, none,
    (calls.takeWhile Call.passes).any fun c => decide (c.step = .NonceFreshness)⟩

/-- A run goes on behind the calls that pass. -/
theorem run_eq_passed (calls : List Call) :
    new.run calls = (passed calls).run (calls.dropWhile Call.passes) := by
  have hpassed : new.run (calls.takeWhile Call.passes) = passed calls :=
    run_of_passes rfl fun c hc => List.mem_takeWhile_imp hc
  rw [← hpassed, ← run_append, List.takeWhile_append_dropWhile]

/-- The first failing call, if there is one. -/
theorem run_passed_cons {calls rest : List Call} {c : Call}
    (h : calls.dropWhile Call.passes = c :: rest) :
    new.run calls = VerificationPipeline.run
      { passed calls with failedAt := some (c.step, c.error) } rest := by
  have hc : c.passes = false := by
    have hhead := List.head?_dropWhile_not Call.passes calls
    rw [h] at hhead
    simpa using hhead
  rw [run_eq_passed, h, run_cons, perform_of_fails rfl hc]

/-- `check_version` is not called after the first failing call. -/
def VersionFirst (calls : List Call) : Prop :=
  ∀ c ∈ (calls.dropWhile Call.passes).tail, c.step ≠ .VersionCheck

/-- **A run of the pipeline**: the steps passed are those of the calls before the first failing
one, the failure is that of the first failing call, and the result is true if `check_nonce` is
among the calls before it. -/
theorem run_eq {calls : List Call} (hversion : VersionFirst calls) : new.run calls =
    { passed calls with
      failedAt := (calls.dropWhile Call.passes).head?.map fun c => (c.step, c.error) } := by
  unfold VersionFirst at hversion
  cases hdrop : calls.dropWhile Call.passes with
  | nil =>
    rw [run_eq_passed, hdrop]
    rfl
  | cons c rest =>
    rw [hdrop, List.tail_cons] at hversion
    rw [run_passed_cons hdrop, run_of_isSome rfl hversion]
    rfl

/-- The result of a run is settled by the calls before the first failing one, and their steps are
among those passed. -/
theorem extends_passed (calls : List Call) :
    (new.run calls).result = (passed calls).result ∧
      (passed calls).stepsPassed <+: (new.run calls).stepsPassed := by
  cases hdrop : calls.dropWhile Call.passes with
  | nil =>
    rw [run_eq_passed, hdrop]
    exact ⟨rfl, List.prefix_rfl⟩
  | cons c rest =>
    have hrest : Extends _ (VerificationPipeline.run
        { passed calls with failedAt := some (c.step, c.error) } rest) := extends_run rfl rest
    rw [run_passed_cons hdrop]
    exact ⟨hrest.result, hrest.stepsPassed⟩

/-- Nothing has failed if and only if all calls pass. -/
theorem failedAt_run_iff (calls : List Call) :
    (new.run calls).failedAt = none ↔ ∀ c ∈ calls, c.passes = true := by
  rw [← List.dropWhile_eq_nil_iff]
  cases hdrop : calls.dropWhile Call.passes with
  | nil =>
    rw [run_eq_passed, hdrop]
    exact iff_of_true rfl rfl
  | cons c rest =>
    have hrest : Extends _ (VerificationPipeline.run
        { passed calls with failedAt := some (c.step, c.error) } rest) := extends_run rfl rest
    rw [run_passed_cons hdrop]
    refine iff_of_false (fun hnone => ?_) (List.cons_ne_nil c rest)
    have hfailed := hrest.failedAt
    rw [hnone] at hfailed
    cases hfailed

/-- **A failure is final**: the calls after it leave the record alone. -/
theorem run_append_of_isSome {calls more : List Call} (hversion : VersionFirst (calls ++ more))
    (h : (new.run calls).failedAt.isSome = true) : new.run (calls ++ more) = new.run calls := by
  have hfails : calls.dropWhile Call.passes ≠ [] := by
    intro hdrop
    rw [(failedAt_run_iff calls).2 (List.dropWhile_eq_nil_iff.1 hdrop)] at h
    exact Bool.false_ne_true h
  obtain ⟨c, rest, hrest⟩ := List.exists_cons_of_ne_nil hfails
  rw [run_append]
  refine run_of_isSome h fun c' hc' => hversion c' ?_
  rw [List.dropWhile_append, if_neg (by simp [hrest]), hrest, List.cons_append, List.tail_cons]
  exact List.mem_append_right rest hc'

/-- The result is true if and only if a fresh nonce was checked with no failing call before. -/
theorem result_run_iff (calls : List Call) :
    (new.run calls).result = true ↔
      ∃ before after, calls = before ++ .checkNonce true :: after ∧
        ∀ c ∈ before, c.passes = true := by
  rw [(extends_passed calls).1, passed]
  constructor
  · intro hany
    obtain ⟨c, hc, hstep⟩ := List.any_eq_true.1 hany
    have hpasses : c.passes = true := List.mem_takeWhile_imp hc
    have hnonce : c = .checkNonce true := by
      cases c <;> simp_all [Call.step, Call.passes]
    subst hnonce
    obtain ⟨before, after, hsplit⟩ := List.append_of_mem hc
    refine ⟨before, after ++ calls.dropWhile Call.passes, ?_, fun c hc => ?_⟩
    · rw [← List.cons_append, ← List.append_assoc, ← hsplit, List.takeWhile_append_dropWhile]
    · have hmem : c ∈ calls.takeWhile Call.passes := hsplit ▸ List.mem_append_left _ hc
      exact List.mem_takeWhile_imp hmem
  · rintro ⟨before, after, rfl, hbefore⟩
    rw [List.takeWhile_append_of_pos hbefore, List.takeWhile_cons_of_pos rfl]
    simp [Call.step]

/-- The gates called before the nonce check are among the steps passed. -/
theorem isPrefix_stepsPassed {calls before after : List Call}
    (hcalls : calls = before ++ .checkNonce true :: after)
    (hbefore : ∀ c ∈ before, c.passes = true) :
    before.map Call.step ++ [.NonceFreshness] <+: (new.run calls).stepsPassed := by
  refine List.IsPrefix.trans ?_ (extends_passed calls).2
  rw [passed, hcalls, List.takeWhile_append_of_pos hbefore, List.takeWhile_cons_of_pos rfl,
    List.map_append, List.map_cons]
  exact ⟨(after.takeWhile Call.passes).map Call.step, by simp [Call.step]⟩

/-- With the nonce check as the last call, the result tells whether nothing has failed. -/
theorem result_iff_of_last {before : List Call} {isFresh : Bool}
    (hlast : ∀ c ∈ before, c.step ≠ .NonceFreshness) :
    (new.run (before ++ [.checkNonce isFresh])).result = true ↔
      (new.run (before ++ [.checkNonce isFresh])).failedAt = none := by
  rw [result_run_iff, failedAt_run_iff]
  constructor
  · rintro ⟨before', after, hcalls, hbefore⟩
    rcases List.eq_nil_or_concat after with rfl | ⟨after', c, rfl⟩
    · -- the nonce check that passed is the last call
      obtain ⟨rfl, hlast'⟩ := List.append_inj' hcalls rfl
      rw [hlast']
      intro c hc
      rcases List.mem_append.1 hc with hc | hc
      · exact hbefore c hc
      · rw [List.mem_singleton.1 hc]
        rfl
    · -- the nonce check that passed is among the calls before
      rw [List.concat_eq_append, ← List.cons_append, ← List.append_assoc] at hcalls
      obtain ⟨rfl, -⟩ := List.append_inj' hcalls rfl
      exact absurd rfl (hlast (.checkNonce true) (by simp))
  · intro hall
    have hfresh : isFresh = true := hall (.checkNonce isFresh) (by simp)
    exact ⟨before, [], by rw [hfresh], fun c hc => hall c (List.mem_append_left _ hc)⟩

/-- **What the result of a pipeline stands for**, on every run. The result is true if and only if a
fresh nonce was checked before any failure, and then every gate called before it has passed and is
recorded. A failure is never taken back, and the result stays as it was at the failure. With the
nonce check as the last call, the result is true if and only if nothing has failed. Where
`check_version` is not called after a failure, the steps passed are those of the calls before it,
and the calls after it change nothing. -/
theorem pipeline_run (calls : List Call) :
    (VersionFirst calls →
      (new.run calls).stepsPassed = (calls.takeWhile Call.passes).map Call.step) ∧
    ((new.run calls).result = true ↔
      ∃ before after, calls = before ++ .checkNonce true :: after ∧
        ∀ c ∈ before, c.passes = true) ∧
    (∀ before after, calls = before ++ .checkNonce true :: after →
      (∀ c ∈ before, c.passes = true) →
      before.map Call.step ++ [.NonceFreshness] <+: (new.run calls).stepsPassed) ∧
    (∀ before more, calls = before ++ more → (new.run before).failedAt.isSome = true →
      (new.run calls).failedAt.isSome = true ∧
      (new.run calls).result = (new.run before).result ∧
      (VersionFirst calls → new.run calls = new.run before)) ∧
    ∀ before isFresh, calls = before ++ [.checkNonce isFresh] →
      (∀ c ∈ before, c.step ≠ .NonceFreshness) →
      ((new.run calls).result = true ↔ (new.run calls).failedAt = none) := by
  refine ⟨?_, result_run_iff calls, ?_, ?_, ?_⟩
  · intro hversion
    rw [run_eq hversion]
    rfl
  · intro before after hcalls hbefore
    exact isPrefix_stepsPassed hcalls hbefore
  · rintro before more rfl hfailed
    have hlater := extends_run hfailed more
    rw [← run_append] at hlater
    exact ⟨hlater.failedAt, hlater.result, fun hversion => run_append_of_isSome hversion hfailed⟩
  · rintro before isFresh rfl hlast
    exact result_iff_of_last hlast

/-- The gates in their normative order, up to the nonce check. -/
def normativeGates : List Call :=
  [.checkVersion 1, .checkBindingKey true, .checkHmac true, .checkSignature true,
    .checkRecency 50 200]

/-- All gates in their order, and then once more with a signature that fails: the version is not
checked after the failure, which the nonce check does not take back. -/
theorem pipeline_run_normative :
    ((new.run (normativeGates ++ [.checkNonce true])).result = true ↔
      (new.run (normativeGates ++ [.checkNonce true])).failedAt = none) ∧
    (new.run ([.checkHmac true, .checkSignature false] ++ [.checkHmac true])).stepsPassed =
      [.HmacGate1] ∧
    new.run ([.checkHmac true, .checkSignature false] ++ [.checkHmac true]) =
      new.run [.checkHmac true, .checkSignature false] ∧
    (new.run ([.checkSignature false, .checkVersion 1] ++ [.checkNonce true])).result = false := by
  have hfails := pipeline_run ([.checkHmac true, .checkSignature false] ++ [.checkHmac true])
  have hversion : VersionFirst
      ([.checkHmac true, .checkSignature false] ++ [.checkHmac true]) := by
    unfold VersionFirst
    decide
  have hlater := pipeline_run ([.checkSignature false, .checkVersion 1] ++ [.checkNonce true])
  refine ⟨(pipeline_run (normativeGates ++ [.checkNonce true])).2.2.2.2 normativeGates true rfl
    (by decide), hfails.1 hversion, (hfails.2.2.2.1 _ _ rfl (by decide)).2.2 hversion, ?_⟩
  exact (hlater.2.2.2.1 [.checkSignature false] [.checkVersion 1, .checkNonce true] rfl
    (by decide)).2.1

/-- That no run reports success without all gates: a true result would exclude a failure and list
all six steps, and a failure would keep the result false and the steps as they are. -/
def AllGatesRequired : Prop :=
  ∀ calls : List Call,
    ((new.run calls).result = true → (new.run calls).failedAt = none ∧
      ∀ step : VerifyStep, step ∈ (new.run calls).stepsPassed) ∧
    ∀ before more, calls = before ++ more → (new.run before).failedAt.isSome = true →
      (new.run calls).stepsPassed = (new.run before).stepsPassed ∧ (new.run calls).result = false

/-- The nonce check alone reports success. -/
theorem not_allGatesRequired : ¬ AllGatesRequired := by
  intro h
  have hall := ((h [.checkNonce true]).1 (by decide)).2 .HmacGate1
  exact absurd hall (by decide)

end VerificationPipeline

end OpenTTT.Roughtime
