import OpenTTT.Time.Replay

/-!
# Generated proofs of time

`generateProofOfTime` passes the new proof through the verifier of its own instance before it
returns it, and the verifier records the nonce. A later `verifyProofOfTime` on the same instance
therefore meets a nonce that is already in the cache: `generated_proof_rejected` says when it is
accepted all the same, which on a clock that does not run backwards is never.
-/

namespace OpenTTT

namespace TimeSynthesis

/-- The call with which a generation verifies its own proof. -/
def selfVerification (clock : GenerationClock) (pot : ProofOfTime) : VerifyCall :=
  ⟨clock.expiryNow, clock.now, pot⟩

section Generated

variable {self : TimeSynthesis} {results : List (Settled TimeReading)} {nonce : String}
  {clock : GenerationClock} {pot : ProofOfTime}

/-- The self-verification of a generated proof has found its nonce fresh. -/
theorem fresh_of_generated (h : (self.generateProofOfTime results nonce clock).1 = .ok pot) :
    (guard.step self.usedNonces (selfVerification clock pot)).1 = true := by
  obtain ⟨-, -, -, hself, -⟩ := generateProofOfTime_ok h
  exact fresh_of_verifyCall_true hself

/-- The readings of a generated proof are within the tolerance. -/
theorem checkTolerance_of_generated
    (h : (self.generateProofOfTime results nonce clock).1 = .ok pot) :
    checkTolerance pot.timestamp (getToleranceForStratum (lowestStratum pot))
      pot.sourceReadings = .ok true := by
  obtain ⟨-, -, -, hself, -⟩ := generateProofOfTime_ok h
  have hcall := self.verifyCall_eq (selfVerification clock pot)
  rw [if_pos (fresh_of_generated h)] at hcall
  exact (congrArg Prod.fst hcall).symm.trans hself

/-- The nonce of a generated proof is in the cache, recorded at the self-verification. -/
theorem mem_usedNonces_of_generated
    (h : (self.generateProofOfTime results nonce clock).1 = .ok pot) :
    (pot.nonce, clock.now) ∈
      (self.generateProofOfTime results nonce clock).2.usedNonces.entries := by
  obtain ⟨-, -, -, -, hinst⟩ := generateProofOfTime_ok h
  have hfresh := fresh_of_generated h
  have hpass := guard.passes_of_fresh hfresh
  rw [guard.step_of_passes hpass] at hfresh
  have hret := ReplayCache.retained_of_query hfresh
  rw [hinst]
  have hcall := self.usedNonces_verifyCall (selfVerification clock pot)
  rw [guard.step_of_passes hpass] at hcall
  exact hcall ▸ hret.mem_entries

/-- What verifying a generated proof again comes to: it is accepted if and only if its nonce has
been swept out of the cache. -/
theorem verify_generated_iff (h : (self.generateProofOfTime results nonce clock).1 = .ok pot)
    {expiryNow now : ℤ} (hexp : expiryNow ≤ pot.expiresAt) :
    ((self.generateProofOfTime results nonce clock).2.verifyProofOfTime expiryNow now pot).1 =
        .ok true ↔
      (self.generateProofOfTime results nonce clock).2.usedNonces.size > MAX_NONCE_CACHE / 2 ∧
        now - clock.now > NONCE_TTL_MS := by
  have hmem := mem_usedNonces_of_generated h
  have htol := checkTolerance_of_generated h
  obtain ⟨hlen, hconf, -⟩ := guard_passes_iff.1 (guard.passes_of_fresh (fresh_of_generated h))
  set self' := (self.generateProofOfTime results nonce clock).2
  have hpass : guard.passes ⟨expiryNow, now, pot⟩ = true :=
    guard_passes_iff.2 ⟨hlen, hconf, not_lt.2 hexp⟩
  have hquery : (guard.step self'.usedNonces ⟨expiryNow, now, pot⟩).1 = true ↔
      self'.usedNonces.size > MAX_NONCE_CACHE / 2 ∧ now - clock.now > NONCE_TTL_MS := by
    rw [guard.step_of_passes hpass]
    exact ReplayCache.query_fresh_iff_of_mem hmem
  rw [← hquery]
  constructor
  · exact fun hok => fresh_of_verifyCall_true hok
  · intro hfresh
    have hcall := self'.verifyCall_eq ⟨expiryNow, now, pot⟩
    rw [if_pos hfresh] at hcall
    exact (congrArg Prod.fst hcall).trans htol

/-- A verification that does not return true returns false. -/
theorem verify_generated_of_ne (h : (self.generateProofOfTime results nonce clock).1 = .ok pot)
    {expiryNow now : ℤ} (hne : ((self.generateProofOfTime results nonce clock).2.verifyProofOfTime
      expiryNow now pot).1 ≠ .ok true) :
    ((self.generateProofOfTime results nonce clock).2.verifyProofOfTime expiryNow now pot).1 =
      .ok false := by
  have htol := checkTolerance_of_generated h
  set self' := (self.generateProofOfTime results nonce clock).2
  refine self'.verifyCall_of_not_fresh (c := ⟨expiryNow, now, pot⟩) ?_
  by_contra hfresh
  have hcall := self'.verifyCall_eq ⟨expiryNow, now, pot⟩
  rw [if_pos (Bool.not_eq_false _ ▸ hfresh)] at hcall
  exact hne ((congrArg Prod.fst hcall).trans htol)

end Generated

/-- That a generated proof verifies: on a fresh instance whose clock does not run backwards, the
first verification of a generated proof before it expires returns true. -/
def GeneratedProofVerifies : Prop :=
  ∀ (results : List (Settled TimeReading)) (nonce : String) (clock : GenerationClock)
    (pot : ProofOfTime) (expiryNow now : ℤ),
    clock.issued ≤ clock.expiryNow → clock.expiryNow ≤ clock.now → clock.now ≤ expiryNow →
    expiryNow ≤ now → now < pot.expiresAt →
    (new.generateProofOfTime results nonce clock).1 = .ok pot →
    ((new.generateProofOfTime results nonce clock).2.verifyProofOfTime expiryNow now pot).1 =
      .ok true

end TimeSynthesis

open TimeSynthesis in
/-- **A generated proof is rejected** by the instance that generated it. It is accepted only if
its nonce has been swept out of the cache, five minutes after its generation, and it expires a
minute after it is issued: on a clock that does not run backwards every verification before the
expiry returns false. -/
theorem generated_proof_rejected (self : TimeSynthesis) (results : List (Settled TimeReading))
    (nonce : String) (clock : GenerationClock) (pot : ProofOfTime) (expiryNow now : ℤ)
    (h : (self.generateProofOfTime results nonce clock).1 = .ok pot)
    (hexp : expiryNow < pot.expiresAt) :
    (((self.generateProofOfTime results nonce clock).2.verifyProofOfTime expiryNow now pot).1 =
        .ok true ↔
      (self.generateProofOfTime results nonce clock).2.usedNonces.size > MAX_NONCE_CACHE / 2 ∧
        now - clock.now > NONCE_TTL_MS) ∧
    (clock.issued ≤ clock.now → now < pot.expiresAt →
      ((self.generateProofOfTime results nonce clock).2.verifyProofOfTime expiryNow now pot).1 =
        .ok false) := by
  have hiff := @verify_generated_iff self results nonce clock pot h expiryNow now hexp.le
  refine ⟨hiff, fun hclock hnow => verify_generated_of_ne h fun htrue => ?_⟩
  obtain ⟨-, hswept⟩ := hiff.1 htrue
  obtain ⟨-, -, hexpires, -, -⟩ := generateProofOfTime_ok h
  unfold NONCE_TTL_MS at hswept
  omega

namespace TimeSynthesis

/-- One reading of one source. -/
def oneResult : List (Settled TimeReading) :=
  [.fulfilled ⟨1700000000000000000, .finite 50, .finite 1, "nist"⟩]

/-- A generation and its self-verification within one millisecond. -/
def oneClock : GenerationClock := ⟨1700000000000, 1700000000000, 1700000000000⟩

/-- The proof that is generated from the one reading. -/
def oneProof : ProofOfTime where
  timestamp := 1700000000000000000
  uncertainty := .finite 50
  sources := .finite 1
  stratum := .finite 1
  confidence := .finite 1
  sourceReadings := [⟨"nist", 1700000000000000000, .finite 50, some (.finite 1)⟩]
  nonce := "5f1c"
  expiresAt := 1700000060000

theorem generateProofOfTime_oneResult :
    (new.generateProofOfTime oneResult "5f1c" oneClock).1 = .ok oneProof := by
  decide +kernel

end TimeSynthesis

open TimeSynthesis in
/-- The generated proof, verified a second later. -/
theorem generated_proof_rejected_oneProof :
    (((new.generateProofOfTime oneResult "5f1c" oneClock).2.verifyProofOfTime 1700000001000
        1700000001000 oneProof).1 = .ok true ↔
      (new.generateProofOfTime oneResult "5f1c" oneClock).2.usedNonces.size >
          MAX_NONCE_CACHE / 2 ∧
        1700000001000 - oneClock.now > NONCE_TTL_MS) ∧
    (oneClock.issued ≤ oneClock.now → 1700000001000 < oneProof.expiresAt →
      ((new.generateProofOfTime oneResult "5f1c" oneClock).2.verifyProofOfTime 1700000001000
        1700000001000 oneProof).1 = .ok false) :=
  generated_proof_rejected new oneResult "5f1c" oneClock oneProof 1700000001000 1700000001000
    generateProofOfTime_oneResult (by decide)

open TimeSynthesis in
theorem not_generatedProofVerifies : ¬ GeneratedProofVerifies := by
  intro h
  have htrue := h oneResult "5f1c" oneClock oneProof 1700000001000 1700000001000 (by decide)
    (by decide) (by decide) (by decide) (by decide) generateProofOfTime_oneResult
  have hswept := (verify_generated_iff generateProofOfTime_oneResult (by decide)).1 htrue
  exact absurd hswept.2 (by decide)

end OpenTTT
