import OpenTTT.Foundations.ReplayCache
import OpenTTT.Time.Types

/-!
# Time synthesis

`TimeSynthesis` of `time_synthesis.ts`: the synthesized time, the generation of a proof of time
and its verification. The requests to the sources are the environment's; a call receives their
settled results, one for each configured source, together with the random nonce and the clock
readings it takes (`Date.now()` in milliseconds, each read a value of its own). A call that
throws returns what it throws, and the instance as it leaves it.

The state of an instance is its cache of used nonces. `verifyCall_eq` says what a verification
does to it: the query of a replay cache, made once the proof has passed the checks before
(`TimeSynthesis.guard`).
-/

namespace OpenTTT

namespace TimeSynthesis

def MAX_NONCE_CACHE : ℕ := 10000

def NONCE_TTL_MS : ℤ := 300000

end TimeSynthesis

/-- An instance of `TimeSynthesis`: its used nonces, with the time each was recorded. -/
structure TimeSynthesis where
  usedNonces : InsertionMap String ℤ

namespace TimeSynthesis

/-- The instance that the constructor returns. -/
def new : TimeSynthesis := ⟨.empty⟩

/-! ## The synthesized time -/

def allSourcesFailed : TTTBaseError :=
  .ofCode "TTT_E043" "[TimeSynthesis] CRITICAL: All NTP sources failed."
    "Zero readings returned from all configured NTP sources"
    "Ensure UDP port 123 is open and NTP servers are reachable."

/-- `synthesize`. -/
def synthesize (results : List (Settled TimeReading)) : Except Thrown SynthesizedTime :=
  match fulfilledValues results with
  | [] => .error (.timeSynthesisError allSourcesFailed)
  | [r] =>
    .ok { timestamp := r.timestamp
          confidence := Binary64.div (Binary64.ofNat 1) (Binary64.ofNat results.length)
          uncertainty := r.uncertainty
          sources := Binary64.ofNat 1
          stratum := r.stratum }
  | readings =>
    match combine (sortReadings readings) with
    | none => .error .typeError
    | some c =>
      .ok { timestamp := c.timestamp
            confidence := Binary64.div (Binary64.ofNat readings.length)
              (Binary64.ofNat results.length)
            uncertainty := c.uncertainty
            sources := Binary64.ofNat readings.length
            stratum := c.stratum }

/-! ## Verification -/

/-- `getToleranceForStratum`, in nanoseconds. -/
def getToleranceForStratum (stratum : Binary64) : ℤ :=
  if stratum.le (.finite 1) then 10000000
  else if stratum = .finite 2 then 25000000
  else 50000000

/-- The lowest stratum among the readings, starting from that of the proof. -/
def lowestStratum (pot : ProofOfTime) : Binary64 :=
  pot.sourceReadings.foldl (fun lowest reading =>
    match reading.stratum with
    | some stratum => if stratum.lt lowest then stratum else lowest
    | none => lowest) pot.stratum

/-- The tolerance check over the readings. The conversion of a reading's uncertainty to whole
nanoseconds throws when there is no such integer. -/
def checkTolerance (timestamp floorToleranceNs : ℤ) :
    List SourceReading → Except Thrown Bool
  | [] => .ok true
  | sig :: rest =>
    let diff := if sig.timestamp > timestamp then sig.timestamp - timestamp
      else timestamp - sig.timestamp
    match ((sig.uncertainty.mul (.finite 1000000)).roundHalfUp).toInt? with
    | none => .error .rangeError
    | some ownToleranceNs =>
      let toleranceNs := if ownToleranceNs > floorToleranceNs then ownToleranceNs
        else floorToleranceNs
      if diff > toleranceNs then .ok false
      else checkTolerance timestamp floorToleranceNs rest

/-- `verifyProofOfTime`. The clock is read twice: for the expiration check, and for the cache. -/
def verifyProofOfTime (self : TimeSynthesis) (expiryNow now : ℤ) (pot : ProofOfTime) :
    Except Thrown Bool × TimeSynthesis :=
  if pot.sourceReadings.length = 0 then (.ok false, self)
  else if pot.confidence.le (.finite 0) then (.ok false, self)
  else
    let floorToleranceNs := getToleranceForStratum (lowestStratum pot)
    if expiryNow > pot.expiresAt then (.ok false, self)
    else
      let (fresh, usedNonces) :=
        ReplayCache.query MAX_NONCE_CACHE NONCE_TTL_MS self.usedNonces now pot.nonce
      if fresh then
        (checkTolerance pot.timestamp floorToleranceNs pot.sourceReadings, ⟨usedNonces⟩)
      else (.ok false, ⟨usedNonces⟩)

/-! ## Generation -/

def potAllFailed : TTTBaseError :=
  .ofCode "TTT_E044" "[TimeSynthesis] Cannot generate PoT: All NTP sources failed."
    "No successful readings from NTP servers." "Check internet connection and UDP 123 access."

def selfVerifyFailed : TTTBaseError :=
  .ofCode "TTT_E045" "[PoT] Self-verification failed"
    "Source readings are too far apart from synthesized median"
    "Check for high network jitter or malicious NTP spoofing."

/-- The clock readings of one `generateProofOfTime`: for the expiry of the proof, then the two of
its self-verification. -/
structure GenerationClock where
  issued : ℤ
  expiryNow : ℤ
  now : ℤ

/-- `generateProofOfTime`. -/
def generateProofOfTime (self : TimeSynthesis) (results : List (Settled TimeReading))
    (nonce : String) (clock : GenerationClock) : Except Thrown ProofOfTime × TimeSynthesis :=
  let readings := sortReadings (fulfilledValues results)
  match combine readings with
  | none => (.error (.timeSynthesisError potAllFailed), self)
  | some c =>
    let pot : ProofOfTime :=
      { timestamp := c.timestamp
        uncertainty := c.uncertainty
        sources := Binary64.ofNat readings.length
        stratum := c.stratum
        confidence := Binary64.div (Binary64.ofNat readings.length)
          (Binary64.ofNat results.length)
        sourceReadings := readings.map TimeReading.toSourceReading
        nonce := nonce
        expiresAt := clock.issued + 60000 }
    match self.verifyProofOfTime clock.expiryNow clock.now pot with
    | (.error e, self') => (.error e, self')
    | (.ok false, self') => (.error (.timeSynthesisError selfVerifyFailed), self')
    | (.ok true, self') => (.ok pot, self')

/-- A generated proof carries the nonce and the expiry of its call, and has passed the verifier of
the instance. -/
theorem generateProofOfTime_ok {self : TimeSynthesis} {results : List (Settled TimeReading)}
    {nonce : String} {clock : GenerationClock} {pot : ProofOfTime}
    (h : (self.generateProofOfTime results nonce clock).1 = .ok pot) :
    combine (sortReadings (fulfilledValues results)) =
        some ⟨pot.timestamp, pot.uncertainty, pot.stratum⟩ ∧
      pot.nonce = nonce ∧ pot.expiresAt = clock.issued + 60000 ∧
      (self.verifyProofOfTime clock.expiryNow clock.now pot).1 = .ok true ∧
      (self.generateProofOfTime results nonce clock).2 =
        (self.verifyProofOfTime clock.expiryNow clock.now pot).2 := by
  unfold generateProofOfTime at h ⊢
  cases hc : combine (sortReadings (fulfilledValues results)) with
  | none => simp [hc] at h
  | some c =>
    simp only [hc] at h ⊢
    split at h
    · simp at h
    · simp at h
    · rename_i self' hv
      rw [Except.ok.injEq] at h
      subst h
      simp [hv]

/-! ## The verifier and its cache -/

/-- One call of `verifyProofOfTime`. -/
structure VerifyCall where
  expiryNow : ℤ
  now : ℤ
  pot : ProofOfTime

/-- The checks that precede the query of the cache. -/
def passesFirst (c : VerifyCall) : Bool :=
  !(decide (c.pot.sourceReadings.length = 0) || c.pot.confidence.le (.finite 0) ||
    decide (c.expiryNow > c.pot.expiresAt))

/-- The verifier as a guard in front of the nonce cache. -/
def guard : ReplayCache.Guard String VerifyCall where
  capacity := MAX_NONCE_CACHE
  ttl := NONCE_TTL_MS
  passes := passesFirst
  key c := c.pot.nonce
  now := VerifyCall.now

theorem guard_passes_iff {c : VerifyCall} : guard.passes c = true ↔
    ¬ c.pot.sourceReadings.length = 0 ∧ ¬ c.pot.confidence.le (.finite 0) = true ∧
      ¬ c.expiryNow > c.pot.expiresAt := by
  simp [guard, passesFirst, and_assoc]

/-- A call, as the step of an instance. -/
def verifyCall (self : TimeSynthesis) (c : VerifyCall) : Except Thrown Bool × TimeSynthesis :=
  self.verifyProofOfTime c.expiryNow c.now c.pot

/-- What a call does: nothing before the first checks have passed; then the query of the cache,
whose freshness the result depends on. -/
theorem verifyCall_eq (self : TimeSynthesis) (c : VerifyCall) :
    self.verifyCall c =
      (if (guard.step self.usedNonces c).1 = true then
        checkTolerance c.pot.timestamp (getToleranceForStratum (lowestStratum c.pot))
          c.pot.sourceReadings
      else .ok false, ⟨(guard.step self.usedNonces c).2⟩) := by
  unfold verifyCall verifyProofOfTime
  by_cases hlen : c.pot.sourceReadings.length = 0
  · rw [guard.step_of_not_passes fun h => (guard_passes_iff.1 h).1 hlen, if_pos hlen]
    rfl
  rw [if_neg hlen]
  by_cases hconf : c.pot.confidence.le (.finite 0) = true
  · rw [guard.step_of_not_passes fun h => (guard_passes_iff.1 h).2.1 hconf, if_pos hconf]
    rfl
  rw [if_neg hconf]
  by_cases hexp : c.expiryNow > c.pot.expiresAt
  · rw [guard.step_of_not_passes fun h => (guard_passes_iff.1 h).2.2 hexp]
    simp only [if_pos hexp]
    rfl
  have hstep : guard.step self.usedNonces c =
      ReplayCache.query MAX_NONCE_CACHE NONCE_TTL_MS self.usedNonces c.now c.pot.nonce :=
    guard.step_of_passes (guard_passes_iff.2 ⟨hlen, hconf, hexp⟩)
  rw [hstep]
  simp only [if_neg hexp]
  rcases ReplayCache.query MAX_NONCE_CACHE NONCE_TTL_MS self.usedNonces c.now c.pot.nonce with
    ⟨fresh, usedNonces⟩
  cases fresh <;> rfl

theorem usedNonces_verifyCall (self : TimeSynthesis) (c : VerifyCall) :
    (self.verifyCall c).2.usedNonces = (guard.step self.usedNonces c).2 := by
  rw [verifyCall_eq]

/-- A call that returns true has passed the first checks with a fresh nonce. -/
theorem fresh_of_verifyCall_true {self : TimeSynthesis} {c : VerifyCall}
    (h : (self.verifyCall c).1 = .ok true) : (guard.step self.usedNonces c).1 = true := by
  rw [verifyCall_eq] at h
  by_contra hf
  rw [if_neg hf] at h
  simp at h

/-- The verifier refines its guard: what it admits are the calls that return true. -/
theorem refines_guard : ReplayCache.Refines guard verifyCall usedNonces (fun _ => True)
    fun r => r = .ok true where
  keeps _ _ h := h
  cache_step self c _ := self.usedNonces_verifyCall c
  fresh _ _ _ h := fresh_of_verifyCall_true h

/-- The nonce cache after a run of calls. -/
theorem usedNonces_after (self : TimeSynthesis) (cs : List VerifyCall) :
    (Mealy.after verifyCall self cs).usedNonces = guard.cacheAfter self.usedNonces cs :=
  (refines_guard.cache_after trivial cs).1

/-- A call with a nonce that is not fresh returns false. -/
theorem verifyCall_of_not_fresh {self : TimeSynthesis} {c : VerifyCall}
    (h : (guard.step self.usedNonces c).1 = false) : (self.verifyCall c).1 = .ok false := by
  rw [verifyCall_eq, h]
  rfl

end TimeSynthesis

end OpenTTT
