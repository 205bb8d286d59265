import OpenTTT.Foundations.ReplayTrace
import OpenTTT.Time.HttpProofs

/-!
# What a rejected proof leaves behind

Both verifiers record the nonce of a proof before the last of their checks, so a proof whose
readings are too far apart uses up its nonce, and a proof whose nonce is a duplicate may sweep the
cache. `rejection_without_effect_iff` says which rejected proofs have no effect on later
verifications: those that do not get to the cache, and duplicates for which nothing is swept. Of
later verifications at later times a sweep is not noticed either if it leaves more than half of the
cache.
-/

namespace OpenTTT

/-- Calls on a clock that does not run back and has not been behind `now`. -/
def Later {γ : Type*} (readings : γ → List ℤ) (now : ℤ) (calls : List γ) : Prop :=
  ClockNonDecreasing readings calls ∧ ∀ c ∈ calls, ∀ t ∈ readings c, now ≤ t

/-- A call that reads the clock at one instant is a later one from this instant on. -/
theorem later_singleton {γ : Type*} {readings : γ → List ℤ} {now t : ℤ} {c : γ}
    (hc : ∀ x ∈ readings c, x = t) (ht : now ≤ t) : Later readings now [c] := by
  have hclock : ∀ d ∈ [c], ∀ x ∈ readings d, x = t := by
    intro d hd
    rw [List.mem_singleton.1 hd]
    exact hc
  exact ⟨clockNonDecreasing_of_const hclock, fun d hd x hx => (hclock d hd x hx).symm ▸ ht⟩

namespace TimeSynthesis

/-- The nonces against which a verification at `now` holds that of its proof. -/
def liveNonces (self : TimeSynthesis) (now : ℤ) : InsertionMap String ℤ :=
  ReplayCache.live MAX_NONCE_CACHE NONCE_TTL_MS now self.usedNonces

/-- The proof is not accepted: the verification returns false or throws. -/
def Rejects (self : TimeSynthesis) (c : VerifyCall) : Prop := (self.verifyCall c).1 ≠ .ok true

/-- Later verifications end as they do without the call. -/
def NoEffect (self : TimeSynthesis) (c : VerifyCall) : Prop :=
  ∀ calls, (self.verifyCall c).2.verifyAll calls = self.verifyAll calls

/-- Later verifications on a clock that does not run back end as they do without the call. -/
def NoEffectForward (self : TimeSynthesis) (c : VerifyCall) : Prop :=
  ∀ calls, Later VerifyCall.clock c.now calls →
    (self.verifyCall c).2.verifyAll calls = self.verifyAll calls

/-- The call ends before the nonce is looked up, or the nonce is found with nothing to sweep. -/
def Traceless (self : TimeSynthesis) (c : VerifyCall) : Prop :=
  guard.passes c = true →
    c.pot.nonce ∈ (self.liveNonces c.now).keys ∧ self.liveNonces c.now = self.usedNonces

/-- The call ends before the nonce is looked up, or the nonce is found with nothing to sweep, or
with more than half of the cache left after the sweep. -/
def TracelessForward (self : TimeSynthesis) (c : VerifyCall) : Prop :=
  guard.passes c = true →
    c.pot.nonce ∈ (self.liveNonces c.now).keys ∧
      (self.liveNonces c.now = self.usedNonces ∨
        MAX_NONCE_CACHE / 2 < (self.liveNonces c.now).size)

/-- What a call returns when the nonce is fresh, and when it is not. -/
def outcome (c : VerifyCall) (fresh : Bool) : Except Thrown Bool :=
  if fresh = true then
    checkTolerance c.pot.timestamp (getToleranceForStratum (lowestStratum c.pot))
      c.pot.sourceReadings
  else .ok false

theorem verifyCall_eq_verify (self : TimeSynthesis) (c : VerifyCall) : self.verifyCall c =
    ((guard.verify outcome self.usedNonces c).1, ⟨(guard.verify outcome self.usedNonces c).2⟩) :=
  verifyCall_eq self c

/-- A run of calls is one of the guard. -/
theorem verifyAll_eq (self : TimeSynthesis) (calls : List VerifyCall) :
    self.verifyAll calls = Mealy.outputs (guard.verify outcome) self.usedNonces calls := by
  unfold verifyAll
  induction calls generalizing self with
  | nil => rfl
  | cons c calls ih => rw [Mealy.outputs, Mealy.outputs, ih, verifyCall_eq_verify]

/-- A proof with a nonce that is accepted at a time if the nonce is fresh. -/
def probe (nonce : String) (now : ℤ) : VerifyCall where
  expiryNow := now
  now := now
  pot := { (floodCall 0).pot with nonce := nonce, expiresAt := now }

theorem probes_probe : guard.Probes outcome probe where
  passes nonce now := by
    obtain ⟨hlength, hconfidence, -⟩ := guard_passes_iff.1 (guard_passes_floodCall 0)
    exact guard_passes_iff.2 ⟨hlength, hconfidence, Int.lt_irrefl now⟩
  key _ _ := rfl
  now _ _ := rfl
  tells nonce now := by
    have htrue : outcome (probe nonce now) true = .ok true := by
      change checkTolerance 0 (getToleranceForStratum (lowestStratum (floodCall 0).pot))
        floodReadings = .ok true
      decide +kernel
    have hfalse : outcome (probe nonce now) false = .ok false := rfl
    rw [htrue, hfalse]
    simp

theorem noEffect_iff (self : TimeSynthesis) (c : VerifyCall) :
    self.NoEffect c ↔ self.Traceless c := by
  have httl : 0 ≤ guard.ttl := by decide
  rw [show self.Traceless c ↔ guard.Traceless self.usedNonces c from Iff.rfl,
    ← probes_probe.outputs_step_iff httl]
  refine forall_congr' fun calls => ?_
  rw [verifyAll_eq, verifyAll_eq, usedNonces_verifyCall]

theorem noEffectForward_iff (self : TimeSynthesis) (c : VerifyCall) :
    self.NoEffectForward c ↔ self.TracelessForward c := by
  have httl : 0 ≤ guard.ttl := by decide
  have hprobe : ∀ nonce t, guard.now c ≤ t → Later VerifyCall.clock c.now [probe nonce t] :=
    fun nonce t ht => later_singleton (by simp [VerifyCall.clock, probe]) ht
  have hlater : ∀ calls, Later VerifyCall.clock c.now calls →
      ∀ d ∈ calls, guard.now c ≤ guard.now d :=
    fun calls h d hd => h.2 d hd d.now (by simp [VerifyCall.clock])
  rw [show self.TracelessForward c ↔ guard.TracelessForward self.usedNonces c from Iff.rfl,
    ← probes_probe.outputs_step_iff_forward httl self.usedNonces c hprobe hlater]
  refine forall_congr' fun calls => ?_
  rw [verifyAll_eq, verifyAll_eq, usedNonces_verifyCall]

end TimeSynthesis

namespace HttpOnlyClient

variable (hmacSha256 : HmacSha256)

/-- The proof is not accepted: the verification does not return that it is valid, or throws. -/
def Rejects (self : HttpOnlyClient) (c : VerifyCall) : Prop :=
  ∀ r, (self.verifyCall hmacSha256 c).1 = .ok r → r.valid = false

/-- Later verifications end as they do without the call. -/
def NoEffect (self : HttpOnlyClient) (c : VerifyCall) : Prop :=
  ∀ calls, (self.verifyCall hmacSha256 c).2.verifyAll hmacSha256 calls =
    self.verifyAll hmacSha256 calls

/-- Later verifications on a clock that does not run back end as they do without the call. -/
def NoEffectForward (self : HttpOnlyClient) (c : VerifyCall) : Prop :=
  ∀ calls, Later VerifyCall.clock c.now calls →
    (self.verifyCall hmacSha256 c).2.verifyAll hmacSha256 calls = self.verifyAll hmacSha256 calls

/-- The call ends before the nonce is looked up, or the nonce is found with nothing to sweep. -/
def Traceless (self : HttpOnlyClient) (c : VerifyCall) : Prop :=
  (guard hmacSha256 self.hmacSecret).passes c = true →
    c.pot.nonce ∈ (self.liveNonces c.now).keys ∧ self.liveNonces c.now = self.usedNonces

/-- The call ends before the nonce is looked up, or the nonce is found with nothing to sweep, or
with more than half of the cache left after the sweep. -/
def TracelessForward (self : HttpOnlyClient) (c : VerifyCall) : Prop :=
  (guard hmacSha256 self.hmacSecret).passes c = true →
    c.pot.nonce ∈ (self.liveNonces c.now).keys ∧
      (self.liveNonces c.now = self.usedNonces ∨
        MAX_NONCE_CACHE / 2 < (self.liveNonces c.now).size)

/-- What a call returns when the nonce is fresh, and when it is not. -/
def outcome (self : HttpOnlyClient) (c : VerifyCall) (fresh : Bool) :
    Except Thrown HttpPoTVerifyResult :=
  if c.expiryNow > c.pot.expiresAt then .ok ⟨false, some "PoT expired"⟩
  else
    match checkHmac hmacSha256 self c.pot with
    | .error e => .error e
    | .ok false => .ok ⟨false, some "HMAC mismatch — PoT may have been tampered"⟩
    | .ok true =>
      if fresh = true then
        .ok (checkDivergence c.pot.timestamp self.toleranceNs c.pot.sourceReadings)
      else .ok ⟨false, some "Duplicate nonce — replay detected"⟩

theorem verifyCall_fst (self : HttpOnlyClient) (c : VerifyCall) :
    (self.verifyCall hmacSha256 c).1 = self.outcome hmacSha256 c
      ((guard hmacSha256 self.hmacSecret).step self.usedNonces c).1 := by
  unfold verifyCall verifyPoT outcome
  by_cases hexp : c.expiryNow > c.pot.expiresAt
  · rw [if_pos hexp, if_pos hexp]
  rw [if_neg hexp, if_neg hexp]
  cases hcheck : checkHmac hmacSha256 self c.pot with
  | error e => rfl
  | ok authentic =>
    cases authentic with
    | false => rfl
    | true =>
      have hpass := (guard_passes_iff hmacSha256).2
        ⟨hexp, (checkHmac_eq_ok_true hmacSha256).1 hcheck⟩
      rw [(guard hmacSha256 self.hmacSecret).step_of_passes hpass]
      change (if (ReplayCache.query MAX_NONCE_CACHE NONCE_TTL_MS self.usedNonces c.now
        c.pot.nonce).1 = true then _ else _ : Except Thrown HttpPoTVerifyResult × _).1 = _
      split <;> rename_i hfresh
      · exact (if_pos hfresh).symm
      · exact (if_neg hfresh).symm

/-- A run of calls is one of the guard. -/
theorem verifyAll_eq (self : HttpOnlyClient) (calls : List VerifyCall) :
    self.verifyAll hmacSha256 calls =
      Mealy.outputs ((guard hmacSha256 self.hmacSecret).verify (self.outcome hmacSha256))
        self.usedNonces calls := by
  unfold verifyAll
  induction calls generalizing self with
  | nil => rfl
  | cons c calls ih =>
    rw [Mealy.outputs, Mealy.outputs, ih, verifyCall_snd, verifyCall_fst]
    rfl

/-- A proof with a nonce that is accepted at a time if the nonce is fresh: it has the HMAC of the
secret and no readings that could diverge. -/
def probe (secret : String) (nonce : String) (now : ℤ) : VerifyCall where
  expiryNow := now
  now := now
  pot :=
    { timestamp := 0, confidence := .finite 1, stratum := .finite 2, sources := .finite 1,
      sourceReadings := [], nonce := nonce, expiresAt := now,
      hmac := computeHmac hmacSha256 0 nonce now (.finite 1) secret }

theorem guard_passes_probe (secret nonce : String) (now : ℤ) :
    (guard hmacSha256 secret).passes (probe hmacSha256 secret nonce now) = true :=
  (guard_passes_iff hmacSha256).2 ⟨Int.lt_irrefl now, rfl⟩

theorem probes_probe (self : HttpOnlyClient) :
    (guard hmacSha256 self.hmacSecret).Probes (self.outcome hmacSha256)
      (probe hmacSha256 self.hmacSecret) where
  passes nonce now := guard_passes_probe hmacSha256 self.hmacSecret nonce now
  key _ _ := rfl
  now _ _ := rfl
  tells nonce now := by
    obtain ⟨hexp, hauth⟩ :=
      (guard_passes_iff hmacSha256).1 (guard_passes_probe hmacSha256 self.hmacSecret nonce now)
    unfold outcome
    rw [if_neg hexp, if_neg hexp, (checkHmac_eq_ok_true hmacSha256).2 hauth]
    simp [probe, checkDivergence]

theorem noEffect_iff (self : HttpOnlyClient) (c : VerifyCall) :
    self.NoEffect hmacSha256 c ↔ self.Traceless hmacSha256 c := by
  have httl : 0 ≤ (guard hmacSha256 self.hmacSecret).ttl := by
    change 0 ≤ NONCE_TTL_MS
    decide
  rw [show self.Traceless hmacSha256 c ↔
      (guard hmacSha256 self.hmacSecret).Traceless self.usedNonces c from Iff.rfl,
    ← (probes_probe hmacSha256 self).outputs_step_iff httl]
  refine forall_congr' fun calls => ?_
  rw [verifyAll_eq, verifyAll_eq, verifyCall_snd]
  exact Iff.rfl

theorem noEffectForward_iff (self : HttpOnlyClient) (c : VerifyCall) :
    self.NoEffectForward hmacSha256 c ↔ self.TracelessForward hmacSha256 c := by
  have httl : 0 ≤ (guard hmacSha256 self.hmacSecret).ttl := by
    change 0 ≤ NONCE_TTL_MS
    decide
  have hprobe : ∀ nonce t, (guard hmacSha256 self.hmacSecret).now c ≤ t →
      Later VerifyCall.clock c.now [probe hmacSha256 self.hmacSecret nonce t] :=
    fun nonce t ht => later_singleton (by simp [VerifyCall.clock, probe]) ht
  have hlater : ∀ calls, Later VerifyCall.clock c.now calls → ∀ d ∈ calls,
      (guard hmacSha256 self.hmacSecret).now c ≤ (guard hmacSha256 self.hmacSecret).now d :=
    fun calls h d hd => h.2 d hd d.now (by simp [VerifyCall.clock])
  rw [show self.TracelessForward hmacSha256 c ↔
      (guard hmacSha256 self.hmacSecret).TracelessForward self.usedNonces c from Iff.rfl,
    ← (probes_probe hmacSha256 self).outputs_step_iff_forward httl self.usedNonces c hprobe hlater]
  refine forall_congr' fun calls => ?_
  rw [verifyAll_eq, verifyAll_eq, verifyCall_snd]
  exact Iff.rfl

end HttpOnlyClient

/-! ## Rejected proofs -/

/-- **Which rejected proofs have no effect.** The verifications after a proof that is rejected end
as they do without it, if and only if the call ends before the nonce is looked up, or the nonce is
found with nothing to sweep. For verifications at later times, a sweep may also leave more than half
of the cache. -/
theorem rejection_without_effect_iff (hmacSha256 : HmacSha256) (synthesis : TimeSynthesis)
    (c : TimeSynthesis.VerifyCall) (client : HttpOnlyClient) (d : HttpOnlyClient.VerifyCall) :
    (synthesis.Rejects c →
      (synthesis.NoEffect c ↔ synthesis.Traceless c) ∧
        (synthesis.NoEffectForward c ↔ synthesis.TracelessForward c)) ∧
    (client.Rejects hmacSha256 d →
      (client.NoEffect hmacSha256 d ↔ client.Traceless hmacSha256 d) ∧
        (client.NoEffectForward hmacSha256 d ↔ client.TracelessForward hmacSha256 d)) :=
  ⟨fun _ => ⟨synthesis.noEffect_iff c, synthesis.noEffectForward_iff c⟩,
    fun _ => ⟨client.noEffect_iff hmacSha256 d, client.noEffectForward_iff hmacSha256 d⟩⟩

namespace TimeSynthesis

/-- A proof of the flood, one second off. -/
def alteredCall : VerifyCall where
  expiryNow := 0
  now := 0
  pot := { (floodCall 0).pot with timestamp := 1000000000 }

theorem passes_alteredCall : guard.passes alteredCall = true :=
  guard_passes_floodCall 0

theorem rejects_alteredCall : new.Rejects alteredCall := by
  have hfresh : (guard.step new.usedNonces alteredCall).1 = true := by
    rw [guard.step_of_passes passes_alteredCall]
    rfl
  have hfar : checkTolerance 1000000000 (getToleranceForStratum (lowestStratum (floodCall 0).pot))
      floodReadings = .ok false := by
    decide +kernel
  unfold Rejects
  rw [verifyCall_eq, if_pos hfresh]
  change ¬ checkTolerance 1000000000 (getToleranceForStratum (lowestStratum (floodCall 0).pot))
    floodReadings = .ok true
  rw [hfar]
  simp

end TimeSynthesis

namespace HttpOnlyClient

variable (hmacSha256 : HmacSha256)

/-- A proof of the flood with another reading, which its HMAC does not cover. -/
def alteredCall : VerifyCall where
  expiryNow := 0
  now := 0
  pot := { (floodCall hmacSha256 0).pot with
    sourceReadings := [⟨"nist", 3000000000, .finite 500, some (.finite 2)⟩] }

theorem passes_alteredCall :
    (guard hmacSha256 (new {}).hmacSecret).passes (alteredCall hmacSha256) = true :=
  guard_passes_floodCall hmacSha256 0

theorem rejects_alteredCall : (new {}).Rejects hmacSha256 (alteredCall hmacSha256) := by
  have hfresh : ((guard hmacSha256 (new {}).hmacSecret).step (new {}).usedNonces
      (alteredCall hmacSha256)).1 = true := by
    rw [(guard hmacSha256 (new {}).hmacSecret).step_of_passes (passes_alteredCall hmacSha256)]
    rfl
  intro r hr
  rw [verifyCall_of_fresh hmacSha256 hfresh, Except.ok.injEq] at hr
  rw [← hr]
  rfl

end HttpOnlyClient

/-- An altered copy of a proof uses up its nonce, whatever the HMAC is. -/
theorem rejection_has_effect :
    (¬ ∀ (calls : List TimeSynthesis.VerifyCall) (c : TimeSynthesis.VerifyCall),
      (Mealy.after TimeSynthesis.verifyCall .new calls).Rejects c →
      (Mealy.after TimeSynthesis.verifyCall .new calls).NoEffect c) ∧
    ∀ hmacSha256 : HmacSha256, ¬ ∀ (calls : List HttpOnlyClient.VerifyCall)
      (c : HttpOnlyClient.VerifyCall),
      (Mealy.after (HttpOnlyClient.verifyCall hmacSha256) (.new {}) calls).Rejects hmacSha256 c →
      (Mealy.after (HttpOnlyClient.verifyCall hmacSha256) (.new {}) calls).NoEffect
        hmacSha256 c := by
  constructor
  · intro h
    have htrace := (TimeSynthesis.noEffect_iff _ _).1
      (h [] TimeSynthesis.alteredCall TimeSynthesis.rejects_alteredCall)
    have hmem := (htrace TimeSynthesis.passes_alteredCall).1
    exact List.not_mem_nil hmem
  · intro hmacSha256 h
    have htrace := (HttpOnlyClient.noEffect_iff hmacSha256 _ _).1
      (h [] (HttpOnlyClient.alteredCall hmacSha256) (HttpOnlyClient.rejects_alteredCall hmacSha256))
    have hmem := (htrace (HttpOnlyClient.passes_alteredCall hmacSha256)).1
    exact List.not_mem_nil hmem

/-- The altered proofs on new instances. -/
theorem rejection_without_effect_iff_altered :
    (TimeSynthesis.new.NoEffect TimeSynthesis.alteredCall ↔
      TimeSynthesis.new.Traceless TimeSynthesis.alteredCall) ∧
    ((HttpOnlyClient.new {}).NoEffect floodHmac (HttpOnlyClient.alteredCall floodHmac) ↔
      (HttpOnlyClient.new {}).Traceless floodHmac (HttpOnlyClient.alteredCall floodHmac)) :=
  have h := rejection_without_effect_iff floodHmac .new TimeSynthesis.alteredCall (.new {})
    (HttpOnlyClient.alteredCall floodHmac)
  ⟨(h.1 TimeSynthesis.rejects_alteredCall).1,
    (h.2 (HttpOnlyClient.rejects_alteredCall floodHmac)).1⟩

end OpenTTT
