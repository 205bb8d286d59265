import OpenTTT.Time.Agreement
import OpenTTT.Time.Replay

/-!
# The proofs of the HTTPS-only client

`generatePoT` combines its readings into one timestamp and does not compare them with it;
`verifyPoT` does, with the tolerance of the client. A client therefore accepts its own proof, the
first time it sees the nonce, if and only if the readings agree up to this tolerance
(`verifyPoT_own_iff`): it may return a proof that it rejects (`not_acceptsOwnProofs`).
-/

namespace OpenTTT

namespace HttpOnlyClient

variable (hmacSha256 : HmacSha256)

/-! ## The generation -/

/-- The proof that a client builds from its combined readings. -/
def builtPoT (self : HttpOnlyClient) (results : List (Settled RawReading)) (nonce : String)
    (expiresAt : ℤ) (c : Combined) : HttpPoT where
  timestamp := c.timestamp
  confidence := Binary64.div (Binary64.ofNat (fulfilledValues results).length)
    (Binary64.ofNat SOURCES.length)
  stratum := c.stratum
  sources := Binary64.ofNat (fulfilledValues results).length
  sourceReadings := (sortReadings (fulfilledValues results)).map TimeReading.toSourceReading
  nonce := nonce
  expiresAt := expiresAt
  hmac := computeHmac hmacSha256 c.timestamp nonce expiresAt
    (Binary64.ofNat (fulfilledValues results).length) self.hmacSecret

/-- A generation returns the proof it builds, if there is a reading and the validity is a number of
milliseconds. -/
theorem generatePoT_eq_ok_iff {self : HttpOnlyClient} {results : List (Settled RawReading)}
    {nonce : String} {now : ℤ} {pot : HttpPoT} :
    self.generatePoT hmacSha256 results nonce now = .ok pot ↔
      ∃ c expiryMs, combine (sortReadings (fulfilledValues results)) = some c ∧
        (self.expirySeconds.mul (.finite 1000)).toInt? = some expiryMs ∧
        self.builtPoT hmacSha256 results nonce (now + expiryMs) c = pot := by
  simp only [generatePoT, builtPoT, length_sortReadings]
  cases combine (sortReadings (fulfilledValues results)) with
  | none => simp
  | some c =>
    cases (self.expirySeconds.mul (.finite 1000)).toInt? with
    | none => simp
    | some expiryMs => simp

/-- A client's own proof carries the HMAC of its secret. -/
theorem authentic_of_generated {self : HttpOnlyClient} {results : List (Settled RawReading)}
    {nonce : String} {now : ℤ} {pot : HttpPoT}
    (h : self.generatePoT hmacSha256 results nonce now = .ok pot) :
    Authentic hmacSha256 self.hmacSecret pot := by
  obtain ⟨c, expiryMs, -, -, rfl⟩ := (generatePoT_eq_ok_iff hmacSha256).1 h
  rfl

/-! ## The verification -/

/-- The divergence check holds if every reading is within the tolerance of the timestamp. -/
theorem checkDivergence_eq_valid {timestamp toleranceNs : ℤ} {readings : List SourceReading} :
    checkDivergence timestamp toleranceNs readings = ⟨true, none⟩ ↔
      ∀ r ∈ readings, |r.timestamp - timestamp| ≤ toleranceNs := by
  induction readings with
  | nil => simp [checkDivergence]
  | cons reading rest ih =>
    rw [checkDivergence, List.forall_mem_cons]
    simp only [ite_sub_eq_abs]
    split
    · rename_i hfar
      exact iff_of_false nofun fun h => not_lt.2 h.1 hfar
    · rename_i hnear
      rw [ih]
      exact (and_iff_right (not_lt.1 hnear)).symm

/-- The nonces against which a verification at `now` holds that of its proof: those of the cache,
after the old ones are deleted from a large one. -/
def liveNonces (self : HttpOnlyClient) (now : ℤ) : InsertionMap String ℤ :=
  if self.usedNonces.size > MAX_NONCE_CACHE / 2 then
    ReplayCache.sweep NONCE_TTL_MS now self.usedNonces
  else self.usedNonces

/-- An authentic proof is accepted in time if its nonce is not live and its readings are within the
tolerance. -/
theorem verifyPoT_eq_valid_iff {self : HttpOnlyClient} {expiryNow now : ℤ} {pot : HttpPoT}
    (hauth : Authentic hmacSha256 self.hmacSecret pot) (hexp : expiryNow ≤ pot.expiresAt) :
    (self.verifyPoT hmacSha256 expiryNow now pot).1 = .ok ⟨true, none⟩ ↔
      pot.nonce ∉ (self.liveNonces now).keys ∧
        ∀ r ∈ pot.sourceReadings, |r.timestamp - pot.timestamp| ≤ self.toleranceNs := by
  have hpass : (guard hmacSha256 self.hmacSecret).passes ⟨expiryNow, now, pot⟩ = true :=
    (guard_passes_iff hmacSha256).2 ⟨not_lt.2 hexp, hauth⟩
  have hfresh : ((guard hmacSha256 self.hmacSecret).step self.usedNonces
      ⟨expiryNow, now, pot⟩).1 = true ↔ pot.nonce ∉ (self.liveNonces now).keys := by
    rw [(guard hmacSha256 self.hmacSecret).step_of_passes hpass, ← InsertionMap.has_iff,
      Bool.not_eq_true, ← Bool.not_eq_true']
    exact Eq.congr_left (ReplayCache.query_fst pot.nonce)
  rw [← hfresh, ← checkDivergence_eq_valid]
  constructor
  · intro h
    have hstep := fresh_of_verifyCall_valid hmacSha256 (c := ⟨expiryNow, now, pot⟩) h rfl
    refine ⟨hstep, ?_⟩
    have hcall := verifyCall_of_fresh hmacSha256 hstep
    exact Except.ok.inj (hcall.symm.trans h)
  · rintro ⟨hstep, hcheck⟩
    exact (verifyCall_of_fresh hmacSha256 hstep).trans (congrArg Except.ok hcheck)

/-- The readings of a client's own proof are within a tolerance of its timestamp if and only if they
agree up to it. -/
theorem within_own_iff {self : HttpOnlyClient} {results : List (Settled RawReading)}
    {nonce : String} {now : ℤ} {pot : HttpPoT}
    (h : self.generatePoT hmacSha256 results nonce now = .ok pot) (tolerance : ℤ) :
    (∀ r ∈ pot.sourceReadings, |r.timestamp - pot.timestamp| ≤ tolerance) ↔
      Agree (fulfilledValues results) fun _ => tolerance := by
  obtain ⟨c, expiryMs, hc, -, rfl⟩ := (generatePoT_eq_ok_iff hmacSha256).1 h
  rw [← within_combine_iff hc]
  simp only [builtPoT, List.forall_mem_map]
  exact forall_congr' fun r => imp_congr_left (sortReadings_perm _).mem_iff

/-- **Which of its own proofs a client accepts.** After any calls, and before its expiry, a proof
that the client has generated is valid if and only if its nonce is not live in the cache and its
readings agree up to the tolerance of the client. If the nonce has not been verified before, the
readings decide. -/
theorem verifyPoT_own_iff (self : HttpOnlyClient) (results : List (Settled RawReading))
    (nonce : String) (issued : ℤ) (pot : HttpPoT) (calls : List VerifyCall) (expiryNow now : ℤ)
    (hgen : self.generatePoT hmacSha256 results nonce issued = .ok pot)
    (hexp : expiryNow ≤ pot.expiresAt) :
    (((Mealy.after (verifyCall hmacSha256) self calls).verifyPoT hmacSha256 expiryNow now pot).1 =
        .ok ⟨true, none⟩ ↔
      nonce ∉ ((Mealy.after (verifyCall hmacSha256) self calls).liveNonces now).keys ∧
        Agree (fulfilledValues results) fun _ => self.toleranceNs) ∧
    (nonce ∉ self.usedNonces.keys → (∀ c ∈ calls, nonce ≠ c.pot.nonce) →
      (((Mealy.after (verifyCall hmacSha256) self calls).verifyPoT hmacSha256 expiryNow now
          pot).1 = .ok ⟨true, none⟩ ↔
        Agree (fulfilledValues results) fun _ => self.toleranceNs)) := by
  have hnonce : pot.nonce = nonce := by
    obtain ⟨c, expiryMs, -, -, rfl⟩ := (generatePoT_eq_ok_iff hmacSha256).1 hgen
    rfl
  have hafter := after_eq hmacSha256 self calls
  have hauth : Authentic hmacSha256 (Mealy.after (verifyCall hmacSha256) self calls).hmacSecret
      pot := by
    rw [hafter]
    exact authentic_of_generated hmacSha256 hgen
  have htolerance : (Mealy.after (verifyCall hmacSha256) self calls).toleranceNs =
      self.toleranceNs := by
    rw [hafter]
  have hvalid : ((Mealy.after (verifyCall hmacSha256) self calls).verifyPoT hmacSha256 expiryNow
      now pot).1 = .ok ⟨true, none⟩ ↔
      nonce ∉ ((Mealy.after (verifyCall hmacSha256) self calls).liveNonces now).keys ∧
        Agree (fulfilledValues results) fun _ => self.toleranceNs := by
    rw [verifyPoT_eq_valid_iff hmacSha256 hauth hexp, htolerance, within_own_iff hmacSha256 hgen,
      hnonce]
  refine ⟨hvalid, fun hself hcalls => ?_⟩
  have hlive : nonce ∉ ((Mealy.after (verifyCall hmacSha256) self calls).liveNonces now).keys := by
    rw [hafter]
    exact ReplayCache.notMem_swept ((guard hmacSha256 self.hmacSecret).notMem_cacheAfter hself
      hcalls) MAX_NONCE_CACHE NONCE_TTL_MS now
  rw [hvalid]
  exact and_iff_right hlive

/-- Readings that are pairwise within the tolerance make a proof that its client accepts. -/
theorem verifyPoT_own_of_near {self : HttpOnlyClient} {results : List (Settled RawReading)}
    {nonce : String} {issued : ℤ} {pot : HttpPoT} {expiryNow now : ℤ}
    (hgen : self.generatePoT hmacSha256 results nonce issued = .ok pot)
    (hexp : expiryNow ≤ pot.expiresAt) (hnonce : nonce ∉ self.usedNonces.keys)
    (hnear : ∀ r ∈ fulfilledValues results, ∀ s ∈ fulfilledValues results,
      |r.timestamp - s.timestamp| ≤ self.toleranceNs) :
    (self.verifyPoT hmacSha256 expiryNow now pot).1 = .ok ⟨true, none⟩ := by
  obtain ⟨c, expiryMs, hc, -⟩ := (generatePoT_eq_ok_iff hmacSha256).1 hgen
  have hne : fulfilledValues results ≠ [] := by
    intro hnil
    rw [hnil] at hc
    cases hc
  have hown := verifyPoT_own_iff hmacSha256 self results nonce issued pot [] expiryNow now hgen hexp
  rw [Mealy.after_nil] at hown
  exact (hown.2 hnonce (by simp)).2 (agree_of_near hne hnear)

/-- That a client accepts its own proofs: on a new client every proof it generates is valid before
its expiry. -/
def AcceptsOwnProofs : Prop :=
  ∀ (options : HttpOnlyClientOptions) (results : List (Settled RawReading)) (nonce : String)
    (issued : ℤ) (pot : HttpPoT) (expiryNow now : ℤ),
    (new options).generatePoT hmacSha256 results nonce issued = .ok pot →
    issued ≤ expiryNow → expiryNow ≤ now → now < pot.expiresAt →
    ((new options).verifyPoT hmacSha256 expiryNow now pot).1 = .ok ⟨true, none⟩

/-- Two readings that agree and one five seconds before them; the fourth source does not answer. -/
def spreadResults : List (Settled RawReading) :=
  [.fulfilled ⟨1700000000000000000, .finite 500, .finite 2, "nist"⟩,
    .fulfilled ⟨1700000005000000000, .finite 500, .finite 2, "apple"⟩,
    .fulfilled ⟨1700000005200000000, .finite 500, .finite 2, "google"⟩,
    .rejected "[httpOnly] Timeout: cloudflare (3000ms)"]

/-- The proof of the spread readings. -/
def spreadPoT : HttpPoT :=
  (new {}).builtPoT hmacSha256 spreadResults "5f1c" (1700000000000 + 60000)
    ⟨1700000005000000000, .finite 500, .finite 2⟩

/-- The default validity is a minute. -/
theorem expiry_new : ((new {}).expirySeconds.mul (.finite 1000)).toInt? = some 60000 := by
  have hround : Binary64.round ((60 : ℚ) * 1000) = .finite 60000 := by
    have h := Binary64.round_natCast (n := 60000) (by norm_num)
    norm_num at h ⊢
    exact h
  change (Binary64.round (60 * 1000)).toInt? = some 60000
  rw [hround]
  rfl

theorem generatePoT_spreadResults : (new {}).generatePoT hmacSha256 spreadResults "5f1c"
    1700000000000 = .ok (spreadPoT hmacSha256) :=
  (generatePoT_eq_ok_iff hmacSha256).2 ⟨_, _, rfl, expiry_new, rfl⟩

theorem not_agree_spreadResults :
    ¬ Agree (fulfilledValues spreadResults) fun _ => (new {}).toleranceNs := by
  decide

/-- Whatever the HMAC is, the client with the default options rejects the proof of the spread
readings. -/
theorem not_acceptsOwnProofs : ¬ ∃ hmacSha256 : HmacSha256, AcceptsOwnProofs hmacSha256 := by
  rintro ⟨hmacSha256, h⟩
  have hgen := generatePoT_spreadResults hmacSha256
  have hexp : (1700000000000 : ℤ) < 1700000000000 + 60000 := by decide
  have hvalid := h {} spreadResults "5f1c" 1700000000000 _ 1700000000000 1700000000000 hgen
    (by decide) (by decide) hexp
  rw [verifyPoT_eq_valid_iff hmacSha256 (authentic_of_generated hmacSha256 hgen) hexp.le,
    within_own_iff hmacSha256 hgen] at hvalid
  exact not_agree_spreadResults hvalid.2

/-- The HMAC of the proof of the spread readings. -/
def spreadHmac : HmacSha256 := fun _ _ =>
  #v[53, 208, 177, 136, 179, 93, 30, 56, 54, 197, 51, 94, 108, 156, 141, 85, 124, 114, 103, 10,
    231, 226, 196, 62, 67, 237, 231, 131, 0, 222, 110, 220]

/-- The spread readings on a new client. -/
theorem verifyPoT_own_iff_spread :
    (((Mealy.after (verifyCall spreadHmac) (new {}) []).verifyPoT spreadHmac 1700000000000
        1700000000000 (spreadPoT spreadHmac)).1 = .ok ⟨true, none⟩ ↔
      "5f1c" ∉ ((Mealy.after (verifyCall spreadHmac) (new {}) []).liveNonces 1700000000000).keys ∧
        Agree (fulfilledValues spreadResults) fun _ => (new {}).toleranceNs) ∧
    (((Mealy.after (verifyCall spreadHmac) (new {}) []).verifyPoT spreadHmac 1700000000000
        1700000000000 (spreadPoT spreadHmac)).1 = .ok ⟨true, none⟩ ↔
      Agree (fulfilledValues spreadResults) fun _ => (new {}).toleranceNs) := by
  have hexp : (1700000000000 : ℤ) ≤ 1700000000000 + 60000 := by decide
  obtain ⟨hvalid, hfirst⟩ := verifyPoT_own_iff spreadHmac (new {}) spreadResults "5f1c"
    1700000000000 (spreadPoT spreadHmac) [] 1700000000000 1700000000000
    (generatePoT_spreadResults spreadHmac) hexp
  exact ⟨hvalid, hfirst (by simp [new]) (by simp)⟩

end HttpOnlyClient

end OpenTTT
