import OpenTTT.Runtime.Json
import OpenTTT.Time.HttpProofs

/-!
# What the HMAC of a proof binds

`computeHmac` signs one message: the timestamp, the nonce, the expiry and the number of sources of a
proof, joined with colons. The message determines the four (`canonicalMessage_inj`), although a
nonce may hold colons itself, so that a proof with one of them altered is rejected unless it
collides with the one it was made from (`tampered_rejected`). The confidence, the stratum and the
readings are not in the message: each of them may be altered (`not_tamperEvident`).
-/

namespace OpenTTT

namespace HttpOnlyClient

/-! ## The message -/

/-- The message of `computeHmac`. -/
def canonicalMessage (timestamp : ℤ) (nonce : String) (expiresAt : ℤ) (sources : Binary64) :
    String :=
  toString timestamp ++ ":" ++ nonce ++ ":" ++ toString expiresAt ++ ":" ++ numberToString sources

/-- The message that the HMAC of a proof is about. -/
def messageOf (pot : HttpPoT) : String :=
  canonicalMessage pot.timestamp pot.nonce pot.expiresAt pot.sources

theorem toList_canonicalMessage (timestamp : ℤ) (nonce : String) (expiresAt : ℤ)
    (sources : Binary64) : (canonicalMessage timestamp nonce expiresAt sources).toList =
      (toString timestamp).toList ++ ':' :: ((nonce.toList ++ ':' :: (toString expiresAt).toList) ++
        ':' :: (numberToString sources).toList) := by
  simp [canonicalMessage]

/-- **The message is unambiguous**: it determines the timestamp, the nonce, the expiry and the text
of the number of sources, whatever characters the nonce holds. -/
theorem canonicalMessage_inj {timestamp timestamp' expiresAt expiresAt' : ℤ} {nonce nonce' : String}
    {sources sources' : Binary64} (h : canonicalMessage timestamp nonce expiresAt sources =
      canonicalMessage timestamp' nonce' expiresAt' sources') :
    timestamp = timestamp' ∧ nonce = nonce' ∧ expiresAt = expiresAt' ∧
      numberToString sources = numberToString sources' := by
  have hcolon (z : ℤ) : ':' ∉ (toString z).toList :=
    DecimalText.notMem_toString_int rfl (by decide) z
  have hchars := congrArg String.toList h
  rw [toList_canonicalMessage, toList_canonicalMessage] at hchars
  -- the first colon follows the timestamp, the last two precede the sources and the expiry
  obtain ⟨htimestamp, hrest⟩ := DecimalText.eq_of_append_cons_eq (hcolon _) (hcolon _) hchars
  obtain ⟨hrest, hsources⟩ := DecimalText.eq_of_append_cons_eq_last (colon_notMem_numberToString _)
    (colon_notMem_numberToString _) hrest
  obtain ⟨hnonce, hexpires⟩ := DecimalText.eq_of_append_cons_eq_last (hcolon _) (hcolon _) hrest
  rw [String.toList_inj] at htimestamp hsources hnonce hexpires
  exact ⟨DecimalText.toString_int_injective htimestamp, hnonce,
    DecimalText.toString_int_injective hexpires, hsources⟩

/-- **The message determines the four fields**: the timestamp, the nonce, the expiry and the number
of sources, which is any double. -/
theorem canonicalMessage_injective : Function.Injective fun fields : ℤ × String × ℤ × Number =>
    canonicalMessage fields.1 fields.2.1 fields.2.2.1 fields.2.2.2.value := by
  rintro ⟨timestamp, nonce, expiresAt, sources⟩ ⟨timestamp', nonce', expiresAt', sources'⟩ h
  obtain ⟨rfl, rfl, rfl, hsources⟩ := canonicalMessage_inj h
  obtain rfl : sources = sources' := numberToString_injective hsources
  rfl

variable (hmacSha256 : HmacSha256)

theorem computeHmac_eq (timestamp : ℤ) (nonce : String) (expiresAt : ℤ) (sources : Binary64)
    (secret : String) : computeHmac hmacSha256 timestamp nonce expiresAt sources secret =
      Buffer.toHex
        (hmacSha256 secret (canonicalMessage timestamp nonce expiresAt sources)).toList :=
  rfl

/-- The bytes of the HMAC that a proof should carry. -/
theorem fromHex_computeHmac (secret : String) (pot : HttpPoT) :
    Buffer.fromHex
        (computeHmac hmacSha256 pot.timestamp pot.nonce pot.expiresAt pot.sources secret) =
      (hmacSha256 secret (messageOf pot)).toList := by
  rw [computeHmac_eq, Buffer.fromHex_toHex]
  rfl

/-! ## Proofs with one HMAC -/

section Altered

variable {self : HttpOnlyClient} {results : List (Settled RawReading)} {nonce : String} {issued : ℤ}
  {pot altered : HttpPoT}

/-- The HMAC of a generated proof. -/
theorem fromHex_hmac_of_generated
    (hgen : self.generatePoT hmacSha256 results nonce issued = .ok pot) :
    Buffer.fromHex pot.hmac = (hmacSha256 self.hmacSecret (messageOf pot)).toList := by
  rw [← fromHex_computeHmac hmacSha256]
  exact (authentic_of_generated hmacSha256 hgen).symm

/-- A proof that carries the HMAC of a generated one is authentic if their messages have the same
HMAC. -/
theorem authentic_altered_iff (hgen : self.generatePoT hmacSha256 results nonce issued = .ok pot)
    (hhmac : altered.hmac = pot.hmac) : Authentic hmacSha256 self.hmacSecret altered ↔
      hmacSha256 self.hmacSecret (messageOf altered) =
        hmacSha256 self.hmacSecret (messageOf pot) := by
  rw [Authentic, fromHex_computeHmac hmacSha256, hhmac, fromHex_hmac_of_generated hmacSha256 hgen,
    Vector.toList_inj]

/-- The integrity check of such a proof does not throw. -/
theorem checkHmac_altered (hgen : self.generatePoT hmacSha256 results nonce issued = .ok pot)
    (hhmac : altered.hmac = pot.hmac) {verifier : HttpOnlyClient}
    (hsecret : verifier.hmacSecret = self.hmacSecret) :
    checkHmac hmacSha256 verifier altered =
      .ok (decide (Authentic hmacSha256 self.hmacSecret altered)) := by
  have hlen : (Buffer.fromHex (computeHmac hmacSha256 altered.timestamp altered.nonce
      altered.expiresAt altered.sources self.hmacSecret)).length =
        (Buffer.fromHex altered.hmac).length := by
    rw [fromHex_computeHmac hmacSha256, hhmac, fromHex_hmac_of_generated hmacSha256 hgen,
      Vector.length_toList, Vector.length_toList]
  rw [checkHmac, hsecret, timingSafeEqual, if_pos hlen]
  rfl

/-- The number of sources of a generated proof. -/
theorem sources_of_generated (hgen : self.generatePoT hmacSha256 results nonce issued = .ok pot) :
    pot.sources = Binary64.ofNat (fulfilledValues results).length := by
  obtain ⟨c, expiryMs, -, -, rfl⟩ := (generatePoT_eq_ok_iff hmacSha256).1 hgen
  rfl

/-- **What a message of a generated proof determines**: a proof with the same message has the same
timestamp, nonce, expiry and number of sources. -/
theorem eq_of_messageOf_eq (hgen : self.generatePoT hmacSha256 results nonce issued = .ok pot)
    (hresults : results.length = SOURCES.length) (h : messageOf altered = messageOf pot) :
    altered.timestamp = pot.timestamp ∧ altered.nonce = pot.nonce ∧
      altered.expiresAt = pot.expiresAt ∧ altered.sources = pot.sources := by
  obtain ⟨htimestamp, hnonce, hexpires, hsources⟩ := canonicalMessage_inj h
  have hfew : (fulfilledValues results).length < 2 ^ 53 := by
    refine (length_fulfilledValues_le results).trans_lt ?_
    rw [hresults]
    decide
  have heq : pot.sources = .finite (fulfilledValues results).length := by
    rw [sources_of_generated hmacSha256 hgen, Binary64.ofNat_eq hfew]
  refine ⟨htimestamp, hnonce, hexpires, ?_⟩
  rw [heq] at hsources ⊢
  rw [numberToString_natCast hfew.le] at hsources
  exact eq_of_numberToString_eq hfew hsources

end Altered

/-- **An altered proof is rejected**: by every client with the secret, at any time and with any
cache, a proof that carries the HMAC of a generated proof but differs from it in the timestamp, the
nonce, the expiry or the number of sources is found invalid, unless the messages of the two collide
under the HMAC. -/
theorem tampered_rejected (self verifier : HttpOnlyClient) (results : List (Settled RawReading))
    (nonce : String) (issued : ℤ) (pot altered : HttpPoT) (expiryNow now : ℤ)
    (hresults : results.length = SOURCES.length)
    (hgen : self.generatePoT hmacSha256 results nonce issued = .ok pot)
    (hsecret : verifier.hmacSecret = self.hmacSecret) (hhmac : altered.hmac = pot.hmac)
    (hdiff : altered.timestamp ≠ pot.timestamp ∨ altered.nonce ≠ pot.nonce ∨
      altered.expiresAt ≠ pot.expiresAt ∨ altered.sources ≠ pot.sources)
    (hideal : hmacSha256 self.hmacSecret (messageOf altered) =
      hmacSha256 self.hmacSecret (messageOf pot) → messageOf altered = messageOf pot) :
    ∃ reason, (verifier.verifyPoT hmacSha256 expiryNow now altered).1 =
      .ok ⟨false, some reason⟩ := by
  have hauth : ¬ Authentic hmacSha256 self.hmacSecret altered := by
    rw [authentic_altered_iff hmacSha256 hgen hhmac]
    intro hdigest
    obtain ⟨htimestamp, hnonce, hexpires, hsources⟩ :=
      eq_of_messageOf_eq hmacSha256 hgen hresults (hideal hdigest)
    rcases hdiff with h | h | h | h
    · exact h htimestamp
    · exact h hnonce
    · exact h hexpires
    · exact h hsources
  have hcheck := checkHmac_altered hmacSha256 hgen hhmac hsecret
  rw [decide_eq_false hauth] at hcheck
  unfold verifyPoT
  split
  · exact ⟨_, rfl⟩
  · rw [hcheck]
    exact ⟨_, rfl⟩

/-! ## What is not bound -/

/-- Tamper evidence against alterations: by every client with the secret, a proof that carries the
HMAC of a generated proof it was altered from is found invalid, unless the messages of the two
collide under the HMAC. -/
def TamperEvident (Alters : HttpPoT → HttpPoT → Prop) : Prop :=
  ∀ (self verifier : HttpOnlyClient) (results : List (Settled RawReading)) (nonce : String)
    (issued : ℤ) (pot altered : HttpPoT) (expiryNow now : ℤ),
    results.length = SOURCES.length →
    self.generatePoT hmacSha256 results nonce issued = .ok pot →
    verifier.hmacSecret = self.hmacSecret → altered.hmac = pot.hmac → Alters pot altered →
    (hmacSha256 self.hmacSecret (messageOf altered) =
      hmacSha256 self.hmacSecret (messageOf pot) → messageOf altered = messageOf pot) →
    ∃ reason, (verifier.verifyPoT hmacSha256 expiryNow now altered).1 = .ok ⟨false, some reason⟩

/-- The confidence is altered, and nothing else. -/
def AltersConfidence (pot altered : HttpPoT) : Prop :=
  altered.confidence ≠ pot.confidence ∧ altered = { pot with confidence := altered.confidence }

/-- The stratum is altered, and nothing else. -/
def AltersStratum (pot altered : HttpPoT) : Prop :=
  altered.stratum ≠ pot.stratum ∧ altered = { pot with stratum := altered.stratum }

/-- The readings are altered, and nothing else. -/
def AltersReadings (pot altered : HttpPoT) : Prop :=
  altered.sourceReadings ≠ pot.sourceReadings ∧
    altered = { pot with sourceReadings := altered.sourceReadings }

/-- A proof with another confidence, another stratum and other readings than a generated one is
accepted by a new client, if these readings are within its tolerance. -/
theorem verifyPoT_unbound {self verifier : HttpOnlyClient} {results : List (Settled RawReading)}
    {nonce : String} {issued : ℤ} {pot : HttpPoT} {expiryNow now : ℤ}
    (hgen : self.generatePoT hmacSha256 results nonce issued = .ok pot)
    (hsecret : verifier.hmacSecret = self.hmacSecret) (hnew : verifier.usedNonces = .empty)
    (hexp : expiryNow ≤ pot.expiresAt) (confidence stratum : Binary64)
    {readings : List SourceReading}
    (hnear : ∀ r ∈ readings, |r.timestamp - pot.timestamp| ≤ verifier.toleranceNs) :
    (verifier.verifyPoT hmacSha256 expiryNow now { pot with
      confidence := confidence, stratum := stratum, sourceReadings := readings }).1 =
      .ok ⟨true, none⟩ := by
  have hauth : Authentic hmacSha256 verifier.hmacSecret { pot with
      confidence := confidence, stratum := stratum, sourceReadings := readings } := by
    have hpot := authentic_of_generated hmacSha256 hgen
    rw [← hsecret] at hpot
    exact hpot
  refine (verifyPoT_eq_valid_iff hmacSha256 hauth hexp).2 ⟨?_, hnear⟩
  unfold liveNonces
  rw [hnew]
  exact ReplayCache.notMem_swept (by simp) _ _ _

/-- Readings of three sources within a second; the fourth does not answer. -/
def closeResults : List (Settled RawReading) :=
  [.fulfilled ⟨1700000000000000000, .finite 500, .finite 2, "nist"⟩,
    .fulfilled ⟨1700000000500000000, .finite 500, .finite 2, "apple"⟩,
    .fulfilled ⟨1700000001000000000, .finite 500, .finite 2, "google"⟩,
    .rejected "[httpOnly] Timeout: cloudflare (3000ms)"]

/-- The proof of the close readings. -/
def closePoT : HttpPoT :=
  (new {}).builtPoT hmacSha256 closeResults "5f1c" (1700000000000 + 60000)
    ⟨1700000000500000000, .finite 500, .finite 2⟩

theorem generatePoT_closeResults : (new {}).generatePoT hmacSha256 closeResults "5f1c"
    1700000000000 = .ok (closePoT hmacSha256) :=
  (generatePoT_eq_ok_iff hmacSha256).2 ⟨_, _, rfl, expiry_new, rfl⟩

theorem confidence_closePoT : (closePoT hmacSha256).confidence = .finite (3 / 4) := by
  change Binary64.div (Binary64.ofNat (fulfilledValues closeResults).length)
    (Binary64.ofNat SOURCES.length) = .finite (3 / 4)
  decide +kernel

theorem agree_closeResults :
    Agree (fulfilledValues closeResults) fun _ => (new {}).toleranceNs := by
  decide

/-- Whatever the HMAC is, a new client accepts the proof of the close readings with another
confidence, with another stratum, and without its readings. -/
theorem not_tamperEvident : ¬ ∃ hmacSha256 : HmacSha256,
    TamperEvident hmacSha256 AltersConfidence ∨ TamperEvident hmacSha256 AltersStratum ∨
      TamperEvident hmacSha256 AltersReadings := by
  rintro ⟨hmacSha256, h⟩
  have hgen := generatePoT_closeResults hmacSha256
  have hclose := (within_own_iff hmacSha256 hgen _).2 agree_closeResults
  have hexp : (1700000000000 : ℤ) ≤ (closePoT hmacSha256).expiresAt := by
    change (1700000000000 : ℤ) ≤ 1700000000000 + 60000
    decide
  have hvalid := fun confidence stratum => @verifyPoT_unbound hmacSha256 (new {}) (new {}) _ _ _ _
    1700000000000 1700000000000 hgen rfl rfl hexp confidence stratum
  rcases h with h | h | h
  · have hconfidence : Binary64.finite 1 ≠ (closePoT hmacSha256).confidence := by
      rw [confidence_closePoT]
      norm_num
    obtain ⟨reason, hreject⟩ := h (new {}) (new {}) closeResults "5f1c" _ _
      { closePoT hmacSha256 with confidence := .finite 1 } 1700000000000 1700000000000 rfl hgen rfl
      rfl ⟨hconfidence, rfl⟩ fun _ => rfl
    cases hreject.symm.trans (hvalid (.finite 1) (closePoT hmacSha256).stratum hclose)
  · have hstratum : Binary64.finite 1 ≠ (closePoT hmacSha256).stratum := by
      change Binary64.finite 1 ≠ .finite 2
      decide
    obtain ⟨reason, hreject⟩ := h (new {}) (new {}) closeResults "5f1c" _ _
      { closePoT hmacSha256 with stratum := .finite 1 } 1700000000000 1700000000000 rfl hgen rfl
      rfl ⟨hstratum, rfl⟩ fun _ => rfl
    cases hreject.symm.trans (hvalid (closePoT hmacSha256).confidence (.finite 1) hclose)
  · obtain ⟨reason, hreject⟩ := h (new {}) (new {}) closeResults "5f1c" _ _
      { closePoT hmacSha256 with sourceReadings := [] } 1700000000000 1700000000000 rfl hgen rfl
      rfl ⟨nofun, rfl⟩ fun _ => rfl
    cases hreject.symm.trans (hvalid (closePoT hmacSha256).confidence
      (closePoT hmacSha256).stratum (by simp))

/-- The HMAC of the proof of the close readings, and of that proof with its expiry put off by a
minute. -/
def closeHmac : HmacSha256 := fun _ message =>
  if message = "1700000000500000000:5f1c:1700000060000:3" then
    #v[186, 125, 139, 174, 2, 186, 93, 87, 211, 43, 195, 113, 64, 2, 204, 85, 255, 72, 73, 240,
      109, 237, 0, 148, 48, 48, 39, 207, 147, 85, 17, 248]
  else
    #v[76, 212, 172, 50, 142, 204, 17, 138, 48, 178, 239, 222, 9, 6, 115, 23, 93, 63, 219, 5, 125,
      181, 47, 205, 120, 206, 164, 206, 131, 136, 100, 194]

/-- The proof of the close readings, with its expiry put off. -/
theorem tampered_rejected_close : ∃ reason,
    ((new {}).verifyPoT closeHmac 1700000090000 1700000090000
      { closePoT closeHmac with expiresAt := 1700000120000 }).1 = .ok ⟨false, some reason⟩ :=
  tampered_rejected closeHmac (new {}) (new {}) closeResults "5f1c" 1700000000000
    (closePoT closeHmac) { closePoT closeHmac with expiresAt := 1700000120000 } 1700000090000
    1700000090000 rfl (generatePoT_closeResults closeHmac) rfl rfl
    (Or.inr (Or.inr (Or.inl (by decide)))) (by decide +kernel)

end HttpOnlyClient

end OpenTTT
