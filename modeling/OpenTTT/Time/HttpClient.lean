import OpenTTT.Foundations.ReplayCache
import OpenTTT.Runtime.Buffer
import OpenTTT.Runtime.NumberText
import OpenTTT.Time.Types

/-!
# The HTTPS-only client

`HttpOnlyClient` of `http_client.ts`: a proof of time from four HTTPS sources, with an HMAC over
its canonical message, and its verification. HMAC-SHA256 is a parameter, from a secret and a
message to 32 bytes.

As in the time synthesis, the state of a client is its cache of used nonces, and a verification
is the query of a replay cache (`guard`) between an expiry and an integrity check before it and a
tolerance check after it; `refines_guard` says so.
-/

namespace OpenTTT

structure HttpPoT where
  timestamp : ℤ
  confidence : Binary64
  stratum : Binary64
  sources : Binary64
  sourceReadings : List SourceReading
  nonce : String
  expiresAt : ℤ
  hmac : String
  deriving DecidableEq

structure HttpPoTVerifyResult where
  valid : Bool
  reason : Option String := none
  deriving DecidableEq

/-- A reading of `fetchHttpsDate`; it has the fields of a time reading. -/
abbrev RawReading := TimeReading

/-- `crypto.createHmac('sha256', secret).update(message).digest()`. -/
abbrev HmacSha256 := String → String → Vector UInt8 32

structure HttpOnlyClientOptions where
  hmacSecret : Option String := none
  timeoutMs : Option Binary64 := none
  expirySeconds : Option Binary64 := none
  toleranceNs : Option ℤ := none

structure HttpOnlyClient where
  hmacSecret : String
  timeoutMs : Binary64
  expirySeconds : Binary64
  toleranceNs : ℤ
  usedNonces : InsertionMap String ℤ

namespace HttpOnlyClient

def NONCE_TTL_MS : ℤ := 300000

def MAX_NONCE_CACHE : ℕ := 10000

/-- The sources, by name and URL. -/
def SOURCES : List (String × String) :=
  [("nist", "https://time.nist.gov/"), ("apple", "https://time.apple.com/"),
    ("google", "https://time.google.com/"), ("cloudflare", "https://time.cloudflare.com/")]

def SANDBOX_HMAC_SECRET : String :=
  "openttt-sandbox:chainId=0:address=0x0000000000000000000000000000000000000000"

def computeHmac (hmacSha256 : HmacSha256) (timestamp : ℤ) (nonce : String) (expiresAt : ℤ)
    (sources : Binary64) (secret : String) : String :=
  let msg := toString timestamp ++ ":" ++ nonce ++ ":" ++ toString expiresAt ++ ":" ++
    numberToString sources
  Buffer.toHex (hmacSha256 secret msg).toList

/-- The constructor. -/
def new (options : HttpOnlyClientOptions) : HttpOnlyClient where
  hmacSecret := options.hmacSecret.getD SANDBOX_HMAC_SECRET
  timeoutMs := options.timeoutMs.getD (.finite 3000)
  expirySeconds := options.expirySeconds.getD (.finite 60)
  toleranceNs := options.toleranceNs.getD 2000000000
  usedNonces := .empty

/-- `generatePoT`, from the settled requests to the sources, the random nonce and the clock. -/
def generatePoT (hmacSha256 : HmacSha256) (self : HttpOnlyClient)
    (results : List (Settled RawReading)) (nonce : String) (now : ℤ) : Except Thrown HttpPoT :=
  let readings := sortReadings (fulfilledValues results)
  match combine readings with
  | none =>
    .error (.error "[httpOnly] All HTTPS time sources failed. Check network connectivity.")
  | some c =>
    match (self.expirySeconds.mul (.finite 1000)).toInt? with
    | none => .error .rangeError
    | some expiryMs =>
      let expiresAt := now + expiryMs
      let sources := Binary64.ofNat readings.length
      .ok { timestamp := c.timestamp
            confidence := Binary64.div sources (Binary64.ofNat SOURCES.length)
            stratum := c.stratum
            sources := sources
            sourceReadings := readings.map TimeReading.toSourceReading
            nonce := nonce
            expiresAt := expiresAt
            hmac := computeHmac hmacSha256 c.timestamp nonce expiresAt sources self.hmacSecret }

/-- The divergence check over the readings. -/
def checkDivergence (timestamp toleranceNs : ℤ) : List SourceReading → HttpPoTVerifyResult
  | [] => ⟨true, none⟩
  | reading :: rest =>
    let diff := if reading.timestamp > timestamp then reading.timestamp - timestamp
      else timestamp - reading.timestamp
    if diff > toleranceNs then
      ⟨false, some ("Source " ++ reading.source ++ " diverges by " ++ toString diff ++
        "ns (tolerance: " ++ toString toleranceNs ++ "ns)")⟩
    else checkDivergence timestamp toleranceNs rest

/-- `crypto.timingSafeEqual`, which throws on buffers of different lengths. -/
def timingSafeEqual (a b : Buffer) : Except Thrown Bool :=
  if a.length = b.length then .ok (decide (a = b)) else .error .rangeError

/-- The integrity check: the HMAC of the proof against the expected one. -/
def checkHmac (hmacSha256 : HmacSha256) (self : HttpOnlyClient) (pot : HttpPoT) :
    Except Thrown Bool :=
  let expected := computeHmac hmacSha256 pot.timestamp pot.nonce pot.expiresAt pot.sources
    self.hmacSecret
  timingSafeEqual (Buffer.fromHex expected) (Buffer.fromHex pot.hmac)

/-- `verifyPoT`. The clock is read twice: for the expiry check, and for the cache. -/
def verifyPoT (hmacSha256 : HmacSha256) (self : HttpOnlyClient) (expiryNow now : ℤ)
    (pot : HttpPoT) : Except Thrown HttpPoTVerifyResult × HttpOnlyClient :=
  if expiryNow > pot.expiresAt then (.ok ⟨false, some "PoT expired"⟩, self)
  else
    match checkHmac hmacSha256 self pot with
    | .error e => (.error e, self)
    | .ok false => (.ok ⟨false, some "HMAC mismatch — PoT may have been tampered"⟩, self)
    | .ok true =>
      let (fresh, usedNonces) :=
        ReplayCache.query MAX_NONCE_CACHE NONCE_TTL_MS self.usedNonces now pot.nonce
      let self' := { self with usedNonces := usedNonces }
      if fresh then (.ok (checkDivergence pot.timestamp self.toleranceNs pot.sourceReadings), self')
      else (.ok ⟨false, some "Duplicate nonce — replay detected"⟩, self')

/-! ## The verifier and its cache -/

/-- One call of `verifyPoT`. -/
structure VerifyCall where
  expiryNow : ℤ
  now : ℤ
  pot : HttpPoT

/-- A call, as the step of a client. -/
def verifyCall (hmacSha256 : HmacSha256) (self : HttpOnlyClient) (c : VerifyCall) :
    Except Thrown HttpPoTVerifyResult × HttpOnlyClient :=
  self.verifyPoT hmacSha256 c.expiryNow c.now c.pot

variable (hmacSha256 : HmacSha256)

/-- Whether a proof carries the HMAC that the secret gives it. -/
def Authentic (secret : String) (pot : HttpPoT) : Prop :=
  Buffer.fromHex (computeHmac hmacSha256 pot.timestamp pot.nonce pot.expiresAt pot.sources secret) =
    Buffer.fromHex pot.hmac

instance (secret : String) (pot : HttpPoT) : Decidable (Authentic hmacSha256 secret pot) :=
  inferInstanceAs (Decidable (_ = _))

theorem timingSafeEqual_eq_ok_true {a b : Buffer} : timingSafeEqual a b = .ok true ↔ a = b := by
  unfold timingSafeEqual
  constructor
  · intro h
    split at h
    · simpa using h
    · simp at h
  · rintro rfl
    simp

/-- The integrity check succeeds on the proofs with the right HMAC only. -/
theorem checkHmac_eq_ok_true {self : HttpOnlyClient} {pot : HttpPoT} :
    checkHmac hmacSha256 self pot = .ok true ↔ Authentic hmacSha256 self.hmacSecret pot :=
  timingSafeEqual_eq_ok_true

/-- The verifier with a secret as a guard in front of the nonce cache. -/
def guard (secret : String) : ReplayCache.Guard String VerifyCall where
  capacity := MAX_NONCE_CACHE
  ttl := NONCE_TTL_MS
  passes c := !decide (c.expiryNow > c.pot.expiresAt) &&
    decide (Authentic hmacSha256 secret c.pot)
  key c := c.pot.nonce
  now := VerifyCall.now

theorem guard_passes_iff {secret : String} {c : VerifyCall} :
    (guard hmacSha256 secret).passes c = true ↔
      ¬ c.expiryNow > c.pot.expiresAt ∧ Authentic hmacSha256 secret c.pot := by
  simp [guard]

/-- A call changes the nonce cache only, by a query of the guard. -/
theorem verifyCall_snd (self : HttpOnlyClient) (c : VerifyCall) :
    (self.verifyCall hmacSha256 c).2 = { self with
      usedNonces := ((guard hmacSha256 self.hmacSecret).step self.usedNonces c).2 } := by
  unfold verifyCall verifyPoT
  by_cases hexp : c.expiryNow > c.pot.expiresAt
  · rw [if_pos hexp, (guard hmacSha256 self.hmacSecret).step_of_not_passes fun h =>
      ((guard_passes_iff hmacSha256).1 h).1 hexp]
  rw [if_neg hexp]
  by_cases hmac : Authentic hmacSha256 self.hmacSecret c.pot
  · have hstep : (guard hmacSha256 self.hmacSecret).step self.usedNonces c =
        ReplayCache.query MAX_NONCE_CACHE NONCE_TTL_MS self.usedNonces c.now c.pot.nonce :=
      (guard hmacSha256 self.hmacSecret).step_of_passes
        ((guard_passes_iff hmacSha256).2 ⟨hexp, hmac⟩)
    rw [(checkHmac_eq_ok_true hmacSha256).2 hmac, hstep]
    dsimp only
    split <;> rfl
  · rw [(guard hmacSha256 self.hmacSecret).step_of_not_passes fun h =>
      hmac ((guard_passes_iff hmacSha256).1 h).2]
    split
    · rfl
    · rfl
    · rename_i h
      exact absurd ((checkHmac_eq_ok_true hmacSha256).1 h) hmac

/-- A run of calls changes the nonce cache only. -/
theorem after_eq (self : HttpOnlyClient) (cs : List VerifyCall) :
    Mealy.after (verifyCall hmacSha256) self cs = { self with
      usedNonces := (guard hmacSha256 self.hmacSecret).cacheAfter self.usedNonces cs } := by
  induction cs generalizing self with
  | nil => rfl
  | cons c cs ih =>
    rw [Mealy.after_cons, ih, verifyCall_snd]
    rfl

/-- A call that reports a valid proof has passed the first checks with a fresh nonce. -/
theorem fresh_of_verifyCall_valid {self : HttpOnlyClient} {c : VerifyCall}
    {r : HttpPoTVerifyResult} (h : (self.verifyCall hmacSha256 c).1 = .ok r) (hr : r.valid = true) :
    ((guard hmacSha256 self.hmacSecret).step self.usedNonces c).1 = true := by
  unfold verifyCall verifyPoT at h
  by_cases hexp : c.expiryNow > c.pot.expiresAt
  · rw [if_pos hexp] at h
    cases h
    exact absurd hr Bool.false_ne_true
  rw [if_neg hexp] at h
  split at h
  · exact absurd h (by simp)
  · cases h
    exact absurd hr Bool.false_ne_true
  · rename_i hcheck
    have hmac := (checkHmac_eq_ok_true hmacSha256).1 hcheck
    rw [(guard hmacSha256 self.hmacSecret).step_of_passes
      ((guard_passes_iff hmacSha256).2 ⟨hexp, hmac⟩)]
    change (ReplayCache.query MAX_NONCE_CACHE NONCE_TTL_MS self.usedNonces c.now c.pot.nonce).1 =
      true
    dsimp only at h
    split at h
    · assumption
    · cases h
      exact absurd hr Bool.false_ne_true

/-- The verifier of a client refines the guard with its secret: what it admits are the calls that
report a valid proof. -/
theorem refines_guard (secret : String) :
    ReplayCache.Refines (guard hmacSha256 secret) (verifyCall hmacSha256) usedNonces
      (fun self => self.hmacSecret = secret) fun r => ∃ v, r = .ok v ∧ v.valid = true where
  keeps self c h := by
    rw [verifyCall_snd]
    exact h
  cache_step self c h := by
    rw [verifyCall_snd, h]
  fresh self c h := by
    rintro ⟨v, hv, hvalid⟩
    exact h ▸ fresh_of_verifyCall_valid hmacSha256 hv hvalid

/-- A call that passes the first checks with a fresh nonce goes on to the divergence check. -/
theorem verifyCall_of_fresh {self : HttpOnlyClient} {c : VerifyCall}
    (h : ((guard hmacSha256 self.hmacSecret).step self.usedNonces c).1 = true) :
    (self.verifyCall hmacSha256 c).1 =
      .ok (checkDivergence c.pot.timestamp self.toleranceNs c.pot.sourceReadings) := by
  have hpass := (guard hmacSha256 self.hmacSecret).passes_of_fresh h
  rw [(guard hmacSha256 self.hmacSecret).step_of_passes hpass] at h
  obtain ⟨hexp, hmac⟩ := (guard_passes_iff hmacSha256).1 hpass
  have hfresh : (ReplayCache.query MAX_NONCE_CACHE NONCE_TTL_MS self.usedNonces c.now
    c.pot.nonce).1 = true := h
  unfold verifyCall verifyPoT
  rw [if_neg hexp, (checkHmac_eq_ok_true hmacSha256).2 hmac]
  dsimp only
  rw [if_pos hfresh]

/-! ## Malformed proofs -/

/-- The comparison throws exactly on buffers of different lengths. -/
theorem exists_timingSafeEqual_iff {a b : Buffer} :
    (∃ r, timingSafeEqual a b = .ok r) ↔ a.length = b.length := by
  unfold timingSafeEqual
  split
  · rename_i h
    exact iff_of_true ⟨_, rfl⟩ h
  · rename_i h
    exact iff_of_false (by simp) h

/-- The expected HMAC has 32 bytes, so the one of the proof must have as many. -/
theorem exists_checkHmac_iff (self : HttpOnlyClient) {pot : HttpPoT} :
    (∃ r, checkHmac hmacSha256 self pot = .ok r) ↔ (Buffer.fromHex pot.hmac).length = 32 := by
  rw [checkHmac, exists_timingSafeEqual_iff, computeHmac, Buffer.fromHex_toHex,
    Vector.length_toList]
  exact eq_comm

/-- **When the verification returns**: for an expired proof, and for one whose HMAC decodes to 32
bytes. -/
theorem exists_verifyPoT_iff {self : HttpOnlyClient} {expiryNow now : ℤ} {pot : HttpPoT} :
    (∃ r, (self.verifyPoT hmacSha256 expiryNow now pot).1 = .ok r) ↔
      expiryNow > pot.expiresAt ∨ (Buffer.fromHex pot.hmac).length = 32 := by
  unfold verifyPoT
  by_cases hexp : expiryNow > pot.expiresAt
  · rw [if_pos hexp]
    exact iff_of_true ⟨_, rfl⟩ (Or.inl hexp)
  · rw [if_neg hexp, or_iff_right hexp, ← exists_checkHmac_iff hmacSha256 self]
    cases hcheck : checkHmac hmacSha256 self pot with
    | error e => simp
    | ok authentic =>
      refine iff_of_true ?_ ⟨authentic, rfl⟩
      cases authentic with
      | false => exact ⟨_, rfl⟩
      | true =>
        dsimp only
        split <;> exact ⟨_, rfl⟩

end HttpOnlyClient

end OpenTTT
