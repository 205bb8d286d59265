import OpenTTT.Pot.Verifier

/-!
# Verified frames and their structure

`PotVerifier.verify` with any nonce cache, next to `validatePotFrameStructure`. Both decode the
frame and ask for version 1. The structural check also bounds the tier and asks for a reserved byte
of zero; the verifier has a tolerance for every tier and leaves the reserved byte alone. So a frame
that is verified is well formed up to these two fields (`verified_structure_iff`), and a signed
frame with either of them out of range is verified (`not_verifiedWellFormed`).
-/

namespace OpenTTT

/-- The structural check of a frame that decodes. -/
theorem validatePotFrameStructure_eq_ok_iff {frame : Buffer} {parsed : PotFrame}
    (h : decodePotFrame frame = .ok parsed) :
    validatePotFrameStructure frame = .ok () ↔
      parsed.version = 1 ∧ parsed.tier ≤ 3 ∧ parsed.reserved = 0 := by
  obtain ⟨bindingKey, r, rfl, rfl⟩ := decodePotFrame_eq_ok_iff.1 h
  exact r.validatePotFrameStructure_iff bindingKey

/-- The `nonceCache` of a `VerifierConfig`: the two operations of a cache with states in `σ`. -/
structure NonceCache (σ : Type) where
  has : σ → String → Bool × σ
  add : σ → String → σ

namespace PotVerifier

/-- `verify`, with the nonce cache that the verifier was configured with. -/
def verify {σ : Type} (nonceCache : NonceCache σ) (cryptoVerify : CryptoVerify)
    (issuerPubKey : Buffer) (cache : σ) (socket : TLSSocket) (frame : Buffer) (nowMs : ℤ) :
    Except PotThrown FrameVerifyResult × σ :=
  match checkFrame cryptoVerify issuerPubKey socket frame nowMs with
  | .error e => (.error e, cache)
  | .ok (.error rejected) => (.ok rejected, cache)
  | .ok (.ok parsed) =>
    let nonceHex := Buffer.toHex parsed.nonce
    let (seen, cache) := nonceCache.has cache nonceHex
    if seen then
      (.ok { valid := false, error := some .NONCE_REPLAY, frame := some parsed }, cache)
    else
      (.ok { valid := true, frame := some parsed, latencyMs := some (latency nowMs parsed) },
        nonceCache.add cache nonceHex)

/-- The `MemoryNonceCache` at the clock readings of a call. -/
def VerifyCall.memory (c : VerifyCall) : NonceCache MemoryNonceCache where
  has cache nonce := cache.has c.hasNow nonce
  add cache nonce := cache.add c.sweepNow c.addNow nonce

variable (cryptoVerify : CryptoVerify)

/-- The verifier over the cache in memory. -/
theorem verifyCall_eq_verify (self : PotVerifier) (c : VerifyCall) :
    verifyCall cryptoVerify self c =
      ((verify c.memory cryptoVerify self.issuerPubKey self.nonceCache c.socket c.frame c.nowMs).1,
        { self with nonceCache := (verify c.memory cryptoVerify self.issuerPubKey self.nonceCache
          c.socket c.frame c.nowMs).2 }) := by
  unfold verifyCall verify
  cases checkFrame cryptoVerify self.issuerPubKey c.socket c.frame c.nowMs with
  | error e => rfl
  | ok result =>
    cases result with
    | error rejected => rfl
    | ok parsed =>
      dsimp only [VerifyCall.memory]
      obtain ⟨seen, nonceCache, hhas⟩ : ∃ seen nonceCache, self.nonceCache.has c.hasNow
          (Buffer.toHex parsed.nonce) = (seen, nonceCache) := ⟨_, _, rfl⟩
      rw [hhas]
      cases seen <;> rfl

/-- A result that reports a valid frame comes after all checks. -/
theorem checkFrame_of_valid {σ : Type} {nonceCache : NonceCache σ} {issuerPubKey : Buffer}
    {cache : σ} {socket : TLSSocket} {frame : Buffer} {nowMs : ℤ} {r : FrameVerifyResult}
    (h : (verify nonceCache cryptoVerify issuerPubKey cache socket frame nowMs).1 = .ok r)
    (hvalid : r.valid = true) : ∃ parsed, r.frame = some parsed ∧
      checkFrame cryptoVerify issuerPubKey socket frame nowMs = .ok (.ok parsed) := by
  unfold verify at h
  cases hcheck : checkFrame cryptoVerify issuerPubKey socket frame nowMs with
  | error e =>
    rw [hcheck] at h
    cases h
  | ok result =>
    rw [hcheck] at h
    cases result with
    | error rejected =>
      cases h
      rw [checkFrame_rejected cryptoVerify hcheck] at hvalid
      cases hvalid
    | ok parsed =>
      dsimp only at h
      split at h
      · cases h
        cases hvalid
      · cases h
        exact ⟨parsed, rfl, rfl⟩

/-- **The structure of a verified frame**: it has the right length, decodes and has version 1, and
the structural check accepts it if and only if its tier is one of the four and its reserved byte is
zero. -/
theorem verified_structure_iff {σ : Type} (nonceCache : NonceCache σ) (issuerPubKey : Buffer)
    (cache : σ) (socket : TLSSocket) (frame : Buffer) (nowMs : ℤ) (r : FrameVerifyResult)
    (h : (verify nonceCache cryptoVerify issuerPubKey cache socket frame nowMs).1 = .ok r)
    (hvalid : r.valid = true) :
    ∃ parsed, decodePotFrame frame = .ok parsed ∧ r.frame = some parsed ∧ parsed.version = 1 ∧
      (validatePotFrameStructure frame = .ok () ↔ parsed.tier ≤ 3 ∧ parsed.reserved = 0) := by
  obtain ⟨parsed, hframe, hcheck⟩ := checkFrame_of_valid cryptoVerify h hvalid
  obtain ⟨hdecode, hversion, -⟩ := (checkFrame_eq_ok_iff cryptoVerify).1 hcheck
  refine ⟨parsed, hdecode, hframe, hversion, ?_⟩
  rw [validatePotFrameStructure_eq_ok_iff hdecode]
  exact and_iff_right hversion

/-! ## Signed frames -/

/-- **A signed frame is verified** whatever its tier and its reserved byte are: it has version 1,
the binding key of the session and a valid signature, is recent, and its nonce is not known. -/
theorem verify_signed {σ : Type} {nonceCache : NonceCache σ} {issuerPubKey : Buffer}
    {cache : σ} {socket : TLSSocket} {nowMs : ℤ} (r : PotRecord) (bindingKey : Vector UInt8 32)
    (hversion : r.versionTier.toNat / 16 = 1)
    (hbinding : verifyBindingKey socket r.withoutSig bindingKey.toList = .ok true)
    (hsignature : cryptoVerify r.withoutSig issuerPubKey r.ed25519Sig.toList = .ok true)
    (hrecent : latency nowMs (r.frame bindingKey) ≤ tolerance (r.versionTier.toNat % 16))
    (hfresh : (nonceCache.has cache (Buffer.toHex (r.frame bindingKey).nonce)).1 = false) :
    (verify nonceCache cryptoVerify issuerPubKey cache socket (bindingKey.toList ++ r.bytes)
      nowMs).1 = .ok
        { valid := true
          frame := some (r.frame bindingKey)
          latencyMs := some (latency nowMs (r.frame bindingKey)) } := by
  have hsigned : Buffer.subarray r.bytes 0 79 = r.withoutSig := by
    have h : r.bytes = [] ++ (r.withoutSig ++ r.ed25519Sig.toList) := rfl
    exact Buffer.subarray_of_eq h rfl (by simp [POT_WITHOUT_SIG_SIZE])
  have hcheck : checkFrame cryptoVerify issuerPubKey socket (bindingKey.toList ++ r.bytes) nowMs =
      .ok (.ok (r.frame bindingKey)) := by
    refine (checkFrame_eq_ok_iff cryptoVerify).2 ⟨r.decodePotFrame_bytes bindingKey, hversion,
      ⟨r.withoutSig, r.potRecordWithoutSig_bytes, hbinding⟩, ?_, hrecent⟩
    rw [PotRecord.frame, hsigned, verifyEd25519, hsignature]
  rw [verify, hcheck]
  dsimp only
  rw [if_neg (fun hseen => Bool.noConfusion (hfresh.symm.trans hseen))]

/-! ## Verified frames that are not well formed -/

/-- The verified frames with `P` pass the structural check. -/
def VerifiedWellFormed (P : PotFrame → Prop) : Prop :=
  ∀ (σ : Type) (nonceCache : NonceCache σ) (cryptoVerify : CryptoVerify) (issuerPubKey : Buffer)
    (cache : σ) (socket : TLSSocket) (frame : Buffer) (nowMs : ℤ) (r : FrameVerifyResult)
    (parsed : PotFrame),
    (verify nonceCache cryptoVerify issuerPubKey cache socket frame nowMs).1 = .ok r →
    r.valid = true → decodePotFrame frame = .ok parsed → P parsed →
    validatePotFrameStructure frame = .ok ()

/-- A record with the given header and signature. -/
def signedRecord (versionTier reserved : UInt8) (sig : Vector UInt8 64) : PotRecord where
  versionTier := versionTier
  sourceCount := 3
  reserved := reserved
  timestamp := 1700000120001000000
  confidence := 500000
  nonce := Vector.ofFn fun i => UInt8.ofNat i
  grgCommit := Vector.replicate 32 0xAB
  ed25519Sig := sig

/-- An Ed25519 key in DER. -/
def issuerKey : Buffer :=
  [48, 42, 48, 5, 6, 3, 43, 101, 112, 3, 33, 0, 191, 220, 210, 48, 79, 212, 62, 229, 66, 23, 189,
    35, 22, 20, 119, 24, 144, 19, 176, 211, 167, 3, 228, 18, 208, 2, 122, 5, 124, 78, 135, 91]

/-- A record of tier 4, with its signature by that key. -/
def tierFour : PotRecord :=
  signedRecord 0x14 0 #v[188, 218, 192, 145, 245, 247, 68, 179, 205, 115, 189, 39, 138, 16, 207,
    217, 189, 241, 62, 89, 104, 239, 134, 47, 164, 180, 255, 128, 171, 127, 183, 135, 139, 69, 96,
    181, 126, 150, 197, 241, 30, 103, 125, 128, 92, 62, 212, 113, 196, 225, 145, 179, 90, 9, 186,
    117, 50, 73, 218, 161, 227, 27, 170, 0]

/-- A record of tier 1 with the R-flag in its reserved byte, with its signature by that key. -/
def flagged : PotRecord :=
  signedRecord 0x11 1 #v[95, 92, 246, 116, 36, 30, 21, 118, 95, 182, 117, 58, 39, 209, 79, 81, 81,
    68, 217, 132, 179, 249, 16, 45, 205, 16, 98, 212, 215, 84, 20, 235, 34, 31, 167, 211, 241,
    203, 57, 55, 84, 43, 186, 59, 97, 164, 54, 120, 63, 107, 26, 169, 26, 28, 76, 68, 195, 18,
    194, 173, 208, 1, 153, 7]

/-- A verification that knows these two signatures. -/
def issuerVerify : CryptoVerify := fun data key signature =>
  .ok (decide (key = issuerKey ∧ ((data, signature) = (tierFour.withoutSig,
    tierFour.ed25519Sig.toList) ∨ (data, signature) = (flagged.withoutSig,
    flagged.ed25519Sig.toList))))

/-- The frame of either record, presented at the time of its timestamp to a verifier that has seen
no nonce. -/
def recordCall (r : PotRecord) : VerifyCall :=
  { futureCall 1700000120001 with frame := (Vector.replicate 32 0x42).toList ++ r.bytes }

theorem recordCall_valid {r : PotRecord} (hr : r = tierFour ∨ r = flagged) :
    ∃ result, (verify (recordCall r).memory issuerVerify issuerKey MemoryNonceCache.new
      (recordCall r).socket (recordCall r).frame 1700000120001).1 = .ok result ∧
        result.valid = true := by
  refine ⟨_, verify_signed issuerVerify r (Vector.replicate 32 0x42) ?_ rfl ?_ ?_ rfl, rfl⟩
  · rcases hr with rfl | rfl <;> rfl
  · rcases hr with rfl | rfl <;> simp [issuerVerify]
  · rcases hr with rfl | rfl <;> decide

/-- **Verified frames that the structural check rejects**: for their tier alone, and for their
reserved byte alone. -/
theorem not_verifiedWellFormed :
    (¬ VerifiedWellFormed fun _ => True) ∧
      (¬ VerifiedWellFormed fun parsed => parsed.reserved = 0) ∧
      ¬ VerifiedWellFormed fun parsed => parsed.tier ≤ 3 := by
  have hrejected : ∀ (r : PotRecord) (P : PotFrame → Prop), (r = tierFour ∨ r = flagged) →
      P (r.frame (Vector.replicate 32 0x42)) →
      ¬ (r.versionTier.toNat % 16 ≤ 3 ∧ r.reserved.toNat = 0) → ¬ VerifiedWellFormed P := by
    intro r P hr hP hbad h
    obtain ⟨result, hresult, hvalid⟩ := recordCall_valid hr
    have hstructure := h _ _ _ _ _ _ _ _ _ _ hresult hvalid (r.decodePotFrame_bytes _) hP
    exact hbad ((r.validatePotFrameStructure_iff _).1 hstructure).2
  exact ⟨hrejected tierFour _ (.inl rfl) trivial (by decide),
    hrejected tierFour _ (.inl rfl) rfl (by decide),
    hrejected flagged _ (.inr rfl) (by decide) (by decide)⟩

/-- The frame with the R-flag is verified, and fails the structural check for that byte alone. -/
theorem verified_structure_iff_flagged :
    ∃ parsed, decodePotFrame (recordCall flagged).frame = .ok parsed ∧
      parsed.version = 1 ∧ (validatePotFrameStructure (recordCall flagged).frame = .ok () ↔
        parsed.tier ≤ 3 ∧ parsed.reserved = 0) := by
  obtain ⟨result, hresult, hvalid⟩ := recordCall_valid (.inr rfl)
  obtain ⟨parsed, hdecode, -, hstructure⟩ :=
    verified_structure_iff issuerVerify _ _ _ _ _ _ _ hresult hvalid
  exact ⟨parsed, hdecode, hstructure⟩

end PotVerifier

end OpenTTT
