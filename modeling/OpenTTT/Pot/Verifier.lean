import OpenTTT.Foundations.ExpiringCache
import OpenTTT.Pot.Frame
import OpenTTT.Time.Replay

/-!
# The frame verifier

`PotVerifier` of `pot_verifier.ts` with its `MemoryNonceCache`, and the TLS binding of
`tls_binding.ts`. A TLS socket is what its exporter returns, and `crypto.verify` is a parameter,
from the data, the key in DER and the signature.

A verification is a guard in front of the nonce cache (`guard`, `verifyCall_snd`): the checks up to
the recency of the frame, which leave the cache alone, and then the question whether the nonce is
known. The cache forgets a nonce after its time to live, and the recency check bounds the age of a
frame but not how far ahead of the clock its timestamp is. `forgotten_of_accepted_twice` says what
the two amount to: a nonce is accepted twice only after the cache has forgotten it, on a frame that
is recent even then.
-/

namespace OpenTTT

/-! ## The TLS binding -/

def TTTPS_EXPORTER_LABEL : String := "EXPORTER-tttps-pot-binding"

def TTTPS_BINDING_KEY_LENGTH : ℕ := 32

/-- A TLS socket, as far as the binding uses it. -/
structure TLSSocket where
  encrypted : Bool
  /-- `exportKeyingMaterial(length, label, context)`. -/
  exportKeyingMaterial : ℕ → String → Buffer → Except Thrown Buffer

/-- The key of `computeBindingKey`; the session identifier beside it is for debugging only. -/
def computeBindingKey (socket : TLSSocket) (potWithoutSig : Buffer) : Except PotThrown Buffer :=
  if !socket.encrypted then .error (.tlsBindingError "Socket is not a TLS socket")
  else (socket.exportKeyingMaterial TTTPS_BINDING_KEY_LENGTH TTTPS_EXPORTER_LABEL
    potWithoutSig).mapError .runtime

/-- `timingSafeEqual` of `tls_binding.ts`. -/
def sameBytes (a b : Buffer) : Bool := if a.length ≠ b.length then false else decide (a = b)

def verifyBindingKey (socket : TLSSocket) (potWithoutSig receivedBindingKey : Buffer) :
    Except PotThrown Bool :=
  if receivedBindingKey.length ≠ TTTPS_BINDING_KEY_LENGTH then .ok false
  else do
    let expected ← computeBindingKey socket potWithoutSig
    .ok (sameBytes expected receivedBindingKey)

/-! ## The nonce cache -/

/-- `MemoryNonceCache`: the nonces with the time at which each expires. -/
structure MemoryNonceCache where
  cache : InsertionMap String ℤ
  ttlMs : ℤ

namespace MemoryNonceCache

/-- The constructor. -/
def new (ttlMs : Option ℤ := none) : MemoryNonceCache := ⟨.empty, ttlMs.getD 120000⟩

/-- The size beyond which `add` sweeps. -/
def SWEEP_SIZE : ℕ := 10000

def has (self : MemoryNonceCache) (now : ℤ) (nonce : String) : Bool × MemoryNonceCache :=
  let (seen, cache) := ExpiringCache.has now self.cache nonce
  (seen, { self with cache := cache })

def add (self : MemoryNonceCache) (sweepNow now : ℤ) (nonce : String) : MemoryNonceCache :=
  { self with cache := ExpiringCache.add SWEEP_SIZE self.ttlMs sweepNow now self.cache nonce }

end MemoryNonceCache

/-! ## The verifier -/

inductive VerifyError
  | UNKNOWN_VERSION
  | BINDING_KEY_MISMATCH
  | HMAC_CONTEXT_FAILURE
  | SIGNATURE_INVALID
  | SUBMISSION_OUTSIDE_TOLERANCE
  | NONCE_REPLAY
  | FRAME_MALFORMED
  deriving DecidableEq

/-- The result of a verification. -/
structure FrameVerifyResult where
  valid : Bool
  error : Option VerifyError := none
  frame : Option PotFrame := none
  latencyMs : Option ℤ := none
  deriving DecidableEq

/-- `TTTPS_TIER_TOLERANCE_MS`. -/
def TTTPS_TIER_TOLERANCE_MS : ℕ → Option ℤ
  | 0 => some 60000
  | 1 => some 2000
  | 2 => some 12000
  | 3 => some 100
  | _ => none

/-- `crypto.verify(null, data, key, signature)`, with the key in DER. -/
abbrev CryptoVerify := Buffer → Buffer → Buffer → Except Thrown Bool

structure PotVerifier where
  issuerPubKey : Buffer
  nonceCache : MemoryNonceCache

namespace PotVerifier

/-- The constructor: the key is a buffer or a hexadecimal text. -/
def new (issuerPublicKey : Buffer ⊕ String) (nonceCache : MemoryNonceCache) : PotVerifier where
  issuerPubKey := issuerPublicKey.elim id Buffer.fromHex
  nonceCache := nonceCache

/-- `verifyEd25519`. -/
def verifyEd25519 (cryptoVerify : CryptoVerify) (issuerPubKey data signature : Buffer) : Bool :=
  match cryptoVerify data issuerPubKey signature with
  | .ok ok => ok
  | .error _ => false

/-- The tolerance for a tier; an unknown one has that of tier 1. -/
def tolerance (tier : ℕ) : ℤ := (TTTPS_TIER_TOLERANCE_MS tier).getD 2000

/-- The age of a frame in milliseconds, negative if its timestamp is ahead of the clock. -/
def latency (nowMs : ℤ) (parsed : PotFrame) : ℤ := nowMs - (parsed.timestamp / 1000000 : ℕ)

/-- The checks up to the recency check: the frame, or the result that rejects it. -/
def checkFrame (cryptoVerify : CryptoVerify) (issuerPubKey : Buffer) (socket : TLSSocket)
    (frame : Buffer) (nowMs : ℤ) : Except PotThrown (Except FrameVerifyResult PotFrame) :=
  if frame.length ≠ POT_FRAME_SIZE then
    .ok (.error { valid := false, error := some .FRAME_MALFORMED })
  else
    match decodePotFrame frame with
    | .error _ => .ok (.error { valid := false, error := some .FRAME_MALFORMED })
    | .ok parsed =>
      if parsed.version ≠ 1 then
        .ok (.error { valid := false, error := some .UNKNOWN_VERSION })
      else do
        let potWithoutSig ← potRecordWithoutSig parsed.potRecord
        let bindingValid ← verifyBindingKey socket potWithoutSig parsed.bindingKey
        if !bindingValid then
          .ok (.error { valid := false, error := some .BINDING_KEY_MISMATCH, frame := some parsed })
        else if !verifyEd25519 cryptoVerify issuerPubKey (parsed.potRecord.subarray 0 79)
            parsed.ed25519Sig then
          .ok (.error { valid := false, error := some .SIGNATURE_INVALID, frame := some parsed })
        else if latency nowMs parsed > tolerance parsed.tier then
          .ok (.error { valid := false, error := some .SUBMISSION_OUTSIDE_TOLERANCE,
                        frame := some parsed, latencyMs := some (latency nowMs parsed) })
        else .ok (.ok parsed)

/-- One call of `verify`, with the clock readings it takes: the time it is given, and those of the
cache. -/
structure VerifyCall where
  socket : TLSSocket
  frame : Buffer
  nowMs : ℤ
  hasNow : ℤ
  sweepNow : ℤ
  addNow : ℤ

/-- `verify`. -/
def verifyCall (cryptoVerify : CryptoVerify) (self : PotVerifier) (c : VerifyCall) :
    Except PotThrown FrameVerifyResult × PotVerifier :=
  match checkFrame cryptoVerify self.issuerPubKey c.socket c.frame c.nowMs with
  | .error e => (.error e, self)
  | .ok (.error rejected) => (.ok rejected, self)
  | .ok (.ok parsed) =>
    let nonceHex := Buffer.toHex parsed.nonce
    let (seen, nonceCache) := self.nonceCache.has c.hasNow nonceHex
    if seen then
      (.ok { valid := false, error := some .NONCE_REPLAY, frame := some parsed },
        { self with nonceCache := nonceCache })
    else
      (.ok { valid := true, frame := some parsed, latencyMs := some (latency c.nowMs parsed) },
        { self with nonceCache := nonceCache.add c.sweepNow c.addNow nonceHex })

/-! ## The verifier and its cache -/

variable (cryptoVerify : CryptoVerify)

/-- The nonce of a frame. -/
def frameNonce (frame : Buffer) : Buffer :=
  match decodePotFrame frame with
  | .ok parsed => parsed.nonce
  | .error _ => []

/-- The verifier with a key and a time to live as a guard in front of the nonce cache. -/
def guard (issuerPubKey : Buffer) (ttlMs : ℤ) : ExpiringCache.Guard String VerifyCall where
  limit := MemoryNonceCache.SWEEP_SIZE
  ttl := ttlMs
  passes c :=
    match checkFrame cryptoVerify issuerPubKey c.socket c.frame c.nowMs with
    | .ok (.ok _) => true
    | _ => false
  key c := Buffer.toHex (frameNonce c.frame)
  hasNow := VerifyCall.hasNow
  sweepNow := VerifyCall.sweepNow
  addNow := VerifyCall.addNow

/-- **The frames that pass the checks**: they decode, have version 1, are bound to the session, have
a valid signature and are recent. -/
theorem checkFrame_eq_ok_iff {issuerPubKey : Buffer} {socket : TLSSocket} {frame : Buffer}
    {nowMs : ℤ} {parsed : PotFrame} :
    checkFrame cryptoVerify issuerPubKey socket frame nowMs = .ok (.ok parsed) ↔
      decodePotFrame frame = .ok parsed ∧ parsed.version = 1 ∧
        (∃ potWithoutSig, potRecordWithoutSig parsed.potRecord = .ok potWithoutSig ∧
          verifyBindingKey socket potWithoutSig parsed.bindingKey = .ok true) ∧
        verifyEd25519 cryptoVerify issuerPubKey (parsed.potRecord.subarray 0 79)
          parsed.ed25519Sig = true ∧
        latency nowMs parsed ≤ tolerance parsed.tier := by
  unfold checkFrame
  constructor
  · intro h
    split at h
    · cases h
    cases hdecode : decodePotFrame frame with
    | error e =>
      rw [hdecode] at h
      cases h
    | ok parsed' =>
      rw [hdecode] at h
      dsimp only at h
      split at h
      · cases h
      rename_i hversion
      obtain ⟨potWithoutSig, hwithout, h⟩ := bind_eq_ok.1 h
      obtain ⟨bindingValid, hbinding, h⟩ := bind_eq_ok.1 h
      split at h
      · cases h
      rename_i hvalid
      split at h
      · cases h
      rename_i hsignature
      split at h
      · cases h
      rename_i hrecent
      cases h
      rw [Bool.not_eq_true', Bool.not_eq_false] at hvalid hsignature
      exact ⟨rfl, not_not.1 hversion, ⟨potWithoutSig, hwithout, hvalid ▸ hbinding⟩, hsignature,
        not_lt.1 hrecent⟩
  · rintro ⟨hdecode, hversion, ⟨potWithoutSig, hwithout, hbinding⟩, hsignature, hrecent⟩
    have hlen : ¬ frame.length ≠ POT_FRAME_SIZE := by
      intro hlen
      rw [decodePotFrame, if_pos hlen] at hdecode
      cases hdecode
    rw [if_neg hlen, hdecode]
    dsimp only
    rw [if_neg (not_not.2 hversion), hwithout, ok_bind, hbinding, ok_bind, hsignature]
    exact if_neg (not_lt.2 hrecent)

/-- A frame that passes the checks decodes and is recent. -/
theorem checkFrame_ok {issuerPubKey : Buffer} {socket : TLSSocket} {frame : Buffer} {nowMs : ℤ}
    {parsed : PotFrame} (h : checkFrame cryptoVerify issuerPubKey socket frame nowMs =
      .ok (.ok parsed)) :
    decodePotFrame frame = .ok parsed ∧ latency nowMs parsed ≤ tolerance parsed.tier := by
  obtain ⟨hdecode, -, -, -, hrecent⟩ := (checkFrame_eq_ok_iff cryptoVerify).1 h
  exact ⟨hdecode, hrecent⟩

/-- What the checks reject is not valid. -/
theorem checkFrame_rejected {issuerPubKey : Buffer} {socket : TLSSocket} {frame : Buffer}
    {nowMs : ℤ} {r : FrameVerifyResult} (h : checkFrame cryptoVerify issuerPubKey socket frame
      nowMs = .ok (.error r)) : r.valid = false := by
  unfold checkFrame at h
  split at h
  · cases h
    rfl
  cases hdecode : decodePotFrame frame with
  | error e =>
    rw [hdecode] at h
    cases h
    rfl
  | ok parsed =>
    rw [hdecode] at h
    dsimp only at h
    split at h
    · cases h
      rfl
    obtain ⟨potWithoutSig, -, h⟩ := bind_eq_ok.1 h
    obtain ⟨bindingValid, -, h⟩ := bind_eq_ok.1 h
    split at h
    · cases h
      rfl
    split at h
    · cases h
      rfl
    split at h <;> cases h
    rfl

/-- The guard asks for the nonce of a frame that passes the checks. -/
theorem guard_step_of_ok {issuerPubKey : Buffer} {ttlMs : ℤ} {m : InsertionMap String ℤ}
    {c : VerifyCall} {parsed : PotFrame} (h : checkFrame cryptoVerify issuerPubKey c.socket c.frame
      c.nowMs = .ok (.ok parsed)) :
    (guard cryptoVerify issuerPubKey ttlMs).step m c =
      let (seen, m') := ExpiringCache.has c.hasNow m (Buffer.toHex parsed.nonce)
      if seen then (false, m')
      else (true, ExpiringCache.add MemoryNonceCache.SWEEP_SIZE ttlMs c.sweepNow c.addNow m'
        (Buffer.toHex parsed.nonce)) := by
  have hpass : (guard cryptoVerify issuerPubKey ttlMs).passes c = true := by
    simp only [guard, h]
  have hkey : (guard cryptoVerify issuerPubKey ttlMs).key c = Buffer.toHex parsed.nonce := by
    simp only [guard, frameNonce, (checkFrame_ok cryptoVerify h).1]
  rw [ExpiringCache.Guard.step, if_pos hpass, hkey]
  rfl

/-- Nor does it ask for any other. -/
theorem guard_step_of_not_ok {issuerPubKey : Buffer} {ttlMs : ℤ} {m : InsertionMap String ℤ}
    {c : VerifyCall} (h : ∀ parsed, checkFrame cryptoVerify issuerPubKey c.socket c.frame
      c.nowMs ≠ .ok (.ok parsed)) :
    (guard cryptoVerify issuerPubKey ttlMs).step m c = (false, m) := by
  have hpass : ¬ (guard cryptoVerify issuerPubKey ttlMs).passes c = true := by
    unfold guard
    dsimp only
    split
    · rename_i parsed hok
      exact absurd hok (h parsed)
    · exact Bool.false_ne_true
  rw [ExpiringCache.Guard.step, if_neg hpass]

/-- **What a call does**: nothing before the checks have passed; then it asks the cache for the
nonce, and reports a valid frame if the nonce is not known. -/
theorem verifyCall_spec (self : PotVerifier) (c : VerifyCall) :
    (verifyCall cryptoVerify self c).2 = { self with nonceCache := { self.nonceCache with
      cache := ((guard cryptoVerify self.issuerPubKey self.nonceCache.ttlMs).step
        self.nonceCache.cache c).2 } } ∧
    ((∃ r, (verifyCall cryptoVerify self c).1 = .ok r ∧ r.valid = true) ↔
      ((guard cryptoVerify self.issuerPubKey self.nonceCache.ttlMs).step
        self.nonceCache.cache c).1 = true) := by
  unfold verifyCall
  cases hcheck : checkFrame cryptoVerify self.issuerPubKey c.socket c.frame c.nowMs with
  | error e =>
    rw [guard_step_of_not_ok cryptoVerify fun parsed => by rw [hcheck]; exact nofun]
    simp
  | ok result =>
    cases result with
    | error rejected =>
      rw [guard_step_of_not_ok cryptoVerify fun parsed => by rw [hcheck]; exact nofun]
      simp [checkFrame_rejected cryptoVerify hcheck]
    | ok parsed =>
      rw [guard_step_of_ok cryptoVerify hcheck]
      obtain ⟨seen, m', hhas⟩ : ∃ seen m', ExpiringCache.has c.hasNow self.nonceCache.cache
          (Buffer.toHex parsed.nonce) = (seen, m') := ⟨_, _, rfl⟩
      cases seen with
      | true => simp [MemoryNonceCache.has, hhas]
      | false => simp [MemoryNonceCache.has, MemoryNonceCache.add, hhas]

/-! ## Runs of verifications -/

/-- The clock readings of a call, in order. -/
def VerifyCall.clock (c : VerifyCall) : List ℤ := [c.nowMs, c.hasNow, c.sweepNow, c.addNow]

theorem hasNow_mem_clock (c : VerifyCall) : c.hasNow ∈ c.clock := by simp [VerifyCall.clock]

theorem sweepNow_mem_clock (c : VerifyCall) : c.sweepNow ∈ c.clock := by simp [VerifyCall.clock]

/-- The results of a run of calls. -/
def verifyAll (self : PotVerifier) (calls : List VerifyCall) :
    List (Except PotThrown FrameVerifyResult) :=
  Mealy.outputs (verifyCall cryptoVerify) self calls

/-- The call at position `i` of a run reports a valid frame. -/
def AcceptedAt (results : List (Except PotThrown FrameVerifyResult)) (i : ℕ) : Prop :=
  ∃ r : FrameVerifyResult, results[i]? = some (.ok r) ∧ r.valid = true

/-- A run of calls changes the cache only, as the guard does. -/
theorem after_eq (self : PotVerifier) (cs : List VerifyCall) :
    Mealy.after (verifyCall cryptoVerify) self cs = { self with nonceCache := { self.nonceCache with
      cache := (guard cryptoVerify self.issuerPubKey self.nonceCache.ttlMs).cacheAfter
        self.nonceCache.cache cs } } := by
  induction cs generalizing self with
  | nil => rfl
  | cons c cs ih =>
    rw [Mealy.after_cons, ih, (verifyCall_spec cryptoVerify self c).1]
    rfl

/-- A call of a run is accepted if and only if the guard admits it. -/
theorem acceptedAt_iff {self : PotVerifier} {calls : List VerifyCall} {i : ℕ} {c : VerifyCall}
    (hi : calls[i]? = some c) :
    AcceptedAt (verifyAll cryptoVerify self calls) i ↔
      ((guard cryptoVerify self.issuerPubKey self.nonceCache.ttlMs).step
        ((guard cryptoVerify self.issuerPubKey self.nonceCache.ttlMs).cacheAfter
          self.nonceCache.cache (calls.take i)) c).1 = true := by
  have hspec := (verifyCall_spec cryptoVerify
    (Mealy.after (verifyCall cryptoVerify) self (calls.take i)) c).2
  rw [after_eq] at hspec
  rw [← hspec, AcceptedAt, verifyAll, Mealy.outputs_getElem? _ self hi, after_eq]
  simp only [Option.some.injEq]

theorem frameNonce_of_decode {frame : Buffer} {parsed : PotFrame}
    (h : decodePotFrame frame = .ok parsed) : frameNonce frame = parsed.nonce := by
  rw [frameNonce, h]

/-- A frame that the guard admits is recent. -/
theorem recent_of_fresh {issuerPubKey : Buffer} {ttlMs : ℤ} {m : InsertionMap String ℤ}
    {c : VerifyCall} {parsed : PotFrame} (hdecode : decodePotFrame c.frame = .ok parsed)
    (h : ((guard cryptoVerify issuerPubKey ttlMs).step m c).1 = true) :
    latency c.nowMs parsed ≤ tolerance parsed.tier := by
  have hpass := ((guard cryptoVerify issuerPubKey ttlMs).step_fst_iff.1 h).1
  unfold guard at hpass
  dsimp only at hpass
  split at hpass
  · rename_i parsed' hok
    obtain ⟨hdecode', hrecent⟩ := checkFrame_ok cryptoVerify hok
    rw [hdecode, Except.ok.injEq] at hdecode'
    exact hdecode' ▸ hrecent
  · exact absurd hpass Bool.false_ne_true

/-- **A nonce is accepted twice only after the cache has forgotten it**, on a frame that is recent
even then: the second call asks the cache later than the time to live after the first call has
recorded the nonce, and the second frame is within the tolerance of its tier. So its timestamp is
ahead of the first call by at least the time to live less the tolerance, and less what passes
between the two clock readings of the second call. -/
theorem forgotten_of_accepted_twice (self : PotVerifier) {calls : List VerifyCall} {i j : ℕ}
    {c₁ c₂ : VerifyCall} {p₁ p₂ : PotFrame} (hclock : ClockNonDecreasing VerifyCall.clock calls)
    (hij : i < j) (hi : calls[i]? = some c₁) (hj : calls[j]? = some c₂)
    (hp₁ : decodePotFrame c₁.frame = .ok p₁) (hp₂ : decodePotFrame c₂.frame = .ok p₂)
    (hnonce : p₂.nonce = p₁.nonce) (h₁ : AcceptedAt (verifyAll cryptoVerify self calls) i)
    (h₂ : AcceptedAt (verifyAll cryptoVerify self calls) j) :
    c₁.addNow + self.nonceCache.ttlMs < c₂.hasNow ∧
      c₂.nowMs - (p₂.timestamp / 1000000 : ℕ) ≤ tolerance p₂.tier ∧
      c₁.addNow + self.nonceCache.ttlMs - tolerance p₂.tier - (c₂.hasNow - c₂.nowMs) <
        (p₂.timestamp / 1000000 : ℕ) := by
  rw [acceptedAt_iff cryptoVerify hi] at h₁
  rw [acceptedAt_iff cryptoVerify hj] at h₂
  have hrecent := recent_of_fresh cryptoVerify hp₂ h₂
  rw [latency] at hrecent
  set g := guard cryptoVerify self.issuerPubKey self.nonceCache.ttlMs with hg
  have hpair : calls.Pairwise fun c c' =>
      g.hasNow c ≤ g.hasNow c' ∧ g.sweepNow c ≤ g.hasNow c' :=
    (List.pairwise_flatMap.1 hclock).2.imp fun hle =>
      ⟨hle _ (hasNow_mem_clock _) _ (hasNow_mem_clock _),
        hle _ (sweepNow_mem_clock _) _ (hasNow_mem_clock _)⟩
  have hkey : g.key c₂ = g.key c₁ := by
    change Buffer.toHex (frameNonce c₂.frame) = Buffer.toHex (frameNonce c₁.frame)
    rw [frameNonce_of_decode hp₂, frameNonce_of_decode hp₁, hnonce]
  have hforgotten : c₁.addNow + self.nonceCache.ttlMs < c₂.hasNow := by
    by_contra hheld
    have hstale := g.not_fresh_twice hij hi hj hpair hkey (not_lt.1 hheld) h₁
    rw [h₂] at hstale
    exact Bool.noConfusion hstale
  exact ⟨hforgotten, hrecent, by omega⟩

/-! ## A frame from the future -/

/-- That every nonce is accepted at most once: in no run of a verifier with the default time to
live, on a wall clock that each call reads at one instant, are two calls on signed frames with one
nonce both accepted. -/
def NonceAcceptedOnce : Prop :=
  ∀ (cryptoVerify : CryptoVerify) (issuerPublicKey : Buffer ⊕ String) (calls : List VerifyCall)
    (i j : ℕ) (c₁ c₂ : VerifyCall) (p₁ p₂ : PotFrame),
    ClockNonDecreasing VerifyCall.clock calls → (∀ c ∈ calls, ∀ x ∈ c.clock, x = c.nowMs) →
    i < j → calls[i]? = some c₁ → calls[j]? = some c₂ → decodePotFrame c₁.frame = .ok p₁ →
    decodePotFrame c₂.frame = .ok p₂ → p₂.nonce = p₁.nonce →
    ¬ (AcceptedAt (verifyAll cryptoVerify (new issuerPublicKey (.new)) calls) i ∧
      AcceptedAt (verifyAll cryptoVerify (new issuerPublicKey (.new)) calls) j)

/-- The signed part of a record whose timestamp is 1700000120001 milliseconds. -/
def futureMessage : Buffer :=
  Buffer.fromHex
    ("11030017979d1a26c7f2400007a120000102030405060708090a0b0c0d0e0f101112131415161718191a1b1c" ++
      "1d1e1fabababababababababababababababababababababababababababababababab")

theorem futureMessage_eq : futureMessage =
    [17, 3, 0, 23, 151, 157, 26, 38, 199, 242, 64, 0, 7, 161, 32, 0, 1, 2, 3, 4, 5, 6, 7, 8, 9,
      10, 11, 12, 13, 14, 15, 16, 17, 18, 19, 20, 21, 22, 23, 24, 25, 26, 27, 28, 29, 30, 31,
      171, 171, 171, 171, 171, 171, 171, 171, 171, 171, 171, 171, 171, 171, 171, 171, 171, 171,
      171, 171, 171, 171, 171, 171, 171, 171, 171, 171, 171, 171, 171, 171] := by
  rw [futureMessage, Buffer.fromHex, String.toList_append, String.toList_ofList,
    String.toList_ofList]
  rfl

/-- An Ed25519 key in DER. -/
def futureKey : Buffer :=
  Buffer.fromHex
    ("302a300506032b6570032100" ++
      "ea4a6c63e29c520abef5507b132ec5f9954776aebebe7b92421eea691446d22c")

theorem futureKey_eq : futureKey =
    [48, 42, 48, 5, 6, 3, 43, 101, 112, 3, 33, 0, 234, 74, 108, 99, 226, 156, 82, 10, 190, 245,
      80, 123, 19, 46, 197, 249, 149, 71, 118, 174, 190, 190, 123, 146, 66, 30, 234, 105, 20,
      70, 210, 44] := by
  rw [futureKey, Buffer.fromHex, String.toList_append, String.toList_ofList, String.toList_ofList]
  rfl

/-- The signature of the record with that key. -/
def futureSignature : Buffer :=
  Buffer.fromHex
    ("ce5bdc0ca623df90aab34d77ed2dd3a7536d7c13efa7df85b25dc9d2400164b1" ++
      "63d55a0fad3940ef0a5059a848a2fa4fad91ee730ef1506d664ae4a09d7f7801")

theorem futureSignature_eq : futureSignature =
    [206, 91, 220, 12, 166, 35, 223, 144, 170, 179, 77, 119, 237, 45, 211, 167, 83, 109, 124,
      19, 239, 167, 223, 133, 178, 93, 201, 210, 64, 1, 100, 177, 99, 213, 90, 15, 173, 57, 64,
      239, 10, 80, 89, 168, 72, 162, 250, 79, 173, 145, 238, 115, 14, 241, 80, 109, 102, 74,
      228, 160, 157, 127, 120, 1] := by
  rw [futureSignature, Buffer.fromHex, String.toList_append, String.toList_ofList,
    String.toList_ofList]
  rfl

/-- A verification that knows this one signature. -/
def futureVerify : CryptoVerify := fun data key signature =>
  .ok (decide (data = futureMessage ∧ key = futureKey ∧ signature = futureSignature))

/-- The binding key of the session and the record. -/
def futureBinding : Buffer := List.replicate 32 0x42

/-- A session, as far as the record is concerned. -/
def futureSocket : TLSSocket where
  encrypted := true
  exportKeyingMaterial _ _ _ := .ok futureBinding

/-- The frame, presented at some time. -/
def futureCall (now : ℤ) : VerifyCall where
  socket := futureSocket
  frame := futureBinding ++ futureMessage ++ futureSignature
  nowMs := now
  hasNow := now
  sweepNow := now
  addNow := now

/-- The frame two minutes ahead of its timestamp, and again when the cache has just forgotten
it. -/
def futureCalls : List VerifyCall := [futureCall 1700000000000, futureCall 1700000120001]

/-- Whether a result reports a valid frame. -/
def isValid : Except PotThrown FrameVerifyResult → Bool
  | .ok r => r.valid
  | .error _ => false

theorem acceptedAt_of_isValid {results : List (Except PotThrown FrameVerifyResult)} {i : ℕ}
    (h : results[i]?.map isValid = some true) : AcceptedAt results i := by
  obtain ⟨result, hi, hvalid⟩ := Option.map_eq_some_iff.1 h
  cases result with
  | error e => exact absurd hvalid Bool.false_ne_true
  | ok r => exact ⟨r, hi, hvalid⟩

theorem acceptedAt_futureCalls :
    AcceptedAt (verifyAll futureVerify (new (.inl futureKey) .new) futureCalls) 0 ∧
      AcceptedAt (verifyAll futureVerify (new (.inl futureKey) .new) futureCalls) 1 := by
  unfold futureVerify
  simp only [futureCalls, futureCall, futureMessage_eq, futureSignature_eq, futureKey_eq]
  exact ⟨acceptedAt_of_isValid (by decide +kernel), acceptedAt_of_isValid (by decide +kernel)⟩

/-- The frame of the future, decoded. -/
def futureFrame : PotFrame where
  bindingKey := futureBinding
  potRecord := futureMessage ++ futureSignature
  version := 1
  tier := 1
  reserved := 0
  timestamp := 1700000120001000000
  confidence := 500000
  nonce := (List.range 32).map UInt8.ofNat
  grgCommit := List.replicate 32 0xAB
  ed25519Sig := futureSignature

theorem decodePotFrame_futureCall (now : ℤ) :
    decodePotFrame (futureCall now).frame = .ok futureFrame := by
  simp only [futureCall, futureFrame, futureMessage_eq, futureSignature_eq]
  decide +kernel

theorem clockNonDecreasing_futureCalls : ClockNonDecreasing VerifyCall.clock futureCalls := by
  unfold ClockNonDecreasing
  decide

/-- The frame is accepted twice, just after the cache has forgotten it. -/
theorem forgotten_of_accepted_twice_future :
    (1700000000000 : ℤ) + 120000 < 1700000120001 ∧
      (1700000120001 : ℤ) - (1700000120001000000 / 1000000 : ℕ) ≤ tolerance 1 ∧
      (1700000000000 : ℤ) + 120000 - tolerance 1 - (1700000120001 - 1700000120001) <
        (1700000120001000000 / 1000000 : ℕ) :=
  forgotten_of_accepted_twice futureVerify (new (.inl futureKey) .new)
    clockNonDecreasing_futureCalls Nat.zero_lt_one rfl rfl
    (decodePotFrame_futureCall 1700000000000) (decodePotFrame_futureCall 1700000120001) rfl
    acceptedAt_futureCalls.1 acceptedAt_futureCalls.2

theorem not_nonceAcceptedOnce : ¬ NonceAcceptedOnce := by
  intro h
  have hinstant : ∀ c ∈ futureCalls, ∀ x ∈ c.clock, x = c.nowMs := by
    decide
  exact h futureVerify (.inl futureKey) futureCalls 0 1 _ _ futureFrame futureFrame
    clockNonDecreasing_futureCalls hinstant Nat.zero_lt_one rfl rfl
    (decodePotFrame_futureCall 1700000000000) (decodePotFrame_futureCall 1700000120001) rfl
    acceptedAt_futureCalls

end PotVerifier

end OpenTTT
