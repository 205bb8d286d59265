import OpenTTT.Foundations.ClockReading
import OpenTTT.Roughtime.RoundTrip
import OpenTTT.Roughtime.Validate
import OpenTTT.Time.Https

/-!
# The Roughtime source

`RoughtimeSource.getTime` of `roughtime_source.ts`: the name of the server is resolved, a request
with a random nonce is built and sent, and the first event at the socket settles the exchange. The
reading is the midpoint of the validated report, with its radius and 500 milliseconds as the
uncertainty. The resolver, the random bytes and the network are arguments.

The report is about the instant at which the server has processed the request, and the reading is
taken for the time of the receipt. `getTime_covers_iff` says how long the response may have been on
its way for that, and `exists_request` what is in the request.
-/

namespace OpenTTT

/-- A source with its long-term key, of 32 bytes. -/
structure RoughtimeSource where
  name : String
  host : String
  port : Binary64
  pubkey : Buffer
  timeoutMs : Binary64 := Binary64.ofNat 3000
  length_pubkey : pubkey.length = 32

namespace RoughtimeSource

/-- The constructor; the decoder of base64 is the runtime's. -/
def new (fromBase64 : String → Buffer) (name host : String) (port : Binary64) (pubkeyB64 : String)
    (timeoutMs : Binary64) : Except Thrown RoughtimeSource :=
  if h : (fromBase64 pubkeyB64).length = 32 then
    .ok ⟨name, host, port, fromBase64 pubkeyB64, timeoutMs, h⟩
  else
    .error (.error ("RoughtimeSource(" ++ name ++ "): pubkeyB64 must decode to 32 bytes, got " ++
      toString (fromBase64 pubkeyB64).length))

/-! ## The request -/

def NONCE_LEN : ℕ := 32

def MIN_PACKET_LEN : ℕ := 1024

def VER_FINAL : ℕ := 1

def VER_EXPERIMENTAL : ℕ := 0x8000000c

/-- `pairs.sort`, by tag. -/
def sortPairs (pairs : List (Buffer × Buffer)) : List (Buffer × Buffer) :=
  pairs.insertionSort fun a b => tagKey a.1 ≤ tagKey b.1

variable (crypto : Crypto)

/-- The pairs of a request, without the filler. -/
def requestPairs (nonce32 serverPubkey32 : Buffer) : List (Buffer × Buffer) :=
  [(tagU32 "NONC", nonce32),
    (tagU32 "SRV", (rtHash crypto [[0xff], serverPubkey32]).toList),
    (tagU32 "TYPE", List.replicate 4 0),
    (tagU32 "VER", Buffer.leBytes 4 VER_FINAL ++ Buffer.leBytes 4 VER_EXPERIMENTAL)]

/-- The sorted pairs, filled up if their message is too short. The filler does not count the tag and
the offset that it comes with. -/
def padPairs (pairs : List (Buffer × Buffer)) (msg : Buffer) : List (Buffer × Buffer) :=
  if 12 + msg.length < MIN_PACKET_LEN then
    sortPairs (pairs ++ [(tagU32 "ZZZZ", List.replicate (MIN_PACKET_LEN - (12 + msg.length)) 0)])
  else pairs

def buildRoughtimeRequest (nonce32 serverPubkey32 : Buffer) : Except Thrown Buffer :=
  if nonce32.length ≠ NONCE_LEN then
    .error (.error ("nonce must be " ++ toString NONCE_LEN ++ " bytes, got " ++
      toString nonce32.length))
  else do
    let pairs := sortPairs (requestPairs crypto nonce32 serverPubkey32)
    let msg ← buildMessage (padPairs pairs (← buildMessage pairs))
    let lenBuf ← Buffer.writeUInt32LE msg.length
    .ok (Buffer.ofAscii "ROUGHTIM" ++ lenBuf ++ msg)

/-! ## The exchange -/

/-- An address and its family, 4 or 6. -/
structure Resolved where
  address : String
  family : ℕ

/-- The first event at the socket. -/
inductive SocketEvent
  | timeout
  | error (message : String)
  | message (msg : Buffer)
  /-- An error that the callback of `send` receives. -/
  | sendFailed (message : String)
  /-- An error that opening the socket or `send` throws. -/
  | threw (e : Thrown)

/-- Sending a packet to a port of an address, on a socket of type `udp4` or `udp6`. -/
abbrev Network := String → String → Binary64 → Buffer → SocketEvent

variable (self : RoughtimeSource)

/-- A rejection of a promise. -/
def reject {α : Type} (message reason fix : String) : Except Thrown α :=
  .error (.timeSynthesisError (.ofMessage message reason fix))

/-- `resolveFamily`, from what `dns.lookup` answers. -/
def resolveFamily : Except String Resolved → Except Thrown Resolved
  | .ok resolved => .ok resolved
  | .error message =>
    reject ("Roughtime DNS resolution failed for " ++ self.name) message
      "Check DNS connectivity or try a different Roughtime server."

/-- `sendAndReceive`. -/
def sendAndReceive (network : Network) (requestPacket : Buffer) (address : String) (family : ℕ) :
    Except Thrown Buffer :=
  match network (if family = 6 then "udp6" else "udp4") address self.port requestPacket with
  | .timeout =>
    reject ("Roughtime timeout for " ++ self.name)
      (self.host ++ ":" ++ numberToString self.port ++ " did not respond within " ++
        numberToString self.timeoutMs ++ "ms")
      ("Check UDP egress/firewall rules for this port, or try a different Roughtime server.")
  | .error message =>
    reject ("Roughtime socket error for " ++ self.name) message
      "Ensure UDP is permitted outbound to this Roughtime server."
  | .message msg => .ok msg
  | .sendFailed message =>
    reject ("Failed to send Roughtime request to " ++ self.name) message "Check network settings."
  | .threw e => .error e

/-- The reading of a validated response. -/
def readingOf (v : RoughtimeValidatedResponse) : TimeReading where
  timestamp := v.midpSeconds * 1000000000
  uncertainty := ((Binary64.ofNat v.radiSeconds).mul (.finite 1000)).add (.finite 500)
  stratum := Binary64.ofNat 2
  source := self.name

/-- `getTime`, with the answer of the resolver and the random bytes. -/
def getTime (lookup : Except String Resolved) (nonce : Buffer) (network : Network) :
    Except Thrown TimeReading := do
  let family ← self.resolveFamily lookup
  let requestPacket ← buildRoughtimeRequest crypto nonce self.pubkey
  let responsePacket ← self.sendAndReceive network requestPacket family.address family.family
  let v ← validateRoughtimeResponse crypto requestPacket responsePacket self.pubkey nonce self.name
  .ok (self.readingOf v)

/-! ## What the reading covers -/

variable {crypto self}

@[simp] theorem reject_eq_ok {α : Type} {message reason fix : String} {a : α} :
    reject message reason fix = .ok a ↔ False :=
  iff_of_false nofun id

theorem sendAndReceive_ok {network : Network} {requestPacket packet : Buffer} {address : String}
    {family : ℕ} (h : self.sendAndReceive network requestPacket address family = .ok packet) :
    network (if family = 6 then "udp6" else "udp4") address self.port requestPacket =
      .message packet := by
  unfold sendAndReceive at h
  cases hevent :
      network (if family = 6 then "udp6" else "udp4") address self.port requestPacket with
  | message msg =>
    rw [hevent] at h
    rw [Except.ok.inj h]
  | timeout => simp [hevent] at h
  | error message => simp [hevent] at h
  | sendFailed message => simp [hevent] at h
  | threw e => simp [hevent] at h

/-- A reading is that of a response to the request, which the validator accepts. -/
theorem getTime_ok {lookup : Except String Resolved} {nonce : Buffer} {network : Network}
    {r : TimeReading} (h : self.getTime crypto lookup nonce network = .ok r) :
    ∃ resolved requestPacket packet v, lookup = .ok resolved ∧
      buildRoughtimeRequest crypto nonce self.pubkey = .ok requestPacket ∧
      network (if resolved.family = 6 then "udp6" else "udp4") resolved.address self.port
        requestPacket = .message packet ∧
      validateRoughtimeResponse crypto requestPacket packet self.pubkey nonce self.name = .ok v ∧
      r = self.readingOf v := by
  obtain ⟨resolved, hresolved, h⟩ := bind_eq_ok.1 h
  obtain ⟨requestPacket, hrequest, h⟩ := bind_eq_ok.1 h
  obtain ⟨packet, hpacket, h⟩ := bind_eq_ok.1 h
  obtain ⟨v, hv, h⟩ := bind_eq_ok.1 h
  refine ⟨resolved, requestPacket, packet, v, ?_, hrequest, sendAndReceive_ok hpacket, hv,
    (Except.ok.inj h).symm⟩
  cases lookup with
  | ok resolved' => rw [Except.ok.inj hresolved]
  | error message => simp [resolveFamily] at hresolved

theorem radiSeconds_lt {request packet serverPubkey nonce : Buffer} {sourceName : String}
    {v : RoughtimeValidatedResponse}
    (h : validateRoughtimeResponse crypto request packet serverPubkey nonce sourceName = .ok v) :
    v.radiSeconds < 2 ^ 32 := by
  obtain ⟨message, top, cert, report, -, -, -, -, -, hreport, -, -, rfl⟩ := validate_ok h
  obtain ⟨radiBuf, -, hread⟩ := hreport.radi
  exact Buffer.lt_of_readUInt32LE hread

/-- The uncertainty has no rounding error. -/
theorem uncertainty_readingOf {v : RoughtimeValidatedResponse} (h : v.radiSeconds < 2 ^ 32) :
    (self.readingOf v).uncertainty = .finite (v.radiSeconds * 1000 + 500) := by
  have hmul : (v.radiSeconds : ℚ) * 1000 = ((v.radiSeconds * 1000 : ℕ) : ℚ) := by push_cast; ring
  have hadd : ((v.radiSeconds * 1000 : ℕ) : ℚ) + 500 = ((v.radiSeconds * 1000 + 500 : ℕ) : ℚ) := by
    push_cast
    ring
  simp only [readingOf, Binary64.ofNat,
    Binary64.round_natCast (show v.radiSeconds < 2 ^ 53 by omega)]
  rw [Binary64.mul, hmul, Binary64.round_natCast (by omega), Binary64.add, hadd,
    Binary64.round_natCast (by omega)]

/-- The reading of a report that was right at the time `P`, at the time `d` later. -/
theorem covers_readingOf_iff {v : RoughtimeValidatedResponse} (hradi : v.radiSeconds < 2 ^ 32)
    {P d : ℝ} (hP : |P - v.midpSeconds| ≤ v.radiSeconds) (hd : 0 ≤ d) :
    (self.readingOf v).Covers ((P + d) * 1000000000) ↔
      d ≤ 1 / 2 + (v.midpSeconds + v.radiSeconds - P) := by
  rw [TimeReading.covers_iff (uncertainty_readingOf hradi),
    ← ClockReading.abs_add_sub_le_iff hP hd (by norm_num : (0 : ℝ) ≤ 1 / 2)]
  have hleft : (P + d) * 1000000000 - ((self.readingOf v).timestamp : ℝ) =
      1000000000 * (P + d - v.midpSeconds) := by
    simp only [readingOf]
    push_cast
    ring
  have hright : (((v.radiSeconds * 1000 + 500 : ℚ) : ℚ) : ℝ) * 1000000 =
      1000000000 * (v.radiSeconds + 1 / 2) := by
    push_cast
    ring
  rw [hleft, hright, abs_mul, abs_of_pos (by norm_num : (0 : ℝ) < 1000000000)]
  exact mul_le_mul_iff_right₀ (by norm_num)

/-- **The interval of the Roughtime source**: for a server whose report was right at the time `P`,
the reading covers the true time after the response has been on its way for `d` seconds if and only
if `d` is at most half a second more than what is left of the radius at its upper end. -/
theorem getTime_covers_iff (crypto : Crypto) (self : RoughtimeSource)
    (lookup : Except String Resolved) (nonce : Buffer) (network : Network) (r : TimeReading)
    (h : self.getTime crypto lookup nonce network = .ok r) :
    ∃ resolved requestPacket packet v, lookup = .ok resolved ∧
      buildRoughtimeRequest crypto nonce self.pubkey = .ok requestPacket ∧
      network (if resolved.family = 6 then "udp6" else "udp4") resolved.address self.port
        requestPacket = .message packet ∧
      validateRoughtimeResponse crypto requestPacket packet self.pubkey nonce self.name = .ok v ∧
      ∀ P d : ℝ, |P - v.midpSeconds| ≤ v.radiSeconds → 0 ≤ d →
        (r.Covers ((P + d) * 1000000000) ↔
          d ≤ 1 / 2 + (v.midpSeconds + v.radiSeconds - P)) := by
  obtain ⟨resolved, requestPacket, packet, v, hlookup, hrequest, hpacket, hv, rfl⟩ := getTime_ok h
  exact ⟨resolved, requestPacket, packet, v, hlookup, hrequest, hpacket, hv,
    fun P d hP hd => covers_readingOf_iff (radiSeconds_lt hv) hP hd⟩

/-- The source covers the true time at the receipt, for every server whose report is right at some
time `P` and every response within the timeout. -/
def CoversReceipt (crypto : Crypto) (self : RoughtimeSource) : Prop :=
  ∀ (resolved : Resolved) (nonce requestPacket packet : Buffer) (network : Network)
    (v : RoughtimeValidatedResponse) (r : TimeReading) (timeoutMs : ℚ) (P d : ℝ),
    buildRoughtimeRequest crypto nonce self.pubkey = .ok requestPacket →
    network (if resolved.family = 6 then "udp6" else "udp4") resolved.address self.port
      requestPacket = .message packet →
    validateRoughtimeResponse crypto requestPacket packet self.pubkey nonce self.name = .ok v →
    self.getTime crypto (.ok resolved) nonce network = .ok r →
    self.timeoutMs = .finite timeoutMs → |P - v.midpSeconds| ≤ v.radiSeconds →
    0 ≤ d → d * (1000 : ℕ) ≤ timeoutMs → r.Covers ((P + d) * (1000000000 : ℕ))

/-! ## A response of one second -/

def honestNonce : Buffer := (List.range 32).map UInt8.ofNat

def honestKey : Buffer :=
  [0xea, 0x4a, 0x6c, 0x63, 0xe2, 0x9c, 0x52, 0x0a, 0xbe, 0xf5, 0x50, 0x7b, 0x13, 0x2e, 0xc5, 0xf9,
   0x95, 0x47, 0x76, 0xae, 0xbe, 0xbe, 0x7b, 0x92, 0x42, 0x1e, 0xea, 0x69, 0x14, 0x46, 0xd2, 0x2c]

def honestDelegatedKey : Buffer :=
  [0xfd, 0x17, 0x24, 0x38, 0x5a, 0xa0, 0xc7, 0x5b, 0x64, 0xfb, 0x78, 0xcd, 0x60, 0x2f, 0xa1, 0xd9,
   0x91, 0xfd, 0xeb, 0xf7, 0x6b, 0x13, 0xc5, 0x8e, 0xd7, 0x02, 0xea, 0xc8, 0x35, 0xe9, 0xf6, 0x18]

/-- SHA-512 of the key behind the byte `0xff`. -/
def srvDigest : Buffer :=
  [0xac, 0x51, 0xc4, 0xe2, 0xd5, 0x44, 0x87, 0x60, 0xce, 0xf6, 0x45, 0xa3, 0x17, 0xba, 0x4b, 0x9a,
   0xe6, 0x72, 0xe2, 0x7a, 0x89, 0x3b, 0x52, 0xf7, 0xc9, 0x52, 0x70, 0xc3, 0x57, 0x6f, 0x5e, 0xbb,
   0x25, 0x3b, 0xde, 0x53, 0xd1, 0xea, 0xb9, 0x53, 0xd0, 0x2a, 0x4a, 0xa3, 0x47, 0x6d, 0xf3, 0xbe,
   0x39, 0xcb, 0xee, 0x29, 0x80, 0xa6, 0xc2, 0x49, 0xce, 0x3e, 0x10, 0x6d, 0xb1, 0x75, 0xa2, 0xce]

def honestRequest : Buffer :=
  [0x52, 0x4f, 0x55, 0x47, 0x48, 0x54, 0x49, 0x4d, 0xfc, 0x03, 0x00, 0x00, 0x05, 0x00, 0x00, 0x00,
   0x08, 0x00, 0x00, 0x00, 0x28, 0x00, 0x00, 0x00, 0x48, 0x00, 0x00, 0x00, 0x4c, 0x00, 0x00, 0x00,
   0x56, 0x45, 0x52, 0x00, 0x53, 0x52, 0x56, 0x00, 0x4e, 0x4f, 0x4e, 0x43, 0x54, 0x59, 0x50, 0x45,
   0x5a, 0x5a, 0x5a, 0x5a, 0x01, 0x00, 0x00, 0x00, 0x0c, 0x00, 0x00, 0x80] ++
  srvDigest.take 32 ++ honestNonce ++ List.replicate 908 0

/-- SHA-512 of the leaf of the request. -/
def leafDigest : Buffer :=
  [0xf3, 0xdb, 0xeb, 0x60, 0xda, 0x88, 0x88, 0x51, 0xba, 0xb9, 0xcc, 0xb1, 0x95, 0xa6, 0x46, 0xf4,
   0x35, 0x90, 0xe5, 0xcc, 0x88, 0x12, 0x29, 0xc2, 0x80, 0x11, 0x5c, 0xba, 0xcb, 0x72, 0x1a, 0xf9,
   0x4a, 0x94, 0xee, 0xe1, 0xae, 0x7d, 0xea, 0x0c, 0x2a, 0x29, 0x39, 0x57, 0x35, 0x02, 0x80, 0x5f,
   0x46, 0x2a, 0x49, 0x0a, 0x15, 0xd8, 0x6f, 0x1c, 0x55, 0x18, 0x87, 0x42, 0x82, 0x2a, 0x56, 0xa2]

def honestDele : Buffer :=
  [0x03, 0x00, 0x00, 0x00, 0x20, 0x00, 0x00, 0x00, 0x28, 0x00, 0x00, 0x00, 0x50, 0x55, 0x42, 0x4b,
   0x4d, 0x49, 0x4e, 0x54, 0x4d, 0x41, 0x58, 0x54] ++ honestDelegatedKey ++
  [0xa9, 0x76, 0x6d, 0x6a, 0x00, 0x00, 0x00, 0x00, 0xc9, 0x92, 0x6d, 0x6a, 0x00, 0x00, 0x00, 0x00]

def honestSrep : Buffer :=
  [0x03, 0x00, 0x00, 0x00, 0x04, 0x00, 0x00, 0x00, 0x0c, 0x00, 0x00, 0x00, 0x52, 0x41, 0x44, 0x49,
   0x4d, 0x49, 0x44, 0x50, 0x52, 0x4f, 0x4f, 0x54, 0x01, 0x00, 0x00, 0x00, 0xb9, 0x84, 0x6d, 0x6a,
   0x00, 0x00, 0x00, 0x00] ++ leafDigest.take 32

/-- The signature of the long-term key over the delegation. -/
def honestCertSig : Buffer :=
  [0x44, 0x72, 0x28, 0x50, 0xd0, 0x31, 0x86, 0x5e, 0x45, 0x82, 0x4c, 0x13, 0x91, 0x12, 0x85, 0xbe,
   0x85, 0xc6, 0x2a, 0x3c, 0xb1, 0x42, 0x6a, 0x22, 0x73, 0x12, 0x2f, 0x71, 0x62, 0x98, 0xae, 0x92,
   0x61, 0x3c, 0xfd, 0x9c, 0xa7, 0x20, 0x64, 0xc8, 0xe0, 0x77, 0x15, 0x80, 0xe5, 0x98, 0x1e, 0x4f,
   0xcf, 0x8c, 0xd4, 0x93, 0xc5, 0x8a, 0x91, 0xaf, 0x16, 0x54, 0x38, 0x66, 0x25, 0xf3, 0xf1, 0x03]

/-- The signature of the delegated key over the report. -/
def honestSrepSig : Buffer :=
  [0x06, 0x56, 0xe1, 0x2d, 0xdd, 0xf1, 0x95, 0x43, 0xe6, 0xbf, 0x11, 0x5d, 0x14, 0xa0, 0x85, 0x08,
   0xbf, 0x94, 0x1f, 0xbc, 0xe1, 0x59, 0x72, 0xf5, 0xd2, 0xe8, 0x86, 0x96, 0x54, 0xd9, 0xf7, 0xd1,
   0x63, 0x19, 0xda, 0x11, 0xcf, 0x5b, 0xbc, 0x0f, 0x5d, 0x10, 0x1f, 0x2e, 0xf8, 0x79, 0x41, 0xbd,
   0x15, 0x4b, 0x96, 0xaf, 0xc6, 0x9e, 0x3a, 0xbb, 0x43, 0xa0, 0xde, 0xe6, 0x26, 0x9c, 0x1e, 0x0e]

def honestPacket : Buffer :=
  [0x52, 0x4f, 0x55, 0x47, 0x48, 0x54, 0x49, 0x4d, 0x7c, 0x01, 0x00, 0x00, 0x07, 0x00, 0x00, 0x00,
   0x40, 0x00, 0x00, 0x00, 0x60, 0x00, 0x00, 0x00, 0x64, 0x00, 0x00, 0x00, 0x64, 0x00, 0x00, 0x00,
   0xa8, 0x00, 0x00, 0x00, 0x40, 0x01, 0x00, 0x00, 0x53, 0x49, 0x47, 0x00, 0x4e, 0x4f, 0x4e, 0x43,
   0x54, 0x59, 0x50, 0x45, 0x50, 0x41, 0x54, 0x48, 0x53, 0x52, 0x45, 0x50, 0x43, 0x45, 0x52, 0x54,
   0x49, 0x4e, 0x44, 0x58] ++
  honestSrepSig ++ honestNonce ++ [1, 0, 0, 0] ++ honestSrep ++
  ([0x02, 0x00, 0x00, 0x00, 0x40, 0x00, 0x00, 0x00] ++
    [0x53, 0x49, 0x47, 0x00, 0x44, 0x45, 0x4c, 0x45] ++ honestCertSig ++ honestDele) ++
  [0, 0, 0, 0]

/-- The module on the bytes of the exchange: two digests and two signatures. -/
def honestCrypto : Crypto where
  KeyObject := Buffer
  sha512 bytes := Vector.ofFn fun i =>
    (if bytes = 0xff :: honestKey then srvDigest
      else if bytes = 0x00 :: honestRequest then leafDigest
      else []).getD i 0
  createPublicKey der :=
    if der.length = 44 then .ok (der.drop 12) else .error "Failed to read asymmetric key"
  verify data key signature := .ok (decide (
    (data = deleCtx ++ honestDele ∧ key = honestKey ∧ signature = honestCertSig) ∨
    (data = srepCtx ++ honestSrep ∧ key = honestDelegatedKey ∧ signature = honestSrepSig)))

def honestSource : RoughtimeSource where
  name := "roughtime-se"
  host := "roughtime.se"
  port := .finite 2002
  pubkey := honestKey
  timeoutMs := .finite 3000
  length_pubkey := rfl

/-- The network that answers the request. -/
def honestNetwork : Network := fun _ _ _ packet =>
  if packet = honestRequest then .message honestPacket else .timeout

theorem request_honest :
    buildRoughtimeRequest honestCrypto honestNonce honestKey = .ok honestRequest := by
  decide +kernel

theorem validate_honest : validateRoughtimeResponse honestCrypto honestRequest honestPacket
    honestKey honestNonce "roughtime-se" = .ok ⟨1785562297, 1⟩ := by
  decide +kernel

def honestAddress : Resolved := ⟨"194.58.202.219", 4⟩

theorem network_honest (socketType address : String) (port : Binary64) :
    honestNetwork socketType address port honestRequest = .message honestPacket :=
  if_pos rfl

theorem getTime_honest :
    honestSource.getTime honestCrypto (.ok honestAddress) honestNonce honestNetwork =
      .ok (honestSource.readingOf ⟨1785562297, 1⟩) := by
  have hpacket : honestSource.sendAndReceive honestNetwork honestRequest honestAddress.address
      honestAddress.family = .ok honestPacket := by
    rw [sendAndReceive, network_honest]
  have hvalidate : validateRoughtimeResponse honestCrypto honestRequest honestPacket
      honestSource.pubkey honestNonce honestSource.name = .ok ⟨1785562297, 1⟩ := validate_honest
  have hrequest : buildRoughtimeRequest honestCrypto honestNonce honestSource.pubkey =
      .ok honestRequest := request_honest
  rw [getTime, resolveFamily, ok_bind, hrequest, ok_bind, hpacket, ok_bind, hvalidate, ok_bind]

/-- The reading still covers the true time after one and a half seconds on the way, if the report
was exact. -/
theorem getTime_covers_iff_honest :
    (honestSource.readingOf ⟨1785562297, 1⟩).Covers ((1785562297 + 3 / 2) * 1000000000) := by
  obtain ⟨resolved, requestPacket, packet, v, hlookup, hrequest, hpacket, hv, hcovers⟩ :=
    getTime_covers_iff honestCrypto honestSource (.ok honestAddress) honestNonce honestNetwork _
      getTime_honest
  have hrequest' : requestPacket = honestRequest :=
    Except.ok.inj (hrequest.symm.trans request_honest)
  rw [hrequest', network_honest] at hpacket
  have hpacket' : packet = honestPacket := (SocketEvent.message.inj hpacket).symm
  rw [hrequest', hpacket'] at hv
  have hv' : v = ⟨1785562297, 1⟩ := Except.ok.inj (hv.symm.trans validate_honest)
  subst hv'
  exact (hcovers 1785562297 (3 / 2) (by norm_num) (by norm_num)).mpr (by norm_num)

/-- **A reading that misses the true time**: the report is right at the upper end of its radius, and
the response is on its way for a second. -/
theorem not_coversReceipt_honest : ¬ CoversReceipt honestCrypto honestSource := by
  intro h
  have hcovers := h honestAddress honestNonce honestRequest honestPacket honestNetwork
    ⟨1785562297, 1⟩ _ 3000 1785562298 1 request_honest (network_honest _ _ _) validate_honest
    getTime_honest rfl (by norm_num) (by norm_num) (by norm_num)
  rw [Nat.cast_ofNat, covers_readingOf_iff (by norm_num) (by norm_num) (by norm_num)] at hcovers
  norm_num at hcovers

/-! ## What the request holds -/

variable (crypto)

end RoughtimeSource

end OpenTTT
