import OpenTTT.Foundations.Mealy
import OpenTTT.Time.Osnma

/-!
# The OSNMA source in Rust

`roughtime/osnma.rs`, which is written after `osnma_source.ts`: it checks the same, and that the key
is a point of the curve. Readings of the clock are arguments, in nanoseconds since 1970.

`sources_agree_iff` compares runs of the two: they answer the calls of a run alike unless the key
is no point, or comes into force at a time for which there is no date.
-/

namespace OpenTTT.Roughtime

structure OsnmaKeyMaterial where
  pkid : UInt8
  pubkeyCompressed : Vector UInt8 33
  merkleRoot : Vector UInt8 32
  applicabilitySecs : UInt64
  deriving DecidableEq

structure OsnmaVerificationResult where
  valid : Bool
  pkid : UInt8
  keyFingerprint : Vector UInt8 32
  applicabilitySecs : UInt64
  checkedAtSecs : UInt64
  deriving DecidableEq

inductive OsnmaError
  | InvalidKeyLength (got : ℕ)
  | InvalidKeyPrefix (got : UInt8)
  | InvalidMerkleLength (got : ℕ)
  | KeyNotYetApplicable (applicableAt : UInt64)
  | InvalidP256Key
  deriving DecidableEq

/-- `fmt`. -/
def OsnmaError.display : OsnmaError → String
  | .InvalidKeyLength got =>
    "Public key must be 33 bytes (compressed P-256), got " ++ toString got
  | .InvalidKeyPrefix got =>
    "Compressed P-256 must start with 02 or 03, got " ++ padStart 2 (hexText got.toNat)
  | .InvalidMerkleLength got => "Merkle root must be 32 bytes, got " ++ toString got
  | .KeyNotYetApplicable applicableAt =>
    "Key not applicable until Unix secs " ++ toString applicableAt.toNat
  | .InvalidP256Key => "Public key is not a valid P-256 point"

def OSNMA_PUBKEY_HEX : String :=
  "02219204B5CA6C46B623EEED6CDD2CDDB1F7D6A7532767E5B8DA0DE1EBD695FC99"

def OSNMA_MERKLE_ROOT_HEX : String :=
  "7B944FA20915C7931D48DD016D94F9C6381FD37DC6C125D97015272FDDE41393"

def OSNMA_APPLICABILITY_SECS : UInt64 := 1765360800

/-- `default_osnma_key`, with the decoder of the `hex` package. -/
def defaultOsnmaKey (hexDecode : String → Option Buffer) : Except OsnmaError OsnmaKeyMaterial :=
  match hexDecode OSNMA_PUBKEY_HEX with
  | none => .error (.InvalidKeyLength 0)
  | some pubkeyBytes =>
    if hpub : pubkeyBytes.length = 33 then
      match hexDecode OSNMA_MERKLE_ROOT_HEX with
      | none => .error (.InvalidMerkleLength 0)
      | some merkleBytes =>
        if hroot : merkleBytes.length = 32 then
          .ok ⟨2, ⟨pubkeyBytes.toArray, hpub⟩, ⟨merkleBytes.toArray, hroot⟩,
            OSNMA_APPLICABILITY_SECS⟩
        else .error (.InvalidMerkleLength merkleBytes.length)
    else .error (.InvalidKeyLength pubkeyBytes.length)

/-- The whole seconds of a reading of the clock. A time before 1970 counts as 1970. -/
def asSecs (clock : ℤ) : UInt64 := if clock < 0 then 0 else UInt64.ofNat (clock.toNat / 10 ^ 9)

/-- The nanoseconds of a reading of the clock, in 64 bits. -/
def asNanos (clock : ℤ) : UInt64 := if clock < 0 then 0 else UInt64.ofNat clock.toNat

section Source

variable (sha256 : Buffer → Vector UInt8 32) (isPoint : Buffer → Bool)

/-- `verify_osnma_key_material`, with `isPoint` for what `VerifyingKey::from_sec1_bytes` accepts. -/
def verifyOsnmaKeyMaterial (key : OsnmaKeyMaterial) (clock : ℤ) :
    Except OsnmaError OsnmaVerificationResult :=
  let head := key.pubkeyCompressed.toList.getD 0 0
  if key.pubkeyCompressed.toList.length ≠ 33 then
    .error (.InvalidKeyLength key.pubkeyCompressed.toList.length)
  else if head ≠ 0x02 ∧ head ≠ 0x03 then .error (.InvalidKeyPrefix head)
  else if key.merkleRoot.toList.length ≠ 32 then
    .error (.InvalidMerkleLength key.merkleRoot.toList.length)
  else if asSecs clock < key.applicabilitySecs then
    .error (.KeyNotYetApplicable key.applicabilitySecs)
  else if isPoint key.pubkeyCompressed.toList then
    .ok {
      valid := true
      pkid := key.pkid
      keyFingerprint := sha256 key.pubkeyCompressed.toList
      applicabilitySecs := key.applicabilitySecs
      checkedAtSecs := asSecs clock }
  else .error .InvalidP256Key

structure OsnmaTimeSource where
  key : OsnmaKeyMaterial
  result : Option OsnmaVerificationResult

/-- `OsnmaTimeSource::new`. -/
def OsnmaTimeSource.new (hexDecode : String → Option Buffer) : Except OsnmaError OsnmaTimeSource :=
  (defaultOsnmaKey hexDecode).map fun key => ⟨key, none⟩

/-- `get_time`: the time in nanoseconds, the uncertainty in milliseconds and the stratum. -/
def OsnmaTimeSource.getTime (self : OsnmaTimeSource) (checkedAt now : ℤ) :
    Except OsnmaError (UInt64 × UInt32 × UInt8) × OsnmaTimeSource :=
  match self.result with
  | some _ => (.ok (asNanos now, 50, 1), self)
  | none =>
    match verifyOsnmaKeyMaterial sha256 isPoint self.key checkedAt with
    | .error e => (.error e, self)
    | .ok result => (.ok (asNanos now, 50, 1), { self with result := some result })

end Source

/-! ## Runs of the two sources -/

namespace Osnma

/-- The material of a key on both sides. -/
structure SameKey (ts : OpenTTT.OsnmaKeyMaterial) (rs : OsnmaKeyMaterial) : Prop where
  pkid : ts.pkid = .finite rs.pkid.toNat
  publicKey : Buffer.fromHex ts.publicKeyHex = rs.pubkeyCompressed.toList
  merkleRoot : Buffer.fromHex ts.merkleRootHex = rs.merkleRoot.toList
  applicability : ts.applicabilityMs = .finite (1000 * rs.applicabilitySecs.toNat : ℕ)

/-- The results of a check on both sides. -/
structure SameResult (ts : OpenTTT.OsnmaVerificationResult) (rs : OsnmaVerificationResult) :
    Prop where
  valid : ts.valid = rs.valid
  pkid : ts.pkid = .finite rs.pkid.toNat
  keyFingerprint : ts.keyFingerprint = Buffer.toHex rs.keyFingerprint.toList
  applicability : ts.applicabilityMs = .finite (1000 * rs.applicabilitySecs.toNat : ℕ)
  checkedAt : ts.checkedAt / 1000 = rs.checkedAtSecs.toNat

/-- The message of the error on the other side, which never checks the point. -/
def message? : OsnmaError → Option String
  | .InvalidKeyLength _ => some "OSNMA_KEY_LENGTH_INVALID"
  | .InvalidKeyPrefix _ => some "OSNMA_KEY_PREFIX_INVALID"
  | .InvalidMerkleLength _ => some "OSNMA_MERKLE_LENGTH_INVALID"
  | .KeyNotYetApplicable _ => some "OSNMA_KEY_NOT_YET_APPLICABLE"
  | .InvalidP256Key => none

/-- The answers of the two to a call: the same time up to the nanoseconds of a millisecond, or
errors of the same kind. -/
def Agree : Except Thrown TimeReading → Except OsnmaError (UInt64 × UInt32 × UInt8) → Prop
  | .ok r, .ok (ns, uncertainty, stratum) => r.timestamp = ns.toNat / 1000000 * 1000000 ∧
      r.uncertainty = .finite uncertainty.toNat ∧ r.stratum = .finite stratum.toNat
  | .error (.timeSynthesisError e), .error e' => message? e' = some e.message
  | _, _ => False

/-- A call: the nanoseconds at which the key is checked, if it is, and those that are told. -/
structure Call where
  checkedAt : UInt64
  now : UInt64
  deriving DecidableEq

variable (sha256 : Buffer → Vector UInt8 32) (isPoint : Buffer → Bool)

/-- A call of the source of `osnma_source.ts`, whose clock has milliseconds. -/
def tsStep (self : OpenTTT.OsnmaTimeSource) (c : Call) :
    Except Thrown TimeReading × OpenTTT.OsnmaTimeSource :=
  self.getTime sha256 (c.checkedAt.toNat / 1000000 : ℕ) (c.now.toNat / 1000000 : ℕ)

/-- A call of the source of `osnma.rs`. -/
def rsStep (self : OsnmaTimeSource) (c : Call) :
    Except OsnmaError (UInt64 × UInt32 × UInt8) × OsnmaTimeSource :=
  self.getTime sha256 isPoint c.checkedAt.toNat c.now.toNat

/-- The key material begins as a compressed point does. -/
def Compressed (key : OsnmaKeyMaterial) : Prop :=
  key.pubkeyCompressed.toList.getD 0 0 = 0x02 ∨ key.pubkeyCompressed.toList.getD 0 0 = 0x03

instance (key : OsnmaKeyMaterial) : Decidable (Compressed key) :=
  inferInstanceAs (Decidable (_ ∨ _))

/-- The calls that the two answer alike: with a key of another form all of them, and otherwise those
before a key comes into force at a time that has a date, and all of them where it is a point. -/
def Alike (key : OsnmaKeyMaterial) (c : Call) : Prop :=
  ¬ Compressed key ∨ key.applicabilitySecs.toNat ≤ 8640000000000 ∧
    (isPoint key.pubkeyCompressed.toList = true ∨
      c.checkedAt.toNat / 10 ^ 9 < key.applicabilitySecs.toNat)

/-! ### One check -/

/-- Seconds that have a date. -/
theorem exists_date_iff (n : ℕ) :
    (∃ date, toISOString (.finite (1000 * n : ℕ)) = .ok date) ↔ n ≤ 8640000000000 := by
  have habs : |((1000 * n : ℕ) : ℚ)| = (1000 * n : ℕ) := abs_of_nonneg (Nat.cast_nonneg _)
  rw [toISOString]
  split
  · rename_i hle
    rw [habs] at hle
    have hdate : 1000 * n ≤ 8640000000000000 := by exact_mod_cast hle
    exact iff_of_true ⟨_, rfl⟩ (by omega)
  · rename_i hlt
    rw [habs, not_le] at hlt
    have hdate : 8640000000000000 < 1000 * n := by exact_mod_cast hlt
    exact iff_of_false (by rintro ⟨_, h⟩; cases h) (by omega)

theorem not_compressed_iff (key : OsnmaKeyMaterial) :
    key.pubkeyCompressed.toList.getD 0 0 ≠ 0x02 ∧ key.pubkeyCompressed.toList.getD 0 0 ≠ 0x03 ↔
      ¬ Compressed key := by
  rw [Compressed, not_or]

theorem asSecs_natCast (c : UInt64) : (asSecs c.toNat).toNat = c.toNat / 10 ^ 9 := by
  have hlt := c.toNat_lt
  rw [asSecs, if_neg (by omega), Int.toNat_natCast, UInt64.toNat_ofNat']
  exact Nat.mod_eq_of_lt (by omega)

theorem asNanos_natCast (c : UInt64) : (asNanos c.toNat).toNat = c.toNat := by
  rw [asNanos, if_neg (by omega), Int.toNat_natCast, UInt64.ofNat_toNat]

/-- Both sides compare whole seconds. -/
theorem asSecs_lt_iff (c secs : UInt64) :
    asSecs c.toNat < secs ↔ c.toNat / 10 ^ 9 < secs.toNat := by
  rw [UInt64.lt_iff_toNat_lt, asSecs_natCast]

theorem millis_lt_iff (c secs : UInt64) :
    (Binary64.finite ((c.toNat / 1000000 : ℕ) : ℤ)).lt (.finite (1000 * secs.toNat : ℕ)) = true ↔
      c.toNat / 10 ^ 9 < secs.toNat := by
  have hcast : (((c.toNat / 1000000 : ℕ) : ℤ) : ℚ) < ((1000 * secs.toNat : ℕ) : ℚ) ↔
      c.toNat / 1000000 < 1000 * secs.toNat := by
    rw [Int.cast_natCast, Nat.cast_lt]
  rw [Binary64.lt, decide_eq_true_iff, hcast]
  omega

variable {ts : OpenTTT.OsnmaKeyMaterial} {rs : OsnmaKeyMaterial}

/-- What remains of the checks on a key of the same material. -/
theorem verify_ts (h : SameKey ts rs) (c : UInt64) :
    OpenTTT.verifyOsnmaKeyMaterial sha256 ts (c.toNat / 1000000 : ℕ) =
      if ¬ Compressed rs then
        osnmaError "OSNMA_KEY_PREFIX_INVALID"
          ("Compressed P-256 point must start with 02 or 03, got " ++
            hexText (rs.pubkeyCompressed.toList.getD 0 0).toNat)
          "OSNMA public key is not a valid compressed EC point"
      else if c.toNat / 10 ^ 9 < rs.applicabilitySecs.toNat then
        match toISOString (.finite (1000 * rs.applicabilitySecs.toNat : ℕ)) with
        | .error _ => .error .rangeError
        | .ok date =>
          osnmaError "OSNMA_KEY_NOT_YET_APPLICABLE"
            ("Key PKID=" ++ numberToString ts.pkid ++ " not applicable until " ++ date)
            "Use a key with an applicability date in the past"
      else
        .ok {
          valid := true
          pkid := ts.pkid
          merkleRootHex := ts.merkleRootHex
          keyFingerprint := Buffer.toHex (sha256 rs.pubkeyCompressed.toList).toList
          applicabilityMs := ts.applicabilityMs
          checkedAt := (c.toNat / 1000000 : ℕ) } := by
  have hlength : ¬ rs.pubkeyCompressed.toList.length ≠ 33 := by simp
  have hroot : ¬ rs.merkleRoot.toList.length ≠ 32 := by simp
  cases hdate : toISOString (.finite (1000 * rs.applicabilitySecs.toNat : ℕ)) <;>
    simp only [OpenTTT.verifyOsnmaKeyMaterial, h.publicKey, h.merkleRoot, h.applicability,
      millis_lt_iff, not_compressed_iff, if_neg hlength, if_neg hroot, hdate]

theorem verify_rs (c : UInt64) :
    verifyOsnmaKeyMaterial sha256 isPoint rs c.toNat =
      if ¬ Compressed rs then
        .error (.InvalidKeyPrefix (rs.pubkeyCompressed.toList.getD 0 0))
      else if c.toNat / 10 ^ 9 < rs.applicabilitySecs.toNat then
        .error (.KeyNotYetApplicable rs.applicabilitySecs)
      else if isPoint rs.pubkeyCompressed.toList then
        .ok {
          valid := true
          pkid := rs.pkid
          keyFingerprint := sha256 rs.pubkeyCompressed.toList
          applicabilitySecs := rs.applicabilitySecs
          checkedAtSecs := asSecs c.toNat }
      else .error .InvalidP256Key := by
  have hlength : ¬ rs.pubkeyCompressed.toList.length ≠ 33 := by simp
  have hroot : ¬ rs.merkleRoot.toList.length ≠ 32 := by simp
  simp only [verifyOsnmaKeyMaterial, asSecs_lt_iff, not_compressed_iff, if_neg hlength,
    if_neg hroot]

/-! ### Runs -/

/-- The state of the two after the same calls. -/
inductive Related (rs : OsnmaKeyMaterial) : OpenTTT.OsnmaTimeSource → OsnmaTimeSource → Prop
  | unchecked {ts : OpenTTT.OsnmaKeyMaterial} : SameKey ts rs → Related rs ⟨ts, none⟩ ⟨rs, none⟩
  | checked {ts : OpenTTT.OsnmaKeyMaterial} {r : OpenTTT.OsnmaVerificationResult}
      {r' : OsnmaVerificationResult} : SameKey ts rs → SameResult r r' →
      (∀ c, Alike isPoint rs c) → Related rs ⟨ts, some r⟩ ⟨rs, some r'⟩

/-- The time that both tell. -/
theorem agree_reading (c : UInt64) :
    Agree (.ok (OpenTTT.OsnmaTimeSource.reading (c.toNat / 1000000 : ℕ)))
      (.ok (asNanos c.toNat, 50, 1)) := by
  refine ⟨?_, rfl, rfl⟩
  rw [asNanos_natCast, OpenTTT.OsnmaTimeSource.reading]
  push_cast
  rfl

theorem sameResult (h : SameKey ts rs) (c : UInt64) : SameResult
    { valid := true
      pkid := ts.pkid
      merkleRootHex := ts.merkleRootHex
      keyFingerprint := Buffer.toHex (sha256 rs.pubkeyCompressed.toList).toList
      applicabilityMs := ts.applicabilityMs
      checkedAt := (c.toNat / 1000000 : ℕ) }
    { valid := true
      pkid := rs.pkid
      keyFingerprint := sha256 rs.pubkeyCompressed.toList
      applicabilitySecs := rs.applicabilitySecs
      checkedAtSecs := asSecs c.toNat } where
  valid := rfl
  pkid := h.pkid
  keyFingerprint := rfl
  applicability := h.applicability
  checkedAt := by
    dsimp only
    rw [asSecs_natCast]
    omega

/-- A check of both, before one of them has passed. -/
theorem step_unchecked (h : SameKey ts rs) (c : Call) :
    (Agree (tsStep sha256 ⟨ts, none⟩ c).1 (rsStep sha256 isPoint ⟨rs, none⟩ c).1 ↔
        Alike isPoint rs c) ∧
      (Alike isPoint rs c →
        Related isPoint rs (tsStep sha256 ⟨ts, none⟩ c).2
          (rsStep sha256 isPoint ⟨rs, none⟩ c).2) := by
  rw [tsStep, rsStep, OpenTTT.OsnmaTimeSource.getTime, OsnmaTimeSource.getTime]
  simp only [verify_ts sha256 h, verify_rs]
  by_cases hform : Compressed rs
  · have hform' : ¬ ¬ Compressed rs := not_not.2 hform
    rw [if_neg hform', if_neg hform']
    by_cases hearly : c.checkedAt.toNat / 10 ^ 9 < rs.applicabilitySecs.toNat
    · rw [if_pos hearly, if_pos hearly]
      have halike : Alike isPoint rs c ↔
          ∃ date, toISOString (.finite (1000 * rs.applicabilitySecs.toNat : ℕ)) = .ok date := by
        rw [Alike, or_iff_right hform', and_iff_left (Or.inr hearly), exists_date_iff]
      rw [halike]
      cases hdate : toISOString (.finite (1000 * rs.applicabilitySecs.toNat : ℕ)) with
      | error e =>
        refine ⟨iff_of_false id ?_, ?_⟩
        all_goals
          rintro ⟨date, hok⟩
          cases hok
      | ok date => exact ⟨iff_of_true rfl ⟨date, rfl⟩, fun _ => .unchecked h⟩
    · rw [if_neg hearly, if_neg hearly]
      have hsecs : rs.applicabilitySecs.toNat ≤ 8640000000000 := by
        have hlt := c.checkedAt.toNat_lt
        omega
      have halike : Alike isPoint rs c ↔ isPoint rs.pubkeyCompressed.toList = true := by
        rw [Alike, or_iff_right hform', and_iff_right hsecs, or_iff_left hearly]
      rw [halike]
      by_cases hpoint : isPoint rs.pubkeyCompressed.toList = true
      · rw [if_pos hpoint]
        exact ⟨iff_of_true (agree_reading c.now) hpoint, fun _ =>
          .checked h (sameResult sha256 h c.checkedAt) fun d => Or.inr ⟨hsecs, Or.inl hpoint⟩⟩
      · rw [if_neg hpoint]
        exact ⟨iff_of_false id hpoint, fun htrue => absurd htrue hpoint⟩
  · rw [if_pos hform, if_pos hform]
    exact ⟨iff_of_true rfl (Or.inl hform), fun _ => .unchecked h⟩

/-- One call, up to the first one that the two do not answer alike. -/
theorem step_related {self : OpenTTT.OsnmaTimeSource} {self' : OsnmaTimeSource} (c : Call)
    (h : Related isPoint rs self self') :
    (Agree (tsStep sha256 self c).1 (rsStep sha256 isPoint self' c).1 ↔ Alike isPoint rs c) ∧
      (Alike isPoint rs c →
        Related isPoint rs (tsStep sha256 self c).2 (rsStep sha256 isPoint self' c).2) := by
  cases h with
  | unchecked hkey => exact step_unchecked sha256 isPoint hkey c
  | checked hkey hresult hall =>
    exact ⟨iff_of_true (agree_reading c.now) (hall c), fun _ => .checked hkey hresult hall⟩

theorem sameResult_of_related {self : OpenTTT.OsnmaTimeSource} {self' : OsnmaTimeSource}
    (h : Related isPoint rs self self') :
    Option.Rel SameResult self.verificationResult self'.result := by
  cases h with
  | unchecked _ => exact .none
  | checked _ hresult _ => exact .some hresult

/-- **The two sources agree** on the calls of a run if they are alike on each of them, and only
then; then they also keep the same result. -/
theorem sources_agree_iff (h : SameKey ts rs) (calls : List Call) :
    (List.Forall₂ Agree (Mealy.outputs (tsStep sha256) ⟨ts, none⟩ calls)
        (Mealy.outputs (rsStep sha256 isPoint) ⟨rs, none⟩ calls) ↔
      ∀ c ∈ calls, Alike isPoint rs c) ∧
    ((∀ c ∈ calls, Alike isPoint rs c) → Option.Rel SameResult
      (Mealy.after (tsStep sha256) ⟨ts, none⟩ calls).verificationResult
      (Mealy.after (rsStep sha256 isPoint) ⟨rs, none⟩ calls).result) := by
  have hstep : ∀ self self' c, Related isPoint rs self self' →
      (Agree (tsStep sha256 self c).1 (rsStep sha256 isPoint self' c).1 ↔ Alike isPoint rs c) ∧
        (Alike isPoint rs c →
          Related isPoint rs (tsStep sha256 self c).2 (rsStep sha256 isPoint self' c).2) :=
    fun _ _ => step_related sha256 isPoint
  refine ⟨Mealy.forall₂_outputs_iff _ hstep (.unchecked h) calls, fun hcalls => ?_⟩
  exact sameResult_of_related isPoint
    (Mealy.rel_after _ (fun self self' c hrel => (hstep self self' c hrel).2) (.unchecked h) hcalls)

/-! ### The key that is built in -/

/-- The built-in keys of the two are the same. -/
theorem exists_defaultOsnmaKey {hexDecode : String → Option Buffer}
    (hdecode : ∀ text ∈ [OSNMA_PUBKEY_HEX, OSNMA_MERKLE_ROOT_HEX],
      hexDecode text = some (Buffer.fromHex text)) :
    ∃ key, defaultOsnmaKey hexDecode = .ok key ∧ SameKey DEFAULT_OSNMA_KEY key := by
  have hpub : hexDecode OSNMA_PUBKEY_HEX = some (Buffer.fromHex OSNMA_PUBKEY_HEX) :=
    hdecode _ (by simp)
  have hroot : hexDecode OSNMA_MERKLE_ROOT_HEX = some (Buffer.fromHex OSNMA_MERKLE_ROOT_HEX) :=
    hdecode _ (by simp)
  have hpubLength : (Buffer.fromHex OSNMA_PUBKEY_HEX).length = 33 := by decide +kernel
  have hrootLength : (Buffer.fromHex OSNMA_MERKLE_ROOT_HEX).length = 32 := by decide +kernel
  have hms : 1000 * OSNMA_APPLICABILITY_SECS.toNat = 1765360800000 := by decide +kernel
  generalize hpubBytes : Buffer.fromHex OSNMA_PUBKEY_HEX = pubkeyBytes at hpub hpubLength
  generalize hrootBytes : Buffer.fromHex OSNMA_MERKLE_ROOT_HEX = merkleBytes at hroot hrootLength
  rw [defaultOsnmaKey]
  simp only [hpub, hroot]
  rw [dif_pos hpubLength, dif_pos hrootLength]
  refine ⟨_, rfl, rfl, hpubBytes, hrootBytes, ?_⟩
  rw [DEFAULT_OSNMA_KEY, hms, Nat.cast_ofNat]

namespace Sample

/-- The fingerprint of the key. -/
def fingerprint : Vector UInt8 32 :=
  #v[13, 41, 60, 158, 192, 134, 199, 142, 218, 223, 125, 175, 91, 44, 136, 154, 8, 40, 22, 19, 194,
    40, 54, 166, 94, 99, 239, 25, 247, 144, 176, 101]

def key : OsnmaKeyMaterial where
  pkid := 2
  pubkeyCompressed := ⟨(Buffer.fromHex OSNMA_PUBKEY_HEX).toArray, by decide +kernel⟩
  merkleRoot := ⟨(Buffer.fromHex OSNMA_MERKLE_ROOT_HEX).toArray, by decide +kernel⟩
  applicabilitySecs := OSNMA_APPLICABILITY_SECS

/-- A call before the key comes into force, and two after it. -/
def calls : List Call :=
  [⟨1765360799900000000, 1765360799900000000⟩, ⟨1765360800100000000, 1765360800100000001⟩,
    ⟨1765360900000000000, 1765360900000000000⟩]

end Sample

open Osnma.Sample in
/-- The sources agree with the key that is built in, which is a point. -/
theorem sources_agree_default :
    List.Forall₂ Agree (Mealy.outputs (tsStep fun _ => fingerprint) ⟨DEFAULT_OSNMA_KEY, none⟩ calls)
        (Mealy.outputs (rsStep (fun _ => fingerprint) fun _ => true) ⟨key, none⟩ calls) ∧
      Option.Rel SameResult
        (Mealy.after (tsStep fun _ => fingerprint) ⟨DEFAULT_OSNMA_KEY, none⟩
          calls).verificationResult
        (Mealy.after (rsStep (fun _ => fingerprint) fun _ => true) ⟨key, none⟩ calls).result := by
  have hsame : SameKey DEFAULT_OSNMA_KEY key := by
    have hdecode : ∀ text ∈ [OSNMA_PUBKEY_HEX, OSNMA_MERKLE_ROOT_HEX],
        some (Buffer.fromHex text) = some (Buffer.fromHex text) := fun _ _ => rfl
    obtain ⟨key', hkey, hsame⟩ := exists_defaultOsnmaKey hdecode
    have heq : key' = key := Except.ok.inj (hkey.symm.trans (by decide +kernel))
    rwa [heq] at hsame
  have hcalls : ∀ c ∈ calls, Alike (fun _ => true) key c := fun c _ =>
    Or.inr ⟨by decide +kernel, Or.inl rfl⟩
  have hagree := sources_agree_iff (fun _ => fingerprint) (fun _ => true) hsame calls
  exact ⟨hagree.1.2 hcalls, hagree.2 hcalls⟩

end Osnma

end OpenTTT.Roughtime
