import OpenTTT.Pot.Frame

/-!
# Issued records

The records that the Rust issuer assembles (`grg_bridge.rs`, `pot_crypto.rs`) and reads back
(`no_std_verify.rs`), against the TypeScript codec of the frames. The two sides agree on the format
of a record, of which the Rust side writes every field and reads the header and the timestamp
(`record_formats_agree`). They do not agree on what makes a record valid: the issuer keeps its
R-flag in the reserved byte, which the structure check of the client wants empty
(`valid_iff_no_rFlag`).
-/

namespace OpenTTT

namespace Roughtime

/-- Bit 0 of the reserved byte. -/
def R_FLAG : UInt8 := 0x01

/-- `assemble_pot_payload`. -/
def assemblePotPayload (version tier sourceCnt : UInt8) (rFlag : Bool) (timestampNs : UInt64)
    (confidencePpm : UInt32) (nonce : Vector UInt8 32) : List UInt8 :=
  let reserved := if rFlag then R_FLAG else 0x00
  [(version <<< 4) ||| (tier &&& 0x0F), sourceCnt, reserved] ++ toBeBytes 8 timestampNs.toNat ++
    toBeBytes 4 confidencePpm.toNat ++ nonce.toList

/-- The message of `sign_pot`. -/
def potMessage (payload : List UInt8) (grgCommitment : Vector UInt8 32) : List UInt8 :=
  payload ++ grgCommitment.toList

/-- `sign_pot`, with the signing key as the function that signs. -/
def signPot (sign : List UInt8 → Vector UInt8 64) (payload : List UInt8)
    (grgCommitment : Vector UInt8 32) : Vector UInt8 64 :=
  sign (potMessage payload grgCommitment)

/-- `parse_pot_header`: version, tier, source count and R-flag. -/
def parsePotHeader : List UInt8 → Option (UInt8 × UInt8 × UInt8 × Bool)
  | b₀ :: b₁ :: b₂ :: _ => some ((b₀ >>> 4) &&& 0x0F, b₀ &&& 0x0F, b₁, (b₂ &&& 0x01) != 0)
  | _ => none

/-- `extract_timestamp_ns`. -/
def extractTimestampNs (bytes : List UInt8) : Option UInt64 :=
  if bytes.length < 11 then none
  else some (UInt64.ofNat (Buffer.beValue ((bytes.drop 3).take 8)))

/-! ## The layout of an issued record -/

/-- The byte with the two nibbles. -/
theorem toNat_versionTier (version tier : UInt8) :
    ((version <<< 4) ||| (tier &&& 0x0F)).toNat = 16 * (version.toNat % 16) + tier.toNat % 16 := by
  have hshift : (version <<< (4 : UInt8)).toNat = (version.toNat % 16) <<< 4 := by
    rw [UInt8.toNat_shiftLeft, Nat.shiftLeft_eq, Nat.shiftLeft_eq]
    change version.toNat * 16 % 256 = _
    omega
  have hmask : (tier &&& 0x0F).toNat = tier.toNat % 16 := by
    rw [UInt8.toNat_and]
    exact Nat.and_two_pow_sub_one_eq_mod tier.toNat 4
  have hlt : tier.toNat % 16 < 2 ^ 4 := Nat.mod_lt _ (by decide)
  rw [UInt8.toNat_or, hshift, hmask, ← Nat.shiftLeft_add_eq_or_of_lt hlt, Nat.shiftLeft_eq,
    Nat.mul_comm]

/-- What an issuer makes a record of: the arguments of `assemble_pot_payload`, the commitment and
the signature. -/
structure IssuedPot where
  version : UInt8
  tier : UInt8
  sourceCnt : UInt8
  rFlag : Bool
  timestampNs : UInt64
  confidencePpm : UInt32
  nonce : Vector UInt8 32
  grgCommitment : Vector UInt8 32
  signature : Vector UInt8 64

namespace IssuedPot

variable (pot : IssuedPot)

def payload : List UInt8 :=
  assemblePotPayload pot.version pot.tier pot.sourceCnt pot.rFlag pot.timestampNs
    pot.confidencePpm pot.nonce

/-- The record: the payload, the commitment and the signature. -/
def record : List UInt8 := pot.payload ++ pot.grgCommitment.toList ++ pot.signature.toList

/-- The fields of the record. -/
def fields : PotRecord where
  versionTier := (pot.version <<< 4) ||| (pot.tier &&& 0x0F)
  sourceCount := pot.sourceCnt
  reserved := if pot.rFlag then R_FLAG else 0x00
  timestamp := pot.timestampNs
  confidence := pot.confidencePpm
  nonce := pot.nonce
  grgCommit := pot.grgCommitment
  ed25519Sig := pot.signature

theorem bytes_fields : pot.fields.bytes = pot.record := rfl

end IssuedPot

/-! ## Reading a record on the Rust side -/

/-- The nibbles of the first byte are the version and the tier, as far as these fit. -/
theorem nibbles_versionTier (version tier : UInt8) :
    ((((version <<< 4) ||| (tier &&& 0x0F)) >>> 4) &&& 0x0F) = version % 16 ∧
      (((version <<< 4) ||| (tier &&& 0x0F)) &&& 0x0F) = tier % 16 := by
  have hbyte := toNat_versionTier version tier
  generalize (version <<< 4) ||| (tier &&& 0x0F) = b at hbyte
  have hhigh : ((b >>> 4) &&& 0x0F).toNat = (b.toNat >>> 4) &&& 0x0F := by
    rw [UInt8.toNat_and, UInt8.toNat_shiftRight]
    rfl
  have hlow : (b &&& 0x0F).toNat = b.toNat &&& 0x0F := UInt8.toNat_and b 0x0F
  obtain ⟨hdiv, hmod⟩ := PotRecord.nibbles b
  constructor
  · rw [← UInt8.toNat_inj, hhigh, hdiv, UInt8.toNat_mod]
    change b.toNat / 16 = version.toNat % 16
    omega
  · rw [← UInt8.toNat_inj, hlow, hmod, UInt8.toNat_mod]
    change b.toNat % 16 = tier.toNat % 16
    omega

theorem extractTimestampNs_bytes (r : PotRecord) :
    extractTimestampNs r.bytes = some r.timestamp := by
  have hread := r.readBigUInt64BE_timestamp
  have hlen : ¬ r.bytes.length < 11 := by simp [POT_RECORD_SIZE]
  rw [Buffer.readBigUInt64BE, Buffer.readUIntBE, if_pos (by simp [POT_RECORD_SIZE]),
    Except.ok.injEq] at hread
  rw [extractTimestampNs, if_neg hlen, hread, UInt64.ofNat_toNat]

/-- The R-flag in the reserved byte. -/
theorem rFlag_reserved (rFlag : Bool) :
    (((if rFlag then R_FLAG else 0x00) &&& 0x01 : UInt8) != 0) = rFlag := by
  cases rFlag <;> rfl

/-- **The two sides agree on the format of a record.** The frame of an issued record decodes to
the version and the tier modulo 16 and to the other fields as they are; the Rust readers return
the same header and timestamp; and the part without the signature is the message that the issuer
signs. -/
theorem record_formats_agree (bindingKey : Vector UInt8 32) (pot : IssuedPot) :
    ∃ frame, decodePotFrame (bindingKey.toList ++ pot.record) = .ok frame ∧
      frame.bindingKey = bindingKey.toList ∧ frame.potRecord = pot.record ∧
      frame.version = pot.version.toNat % 16 ∧ frame.tier = pot.tier.toNat % 16 ∧
      frame.timestamp = pot.timestampNs.toNat ∧ frame.confidence = pot.confidencePpm.toNat ∧
      frame.nonce = pot.nonce.toList ∧ frame.grgCommit = pot.grgCommitment.toList ∧
      frame.ed25519Sig = pot.signature.toList ∧
      parsePotHeader pot.record =
        some (pot.version % 16, pot.tier % 16, pot.sourceCnt, pot.rFlag) ∧
      extractTimestampNs pot.record = some pot.timestampNs ∧
      potRecordWithoutSig frame.potRecord = .ok (pot.payload ++ pot.grgCommitment.toList) ∧
      ∀ sign, signPot sign pot.payload pot.grgCommitment =
        sign (pot.payload ++ pot.grgCommitment.toList) := by
  have hbyte : pot.fields.versionTier.toNat = 16 * (pot.version.toNat % 16) + pot.tier.toNat % 16 :=
    toNat_versionTier pot.version pot.tier
  obtain ⟨hversion, htier⟩ := nibbles_versionTier pot.version pot.tier
  rw [← pot.bytes_fields]
  refine ⟨pot.fields.frame bindingKey, pot.fields.decodePotFrame_bytes bindingKey, rfl, rfl, ?_,
    ?_, rfl, rfl, rfl, rfl, rfl, ?_, extractTimestampNs_bytes pot.fields,
    pot.fields.potRecordWithoutSig_bytes, fun _ => rfl⟩
  · change pot.fields.versionTier.toNat / 16 = _
    omega
  · change pot.fields.versionTier.toNat % 16 = _
    omega
  · have hheader : parsePotHeader pot.fields.bytes =
        some ((pot.fields.versionTier >>> 4) &&& 0x0F, pot.fields.versionTier &&& 0x0F,
          pot.sourceCnt, (pot.fields.reserved &&& 0x01) != 0) := rfl
    rw [hheader, Option.some.injEq, Prod.mk.injEq, Prod.mk.injEq, Prod.mk.injEq]
    exact ⟨hversion, htier, rfl, rFlag_reserved pot.rFlag⟩

/-! ## The structure check on issued records -/

/-- The nibbles of version 1 and a known tier. -/
theorem versionTier_one {pot : IssuedPot} (hversion : pot.version = 1) (htier : pot.tier ≤ 3) :
    pot.fields.versionTier.toNat / 16 = 1 ∧ pot.fields.versionTier.toNat % 16 ≤ 3 := by
  have hbyte : pot.fields.versionTier.toNat = 16 * (pot.version.toNat % 16) + pot.tier.toNat % 16 :=
    toNat_versionTier pot.version pot.tier
  have hle : pot.tier.toNat ≤ 3 := UInt8.le_iff_toNat_le.1 htier
  have hone : pot.version.toNat = 1 := by
    rw [hversion]
    rfl
  omega

/-- The structure check rejects an R-flag by its reserved byte. -/
theorem validatePotFrameStructure_of_rFlag (bindingKey : Vector UInt8 32) {pot : IssuedPot}
    (hversion : pot.version = 1) (htier : pot.tier ≤ 3) (hflag : pot.rFlag = true) :
    validatePotFrameStructure (bindingKey.toList ++ pot.record) =
      .error (.potFrameError "Reserved field must be 0x00, got 0x1") := by
  obtain ⟨hone, hthree⟩ := versionTier_one hversion htier
  have hreserved : pot.fields.reserved.toNat = 1 := by
    simp [IssuedPot.fields, hflag, R_FLAG]
  have htext : ("Reserved field must be 0x00, got 0x" ++ String.ofList (Nat.toDigits 16 1)) =
      "Reserved field must be 0x00, got 0x1" := by
    decide +kernel
  rw [← pot.bytes_fields, PotRecord.validatePotFrameStructure_bytes, if_neg (not_not.2 hone),
    if_neg (not_lt.2 hthree), hreserved, if_pos one_ne_zero, htext]

/-- **A record of version 1 and a known tier is valid for the client if and only if it has no
R-flag.** -/
theorem valid_iff_no_rFlag (bindingKey : Vector UInt8 32) (pot : IssuedPot)
    (hversion : pot.version = 1) (htier : pot.tier ≤ 3) :
    (validatePotFrameStructure (bindingKey.toList ++ pot.record) = .ok () ↔ pot.rFlag = false) ∧
      (pot.rFlag = true → validatePotFrameStructure (bindingKey.toList ++ pot.record) =
        .error (.potFrameError "Reserved field must be 0x00, got 0x1")) := by
  cases hflag : pot.rFlag with
  | true =>
    have herror := validatePotFrameStructure_of_rFlag bindingKey hversion htier hflag
    rw [herror]
    exact ⟨⟨nofun, nofun⟩, fun _ => rfl⟩
  | false =>
    obtain ⟨hone, hthree⟩ := versionTier_one hversion htier
    have hreserved : pot.fields.reserved.toNat = 0 := by
      simp [IssuedPot.fields, hflag]
    have hvalid := (pot.fields.validatePotFrameStructure_iff bindingKey).2
      ⟨hone, hthree, hreserved⟩
    exact ⟨⟨fun _ => rfl, fun _ => hvalid⟩, nofun⟩

/-- A record of tier 1 with an R-flag. -/
def chainPot : IssuedPot where
  version := 1
  tier := 1
  sourceCnt := 3
  rFlag := true
  timestampNs := 1700000000000000000
  confidencePpm := 500000
  nonce := .replicate 32 0
  grgCommitment := .replicate 32 0
  signature := .replicate 64 0

theorem valid_iff_no_rFlag_chainPot :
    (validatePotFrameStructure ((Vector.replicate 32 0).toList ++ chainPot.record) = .ok () ↔
        chainPot.rFlag = false) ∧
      (chainPot.rFlag = true →
        validatePotFrameStructure ((Vector.replicate 32 0).toList ++ chainPot.record) =
          .error (.potFrameError "Reserved field must be 0x00, got 0x1")) :=
  valid_iff_no_rFlag (.replicate 32 0) chainPot rfl (by decide)

/-- That the client finds every record of the issuer valid. -/
def IssuedRecordsValid : Prop :=
  ∀ (bindingKey : Vector UInt8 32) (pot : IssuedPot), pot.version = 1 → pot.tier ≤ 3 →
    validatePotFrameStructure (bindingKey.toList ++ pot.record) = .ok ()

theorem not_issuedRecordsValid : ¬ IssuedRecordsValid := by
  intro h
  have hflag := validatePotFrameStructure_of_rFlag (.replicate 32 0)
    (rfl : chainPot.version = 1) (by decide) rfl
  rw [h (.replicate 32 0) chainPot rfl (by decide)] at hflag
  cases hflag

end Roughtime

end OpenTTT
