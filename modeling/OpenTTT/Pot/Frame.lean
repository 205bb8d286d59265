import OpenTTT.Runtime.Buffer

/-!
# Frames

The codec of `pot_frame.ts`: a frame is a binding key of 32 bytes and a record of 143, which is
read field by field at fixed offsets.

`PotRecord` is the layout of a record, with a type for each field, and `PotRecord.bytes` its
143 bytes. Every record of the right length has this form (`exists_record`), and `decodePotFrame`
reads the fields back (`decodePotFrame_bytes`): what the functions on frames do is stated in these
terms.
-/

namespace OpenTTT

def POT_RECORD_SIZE : ℕ := 143

def POT_WITHOUT_SIG_SIZE : ℕ := 79

def BINDING_KEY_SIZE : ℕ := 32

def POT_FRAME_SIZE : ℕ := 175

structure PotFrame where
  bindingKey : Buffer
  potRecord : Buffer
  version : ℕ
  tier : ℕ
  reserved : ℕ
  /-- Nanoseconds since the epoch. -/
  timestamp : ℕ
  confidence : ℕ
  nonce : Buffer
  grgCommit : Buffer
  ed25519Sig : Buffer
  deriving DecidableEq

/-- What the functions on frames throw: a `PotFrameError`, a `TLSBindingError`, or an error of the
runtime. -/
inductive PotThrown
  | potFrameError (message : String)
  | tlsBindingError (message : String)
  | runtime (e : Thrown)
  deriving DecidableEq

def encodePotFrame (bindingKey potRecord : Buffer) : Except PotThrown Buffer :=
  if bindingKey.length ≠ BINDING_KEY_SIZE then
    .error (.potFrameError ("binding_key must be " ++ toString BINDING_KEY_SIZE ++
      " bytes, got " ++ toString bindingKey.length))
  else if potRecord.length ≠ POT_RECORD_SIZE then
    .error (.potFrameError ("pot_record must be " ++ toString POT_RECORD_SIZE ++
      " bytes, got " ++ toString potRecord.length))
  else .ok (bindingKey ++ potRecord)

/-- The fields of a record, at the offsets that the decoder runs through. The source count in
byte 1 is read and dropped. -/
def readFields (bindingKey potRecord : Buffer) : Except Thrown PotFrame := do
  let versionTier ← potRecord.readUInt8 0
  let _ ← potRecord.readUInt8 1
  let reserved ← potRecord.readUInt8 2
  let timestamp ← potRecord.readBigUInt64BE 3
  let confidence ← potRecord.readUInt32BE 11
  pure { bindingKey := bindingKey
         potRecord := potRecord
         version := (versionTier >>> 4) &&& 0x0F
         tier := versionTier &&& 0x0F
         reserved := reserved
         timestamp := timestamp
         confidence := confidence
         nonce := potRecord.subarray 15 (15 + 32)
         grgCommit := potRecord.subarray 47 (47 + 32)
         ed25519Sig := potRecord.subarray 79 (79 + 64) }

def decodePotFrame (frame : Buffer) : Except PotThrown PotFrame :=
  if frame.length ≠ POT_FRAME_SIZE then
    .error (.potFrameError ("PoT frame must be " ++ toString POT_FRAME_SIZE ++ " bytes, got " ++
      toString frame.length))
  else
    let bindingKey := frame.subarray 0 BINDING_KEY_SIZE
    let potRecord := frame.subarray BINDING_KEY_SIZE POT_FRAME_SIZE
    (readFields bindingKey potRecord).mapError .runtime

/-- The part of a record that is signed. -/
def potRecordWithoutSig (potRecord : Buffer) : Except PotThrown Buffer :=
  if potRecord.length ≠ POT_RECORD_SIZE then
    .error (.potFrameError ("pot_record must be " ++ toString POT_RECORD_SIZE ++ " bytes"))
  else .ok (potRecord.subarray 0 POT_WITHOUT_SIG_SIZE)

/-- `validatePotFrameStructure`. -/
def validatePotFrameStructure (frame : Buffer) : Except PotThrown Unit :=
  if frame.length ≠ POT_FRAME_SIZE then
    .error (.potFrameError ("Expected " ++ toString POT_FRAME_SIZE ++ " bytes, got " ++
      toString frame.length))
  else do
    let parsed ← decodePotFrame frame
    if parsed.version ≠ 1 then
      .error (.potFrameError ("Unknown PoT version: " ++ toString parsed.version ++
        ". Expected 1."))
    else if parsed.tier > 3 then
      .error (.potFrameError ("Invalid tier: " ++ toString parsed.tier ++ ". Valid range 0-3."))
    else if parsed.reserved ≠ 0 then
      .error (.potFrameError ("Reserved field must be 0x00, got 0x" ++
        String.ofList (Nat.toDigits 16 parsed.reserved)))
    else .ok ()

/-! ## The layout of a record -/

/-- The fields of a record as they stand in it. -/
structure PotRecord where
  versionTier : UInt8
  sourceCount : UInt8
  reserved : UInt8
  timestamp : UInt64
  confidence : UInt32
  nonce : Vector UInt8 32
  grgCommit : Vector UInt8 32
  ed25519Sig : Vector UInt8 64
  deriving DecidableEq

namespace PotRecord

/-- The three bytes before the numbers. -/
def header (r : PotRecord) : Buffer := [r.versionTier, r.sourceCount, r.reserved]

/-- The part before the signature. -/
def withoutSig (r : PotRecord) : Buffer :=
  r.header ++ toBeBytes 8 r.timestamp.toNat ++ toBeBytes 4 r.confidence.toNat ++
    r.nonce.toList ++ r.grgCommit.toList

def bytes (r : PotRecord) : Buffer := r.withoutSig ++ r.ed25519Sig.toList

/-- The frame that carries a record. -/
def frame (r : PotRecord) (bindingKey : Vector UInt8 32) : PotFrame where
  bindingKey := bindingKey.toList
  potRecord := r.bytes
  version := r.versionTier.toNat / 16
  tier := r.versionTier.toNat % 16
  reserved := r.reserved.toNat
  timestamp := r.timestamp.toNat
  confidence := r.confidence.toNat
  nonce := r.nonce.toList
  grgCommit := r.grgCommit.toList
  ed25519Sig := r.ed25519Sig.toList

variable (r : PotRecord)

@[simp] theorem length_header : r.header.length = 3 := rfl

@[simp] theorem length_withoutSig : r.withoutSig.length = POT_WITHOUT_SIG_SIZE := by
  simp [withoutSig, POT_WITHOUT_SIG_SIZE]

@[simp] theorem length_bytes : r.bytes.length = POT_RECORD_SIZE := by
  simp [bytes, POT_WITHOUT_SIG_SIZE, POT_RECORD_SIZE]

/-! ### Reading the fields -/

theorem readUInt8_versionTier : Buffer.readUInt8 r.bytes 0 = .ok r.versionTier.toNat := by
  have h : r.bytes = [] ++ ([r.versionTier] ++ r.bytes.drop 1) := rfl
  exact Buffer.readUIntBE_of_eq h rfl rfl

theorem readUInt8_sourceCount : Buffer.readUInt8 r.bytes 1 = .ok r.sourceCount.toNat := by
  have h : r.bytes = [r.versionTier] ++ ([r.sourceCount] ++ r.bytes.drop 2) := rfl
  exact Buffer.readUIntBE_of_eq h rfl rfl

theorem readUInt8_reserved : Buffer.readUInt8 r.bytes 2 = .ok r.reserved.toNat := by
  have h : r.bytes = [r.versionTier, r.sourceCount] ++ ([r.reserved] ++ r.bytes.drop 3) := rfl
  exact Buffer.readUIntBE_of_eq h rfl rfl

theorem readBigUInt64BE_timestamp :
    Buffer.readBigUInt64BE r.bytes 3 = .ok r.timestamp.toNat := by
  have h : r.bytes = r.header ++ (toBeBytes 8 r.timestamp.toNat ++
      (toBeBytes 4 r.confidence.toNat ++ r.nonce.toList ++ r.grgCommit.toList ++
        r.ed25519Sig.toList)) := by
    simp [bytes, withoutSig]
  have hlt : r.timestamp.toNat < 256 ^ 8 := r.timestamp.toNat_lt
  rw [Buffer.readBigUInt64BE, Buffer.readUIntBE_of_eq h r.length_header
    (Buffer.length_toBeBytes 8 _), Buffer.beValue_toBeBytes hlt]

theorem readUInt32BE_confidence : Buffer.readUInt32BE r.bytes 11 = .ok r.confidence.toNat := by
  have h : r.bytes = (r.header ++ toBeBytes 8 r.timestamp.toNat) ++
      (toBeBytes 4 r.confidence.toNat ++ (r.nonce.toList ++ r.grgCommit.toList ++
        r.ed25519Sig.toList)) := by
    simp [bytes, withoutSig]
  have hpre : (r.header ++ toBeBytes 8 r.timestamp.toNat).length = 11 := by simp
  have hlt : r.confidence.toNat < 256 ^ 4 := r.confidence.toNat_lt
  rw [Buffer.readUInt32BE, Buffer.readUIntBE_of_eq h hpre (Buffer.length_toBeBytes 4 _),
    Buffer.beValue_toBeBytes hlt]

theorem subarray_nonce : Buffer.subarray r.bytes 15 (15 + 32) = r.nonce.toList := by
  have h : r.bytes = (r.header ++ toBeBytes 8 r.timestamp.toNat ++
      toBeBytes 4 r.confidence.toNat) ++ (r.nonce.toList ++ (r.grgCommit.toList ++
        r.ed25519Sig.toList)) := by
    simp [bytes, withoutSig]
  exact Buffer.subarray_of_eq h (by simp) (by simp)

theorem subarray_grgCommit : Buffer.subarray r.bytes 47 (47 + 32) = r.grgCommit.toList := by
  have h : r.bytes = (r.header ++ toBeBytes 8 r.timestamp.toNat ++
      toBeBytes 4 r.confidence.toNat ++ r.nonce.toList) ++ (r.grgCommit.toList ++
        r.ed25519Sig.toList) := by
    simp [bytes, withoutSig]
  exact Buffer.subarray_of_eq h (by simp) (by simp)

theorem subarray_ed25519Sig : Buffer.subarray r.bytes 79 (79 + 64) = r.ed25519Sig.toList := by
  have h : r.bytes = r.withoutSig ++ (r.ed25519Sig.toList ++ []) := by
    simp [bytes]
  exact Buffer.subarray_of_eq h r.length_withoutSig (by simp)

/-- The signed part of a record. -/
theorem potRecordWithoutSig_bytes : potRecordWithoutSig r.bytes = .ok r.withoutSig := by
  have h : r.bytes = [] ++ (r.withoutSig ++ r.ed25519Sig.toList) := rfl
  have hsub : Buffer.subarray r.bytes 0 POT_WITHOUT_SIG_SIZE = r.withoutSig :=
    Buffer.subarray_of_eq h rfl (by simp)
  rw [potRecordWithoutSig, if_neg (by simp), hsub]

/-- The nibbles of a byte. -/
theorem nibbles (b : UInt8) : (b.toNat >>> 4) &&& 0x0F = b.toNat / 16 ∧
    b.toNat &&& 0x0F = b.toNat % 16 := by
  have hmask : ∀ n : ℕ, n &&& 0x0F = n % 16 := fun n => Nat.and_two_pow_sub_one_eq_mod n 4
  have hb : b.toNat < 256 := b.toNat_lt
  rw [hmask, hmask, Nat.shiftRight_eq_div_pow]
  omega

/-- **Decoding a frame** returns the fields of its record. -/
theorem decodePotFrame_bytes (bindingKey : Vector UInt8 32) :
    decodePotFrame (bindingKey.toList ++ r.bytes) = .ok (r.frame bindingKey) := by
  have hkey : Buffer.subarray (bindingKey.toList ++ r.bytes) 0 BINDING_KEY_SIZE =
      bindingKey.toList := by
    have h : bindingKey.toList ++ r.bytes = [] ++ (bindingKey.toList ++ r.bytes) := rfl
    exact Buffer.subarray_of_eq h rfl (by simp [BINDING_KEY_SIZE])
  have hrecord : Buffer.subarray (bindingKey.toList ++ r.bytes) BINDING_KEY_SIZE POT_FRAME_SIZE =
      r.bytes := by
    have h : bindingKey.toList ++ r.bytes = bindingKey.toList ++ (r.bytes ++ []) := by simp
    exact Buffer.subarray_of_eq h (by simp [BINDING_KEY_SIZE])
      (by simp [BINDING_KEY_SIZE, POT_RECORD_SIZE, POT_FRAME_SIZE])
  have hfields : readFields bindingKey.toList r.bytes = .ok (r.frame bindingKey) := by
    rw [readFields, readUInt8_versionTier, ok_bind, readUInt8_sourceCount, ok_bind,
      readUInt8_reserved, ok_bind, readBigUInt64BE_timestamp, ok_bind, readUInt32BE_confidence,
      ok_bind, subarray_nonce, subarray_grgCommit, subarray_ed25519Sig,
      (nibbles r.versionTier).1, (nibbles r.versionTier).2]
    rfl
  rw [decodePotFrame, if_neg (by simp [POT_RECORD_SIZE, POT_FRAME_SIZE])]
  dsimp only
  rw [hkey, hrecord, hfields]
  rfl

end PotRecord

/-! ## Every frame of the right length -/

/-- Every buffer of the right length is a record. -/
theorem PotRecord.exists_record {buf : Buffer} (h : buf.length = POT_RECORD_SIZE) :
    ∃ r : PotRecord, r.bytes = buf := by
  unfold POT_RECORD_SIZE at h
  rcases buf with _ | ⟨versionTier, _ | ⟨sourceCount, _ | ⟨reserved, rest₁⟩⟩⟩
  · simp at h
  · simp at h
  · simp at h
  rw [List.length_cons, List.length_cons, List.length_cons] at h
  obtain ⟨timestamp, rest₂, rfl, h₂⟩ := Buffer.exists_vector_append 8 (by omega : 8 ≤ rest₁.length)
  obtain ⟨confidence, rest₃, rfl, h₃⟩ := Buffer.exists_vector_append 4 (by omega : 4 ≤ rest₂.length)
  obtain ⟨nonce, rest₄, rfl, h₄⟩ := Buffer.exists_vector_append 32 (by omega : 32 ≤ rest₃.length)
  obtain ⟨grgCommit, rest₅, rfl, h₅⟩ :=
    Buffer.exists_vector_append 32 (by omega : 32 ≤ rest₄.length)
  obtain ⟨sig, rest₆, rfl, h₆⟩ := Buffer.exists_vector_append 64 (by omega : 64 ≤ rest₅.length)
  have hnil : rest₆ = [] := List.length_eq_zero_iff.1 (by omega)
  have htimestamp : (UInt64.ofNat (Buffer.beValue timestamp.toList)).toNat =
      Buffer.beValue timestamp.toList := by
    have hlt := Buffer.beValue_lt timestamp.toList
    rw [Vector.length_toList] at hlt
    rw [UInt64.toNat_ofNat']
    exact Nat.mod_eq_of_lt hlt
  have hconfidence : (UInt32.ofNat (Buffer.beValue confidence.toList)).toNat =
      Buffer.beValue confidence.toList := by
    have hlt := Buffer.beValue_lt confidence.toList
    rw [Vector.length_toList] at hlt
    rw [UInt32.toNat_ofNat']
    exact Nat.mod_eq_of_lt hlt
  refine ⟨⟨versionTier, sourceCount, reserved, UInt64.ofNat (Buffer.beValue timestamp.toList),
    UInt32.ofNat (Buffer.beValue confidence.toList), nonce, grgCommit, sig⟩, ?_⟩
  rw [bytes, withoutSig, PotRecord.header]
  dsimp only
  rw [htimestamp, hconfidence, Buffer.toBeBytes_beValue_toList, Buffer.toBeBytes_beValue_toList,
    hnil]
  simp only [List.append_assoc, List.append_nil, List.cons_append, List.nil_append]

/-- **A frame decodes if and only if it has the right length**, and then it carries a record. -/
theorem exists_record_of_length {buf : Buffer} (h : buf.length = POT_FRAME_SIZE) :
    ∃ (bindingKey : Vector UInt8 32) (r : PotRecord), bindingKey.toList ++ r.bytes = buf := by
  unfold POT_FRAME_SIZE at h
  obtain ⟨bindingKey, rest, rfl, hrest⟩ :=
    Buffer.exists_vector_append 32 (by omega : 32 ≤ buf.length)
  have hlen : rest.length = POT_RECORD_SIZE := by
    rw [hrest, h]
    rfl
  obtain ⟨r, rfl⟩ := PotRecord.exists_record hlen
  exact ⟨bindingKey, r, rfl⟩

theorem decodePotFrame_eq_ok_iff {buf : Buffer} {parsed : PotFrame} :
    decodePotFrame buf = .ok parsed ↔
      ∃ (bindingKey : Vector UInt8 32) (r : PotRecord), buf = bindingKey.toList ++ r.bytes ∧
        parsed = r.frame bindingKey := by
  constructor
  · intro h
    by_cases hlen : buf.length = POT_FRAME_SIZE
    · obtain ⟨bindingKey, r, rfl⟩ := exists_record_of_length hlen
      rw [r.decodePotFrame_bytes bindingKey, Except.ok.injEq] at h
      exact ⟨bindingKey, r, rfl, h.symm⟩
    · rw [decodePotFrame, if_pos hlen] at h
      cases h
  · rintro ⟨bindingKey, r, rfl, rfl⟩
    exact r.decodePotFrame_bytes bindingKey

/-- **Encoding and decoding**: an encoded frame is decoded to the key and the record it was made
from. -/
theorem decode_encode {bindingKey potRecord frame : Buffer}
    (h : encodePotFrame bindingKey potRecord = .ok frame) : ∃ parsed,
      decodePotFrame frame = .ok parsed ∧ parsed.bindingKey = bindingKey ∧
        parsed.potRecord = potRecord := by
  unfold encodePotFrame at h
  split at h
  · cases h
  rename_i hkey
  split at h
  · cases h
  rename_i hrecord
  cases h
  obtain ⟨r, rfl⟩ := PotRecord.exists_record (not_ne_iff.1 hrecord)
  obtain ⟨key, rest, rfl, hrest⟩ := Buffer.exists_vector_append 32 (not_ne_iff.1 hkey).ge
  rw [not_ne_iff.1 hkey] at hrest
  obtain rfl := List.eq_nil_of_length_eq_zero hrest
  rw [List.append_nil]
  exact ⟨r.frame key, r.decodePotFrame_bytes key, rfl, rfl⟩

/-- The structure check on a frame that carries a record. -/
theorem PotRecord.validatePotFrameStructure_bytes (r : PotRecord) (bindingKey : Vector UInt8 32) :
    validatePotFrameStructure (bindingKey.toList ++ r.bytes) =
      if r.versionTier.toNat / 16 ≠ 1 then
        .error (.potFrameError ("Unknown PoT version: " ++ toString (r.versionTier.toNat / 16) ++
          ". Expected 1."))
      else if r.versionTier.toNat % 16 > 3 then
        .error (.potFrameError ("Invalid tier: " ++ toString (r.versionTier.toNat % 16) ++
          ". Valid range 0-3."))
      else if r.reserved.toNat ≠ 0 then
        .error (.potFrameError ("Reserved field must be 0x00, got 0x" ++
          String.ofList (Nat.toDigits 16 r.reserved.toNat)))
      else .ok () := by
  have hlen : (bindingKey.toList ++ r.bytes).length = POT_FRAME_SIZE := by
    simp [POT_RECORD_SIZE, POT_FRAME_SIZE]
  rw [validatePotFrameStructure, if_neg (not_not.2 hlen), r.decodePotFrame_bytes, ok_bind]
  rfl

/-- **The structure check** asks for version 1, a tier up to 3 and an empty reserved byte. -/
theorem PotRecord.validatePotFrameStructure_iff (r : PotRecord) (bindingKey : Vector UInt8 32) :
    validatePotFrameStructure (bindingKey.toList ++ r.bytes) = .ok () ↔
      r.versionTier.toNat / 16 = 1 ∧ r.versionTier.toNat % 16 ≤ 3 ∧ r.reserved.toNat = 0 := by
  rw [r.validatePotFrameStructure_bytes]
  constructor
  · intro h
    split at h
    · cases h
    rename_i hversion
    split at h
    · cases h
    rename_i htier
    split at h
    · cases h
    rename_i hzero
    exact ⟨not_not.1 hversion, not_lt.1 htier, not_not.1 hzero⟩
  · rintro ⟨hversion, htier, hzero⟩
    rw [if_neg (not_not.2 hversion), if_neg (not_lt.2 htier), if_neg (not_not.2 hzero)]

end OpenTTT
