import OpenTTT.Runtime.BufferWrite
import OpenTTT.Time.Types

/-!
# Proofs of time in bytes

`serializeToBinary` and `deserializeFromBinary` of `time_synthesis.ts`. The lengths of the nonce
and of the names, the number of readings and two of the numbers are single bytes. The nonce counts
its bytes; a name counts its code units, and has as much room as it has of them: of a longer one,
the next record is written over the bytes that are left.

`serializeToBinary_eq_ok` says which proofs are written and as what, and `binary_round_trip_iff`
which of them are got back. A text is read as far as the buffer goes, so it is the number behind it
that a truncated proof has no room for (`deserialize_truncated`).
-/

namespace OpenTTT

namespace TimeSynthesis

/-! ## The two functions -/

/-- The bytes that are reserved for a reading. -/
def recordSize (sig : SourceReading) : ℕ := 1 + stringLength sig.source + 8 + 4

def writeReadings : Buffer → ℕ → List SourceReading → Except Thrown Buffer
  | buf, _, [] => .ok buf
  | buf, offset, sig :: rest => do
    let buf ← buf.writeUInt8 (.ofNat (stringLength sig.source)) offset
    let offset := offset + 1
    let buf ← buf.write sig.source offset
    let offset := offset + stringLength sig.source
    let buf ← buf.writeBigUInt64BE sig.timestamp offset
    let offset := offset + 8
    let buf ← buf.writeFloatBE sig.uncertainty offset
    let offset := offset + 4
    writeReadings buf offset rest

def serializeToBinary (pot : ProofOfTime) : Except Thrown Buffer := do
  let nonceBytes := Buffer.ofUtf8 pot.nonce
  let size := 19 + 1 + nonceBytes.length + 8 + (pot.sourceReadings.map recordSize).sum
  let buf := Buffer.alloc size
  let buf ← buf.writeBigUInt64BE pot.timestamp 0
  let buf ← buf.writeFloatBE pot.uncertainty 8
  let buf ← buf.writeUInt8 pot.sources 12
  let buf ← buf.writeUInt8 pot.stratum 13
  let buf ← buf.writeFloatBE pot.confidence 14
  let buf ← buf.writeUInt8 (.ofNat pot.sourceReadings.length) 18
  let buf ← buf.writeUInt8 (.ofNat nonceBytes.length) 19
  let buf := nonceBytes.copyInto buf 20
  let offset := 20 + nonceBytes.length
  let buf ← buf.writeBigUInt64BE pot.expiresAt offset
  let offset := offset + 8
  writeReadings buf offset pot.sourceReadings

def readReadings (buf : Buffer) : ℕ → ℕ → Except Thrown (List SourceReading)
  | 0, _ => .ok []
  | count + 1, offset => do
    let nameLen ← buf.readUInt8 offset
    let offset := offset + 1
    let source := buf.utf8Text offset (offset + nameLen)
    let offset := offset + nameLen
    let ts ← buf.readBigUInt64BE offset
    let offset := offset + 8
    let unc ← buf.readFloatBE offset
    let offset := offset + 4
    let rest ← readReadings buf count offset
    .ok ({ source := source, timestamp := ts, uncertainty := unc, stratum := none } :: rest)

def deserializeFromBinary (buf : Buffer) : Except Thrown ProofOfTime := do
  let timestamp ← buf.readBigUInt64BE 0
  let uncertainty ← buf.readFloatBE 8
  let sources ← buf.readUInt8 12
  let stratum ← buf.readUInt8 13
  let confidence ← buf.readFloatBE 14
  let sigCount ← buf.readUInt8 18
  let nonceLen ← buf.readUInt8 19
  let nonce := buf.utf8Text 20 (20 + nonceLen)
  let offset := 20 + nonceLen
  let expiresAt ← buf.readBigUInt64BE offset
  let offset := offset + 8
  let sourceReadings ← readReadings buf sigCount offset
  .ok
    { timestamp := timestamp
      uncertainty := uncertainty
      sources := .ofNat sources
      stratum := .ofNat stratum
      confidence := confidence
      sourceReadings := sourceReadings
      nonce := nonce
      expiresAt := expiresAt }

/-! ## What is written -/

open Buffer

/-- The bytes of a reading. -/
def record (sig : SourceReading) : Buffer :=
  [toUint8 (.ofNat (stringLength sig.source))] ++ unitBytes sig.source ++
    toBeBytes 8 sig.timestamp.toNat ++ floatBytes sig.uncertainty

/-- The bytes of a proof, up to its readings. -/
def header (pot : ProofOfTime) : Buffer :=
  toBeBytes 8 pot.timestamp.toNat ++ floatBytes pot.uncertainty ++ [toUint8 pot.sources] ++
    [toUint8 pot.stratum] ++ floatBytes pot.confidence ++
    [toUint8 (.ofNat pot.sourceReadings.length)] ++
    [toUint8 (.ofNat (Buffer.ofUtf8 pot.nonce).length)] ++ Buffer.ofUtf8 pot.nonce ++
    toBeBytes 8 pot.expiresAt.toNat

/-- The readings that are written. -/
structure RecordFits (sig : SourceReading) : Prop where
  source : stringLength sig.source ≤ 255
  timestamp : IsUInt64 sig.timestamp

/-- The proofs that are written. -/
structure Fits (pot : ProofOfTime) : Prop where
  timestamp : IsUInt64 pot.timestamp
  sources : IsUInt8 pot.sources
  stratum : IsUInt8 pot.stratum
  count : pot.sourceReadings.length ≤ 255
  nonce : (Buffer.ofUtf8 pot.nonce).length ≤ 255
  expiresAt : IsUInt64 pot.expiresAt
  readings : ∀ sig ∈ pot.sourceReadings, RecordFits sig

section Write

variable {size offset : ℕ} {written buf buf' : Buffer}

/-- Readings that are written into a buffer with room for them fit, and fill it up with their
records. -/
theorem filled_writeReadings {readings : List SourceReading} (h : Filled size offset written buf)
    (hroom : offset + (readings.map recordSize).sum ≤ size)
    (hok : writeReadings buf offset readings = .ok buf') :
    (∀ sig ∈ readings, RecordFits sig) ∧ Filled size (offset + (readings.map recordSize).sum)
      (written ++ readings.flatMap record) buf' := by
  induction readings generalizing written buf offset with
  | nil =>
    rw [← Except.ok.inj hok]
    simpa using h
  | cons sig readings ih =>
    rw [List.map_cons, List.sum_cons, recordSize] at hroom
    simp only [writeReadings, bind_eq_ok] at hok
    obtain ⟨b₁, hok₁, b₂, hok₂, b₃, hok₃, b₄, hok₄, hok⟩ := hok
    obtain ⟨hlength, h₁⟩ := h.writeUInt8 hok₁
    have h₂ := h₁.write (by omega) hok₂
    obtain ⟨htimestamp, h₃⟩ := h₂.writeBigUInt64BE hok₃
    have h₄ := h₃.writeFloatBE hok₄
    obtain ⟨hfits, hfilled⟩ := ih h₄ (by omega) hok
    refine ⟨List.forall_mem_cons.2 ⟨⟨isUInt8_ofNat_iff.1 hlength, htimestamp⟩, hfits⟩, ?_⟩
    simpa [record, recordSize, Nat.add_assoc] using hfilled

/-- Readings that fit are written if there is room for them. -/
theorem exists_writeReadings {readings : List SourceReading} (h : Filled size offset written buf)
    (hroom : offset + (readings.map recordSize).sum ≤ size)
    (hfits : ∀ sig ∈ readings, RecordFits sig) :
    ∃ buf', writeReadings buf offset readings = .ok buf' := by
  induction readings generalizing written buf offset with
  | nil => exact ⟨buf, rfl⟩
  | cons sig readings ih =>
    rw [List.map_cons, List.sum_cons, recordSize] at hroom
    obtain ⟨⟨hlength, htimestamp⟩, hfits⟩ := List.forall_mem_cons.1 hfits
    obtain ⟨b₁, hok₁, h₁⟩ := h.exists_writeUInt8 (isUInt8_ofNat_iff.2 hlength) (by omega)
    obtain ⟨b₂, hok₂, h₂⟩ := h₁.exists_write sig.source (by omega)
    obtain ⟨b₃, hok₃, h₃⟩ := h₂.exists_writeBigUInt64BE htimestamp (by omega)
    obtain ⟨b₄, hok₄, h₄⟩ := h₃.exists_writeFloatBE sig.uncertainty (by omega)
    obtain ⟨buf', hok⟩ := ih h₄ (by omega) hfits
    refine ⟨buf', ?_⟩
    simp only [writeReadings, hok₁, hok₂, hok₃, hok₄, ok_bind]
    exact hok

end Write

/-- The bytes of a proof that fits. -/
def layout (pot : ProofOfTime) : Buffer := header pot ++ pot.sourceReadings.flatMap record

theorem fits_of_serializeToBinary {pot : ProofOfTime} {buf : Buffer}
    (h : serializeToBinary pot = .ok buf) : Fits pot ∧ buf = layout pot := by
  simp only [serializeToBinary, bind_eq_ok] at h
  obtain ⟨b₁, hok₁, b₂, hok₂, b₃, hok₃, b₄, hok₄, b₅, hok₅, b₆, hok₆, b₇, hok₇, b₉, hok₉, hok⟩ := h
  obtain ⟨htimestamp, h₁⟩ := (filled_alloc _).writeBigUInt64BE hok₁
  have h₂ := h₁.writeFloatBE hok₂
  obtain ⟨hsources, h₃⟩ := h₂.writeUInt8 hok₃
  obtain ⟨hstratum, h₄⟩ := h₃.writeUInt8 hok₄
  have h₅ := h₄.writeFloatBE hok₅
  obtain ⟨hcount, h₆⟩ := h₅.writeUInt8 hok₆
  obtain ⟨hnonce, h₇⟩ := h₆.writeUInt8 hok₇
  have h₈ := h₇.copyInto (show 20 + (ofUtf8 pot.nonce).length ≤ _ by omega)
  obtain ⟨hexpiresAt, h₉⟩ := h₈.writeBigUInt64BE hok₉
  obtain ⟨hreadings, hfilled⟩ := filled_writeReadings h₉ (by omega) hok
  refine ⟨⟨htimestamp, hsources, hstratum, isUInt8_ofNat_iff.1 hcount, isUInt8_ofNat_iff.1 hnonce,
    hexpiresAt, hreadings⟩, hfilled.eq_written⟩

/-- A proof that fits is written. -/
theorem exists_serializeToBinary {pot : ProofOfTime} (h : Fits pot) :
    ∃ buf, serializeToBinary pot = .ok buf := by
  have h₀ := filled_alloc
    (19 + 1 + (ofUtf8 pot.nonce).length + 8 + (pot.sourceReadings.map recordSize).sum)
  obtain ⟨b₁, hok₁, h₁⟩ := h₀.exists_writeBigUInt64BE h.timestamp (by omega)
  obtain ⟨b₂, hok₂, h₂⟩ := h₁.exists_writeFloatBE pot.uncertainty (by omega)
  obtain ⟨b₃, hok₃, h₃⟩ := h₂.exists_writeUInt8 h.sources (by omega)
  obtain ⟨b₄, hok₄, h₄⟩ := h₃.exists_writeUInt8 h.stratum (by omega)
  obtain ⟨b₅, hok₅, h₅⟩ := h₄.exists_writeFloatBE pot.confidence (by omega)
  obtain ⟨b₆, hok₆, h₆⟩ := h₅.exists_writeUInt8 (isUInt8_ofNat_iff.2 h.count) (by omega)
  obtain ⟨b₇, hok₇, h₇⟩ := h₆.exists_writeUInt8 (isUInt8_ofNat_iff.2 h.nonce) (by omega)
  have h₈ := h₇.copyInto (show 20 + (ofUtf8 pot.nonce).length ≤ _ by omega)
  obtain ⟨b₉, hok₉, h₉⟩ := h₈.exists_writeBigUInt64BE h.expiresAt (by omega)
  obtain ⟨buf, hok⟩ := exists_writeReadings h₉ (by omega) h.readings
  refine ⟨buf, ?_⟩
  simp only [Nat.zero_add] at hok₂ hok₃ hok₄ hok₅ hok₆ hok₇ hok₉ hok
  simp only [serializeToBinary, hok₁, hok₂, hok₃, hok₄, hok₅, hok₆, hok₇, hok₉, ok_bind]
  exact hok

/-- **What is written**: the proofs that fit, as their header and the records of their readings. -/
theorem serializeToBinary_eq_ok {pot : ProofOfTime} {buf : Buffer} :
    serializeToBinary pot = .ok buf ↔ Fits pot ∧ buf = layout pot := by
  constructor
  · exact fits_of_serializeToBinary
  · rintro ⟨hfits, rfl⟩
    obtain ⟨buf, hbuf⟩ := exists_serializeToBinary hfits
    rw [hbuf, (fits_of_serializeToBinary hbuf).2]

/-! ## What is read -/

/-- What is read of a reading. -/
def receivedReading (sig : SourceReading) : SourceReading where
  source := String.ofList (Unicode.ofUtf8 (unitBytes sig.source))
  timestamp := sig.timestamp
  uncertainty := single sig.uncertainty
  stratum := none

/-- What is read of a proof. -/
def received (pot : ProofOfTime) : ProofOfTime where
  timestamp := pot.timestamp
  uncertainty := single pot.uncertainty
  sources := .ofNat (toUint8 pot.sources).toNat
  stratum := .ofNat (toUint8 pot.stratum).toNat
  confidence := single pot.confidence
  sourceReadings := pot.sourceReadings.map receivedReading
  nonce := pot.nonce
  expiresAt := pot.expiresAt

theorem readReadings_records {buf : Buffer} {offset : ℕ} {readings : List SourceReading}
    (h : Ahead offset (readings.flatMap record) buf) (hfits : ∀ sig ∈ readings, RecordFits sig) :
    readReadings buf readings.length offset = .ok (readings.map receivedReading) := by
  induction readings generalizing offset with
  | nil => rfl
  | cons sig readings ih =>
    obtain ⟨⟨hlength, htimestamp⟩, hfits⟩ := List.forall_mem_cons.1 hfits
    rw [List.flatMap_cons, record] at h
    simp only [List.append_assoc] at h
    obtain ⟨hok₁, h₁⟩ := h.readUInt8
    have hname := h₁.utf8Text
    have h₂ := h₁.skip
    obtain ⟨hok₃, h₃⟩ := h₂.readBigUInt64BE htimestamp
    obtain ⟨hok₄, h₄⟩ := h₃.readFloatBE
    rw [toNat_toUint8_ofNat hlength] at hok₁
    rw [length_unitBytes] at hname hok₃ hok₄ h₄
    simp only [List.length_cons, readReadings, hok₁, ok_bind, hname, hok₃, hok₄, ih h₄ hfits]
    rw [Int.toNat_of_nonneg htimestamp.1]
    rfl

/-- **What is read** of a proof that fits. -/
theorem deserializeFromBinary_layout {pot : ProofOfTime} {buf : Buffer} (h : Fits pot)
    (hbuf : buf = layout pot) : deserializeFromBinary buf = .ok (received pot) := by
  rw [layout, header] at hbuf
  simp only [List.append_assoc] at hbuf
  obtain ⟨hok₁, h₁⟩ := (ahead_of_eq hbuf).readBigUInt64BE h.timestamp
  obtain ⟨hok₂, h₂⟩ := h₁.readFloatBE
  obtain ⟨hok₃, h₃⟩ := h₂.readUInt8
  obtain ⟨hok₄, h₄⟩ := h₃.readUInt8
  obtain ⟨hok₅, h₅⟩ := h₄.readFloatBE
  obtain ⟨hok₆, h₆⟩ := h₅.readUInt8
  obtain ⟨hok₇, h₇⟩ := h₆.readUInt8
  have hnonce := h₇.utf8Text
  obtain ⟨hok₉, h₉⟩ := h₇.skip.readBigUInt64BE h.expiresAt
  have hreadings := readReadings_records h₉ h.readings
  rw [toNat_toUint8_ofNat h.count] at hok₆
  rw [toNat_toUint8_ofNat h.nonce] at hok₇
  rw [ofUtf8, Unicode.ofUtf8_utf8, String.ofList_toList, ← ofUtf8] at hnonce
  simp only [Nat.zero_add] at hok₂ hok₃ hok₄ hok₅ hok₆ hok₇ hok₉ hnonce hreadings
  simp only [deserializeFromBinary, hok₁, hok₂, hok₃, hok₄, hok₅, hok₆, hok₇, hok₉, hnonce,
    hreadings, ok_bind, Int.toNat_of_nonneg h.timestamp.1, Int.toNat_of_nonneg h.expiresAt.1]
  rfl

/-- **A round trip** through the bytes of a proof. -/
theorem deserialize_of_serializeToBinary {pot : ProofOfTime} {buf : Buffer}
    (h : serializeToBinary pot = .ok buf) : deserializeFromBinary buf = .ok (received pot) := by
  obtain ⟨hfits, hbuf⟩ := fits_of_serializeToBinary h
  exact deserializeFromBinary_layout hfits hbuf

/-! ## What a round trip keeps -/

/-- The contents of a proof that are to be got back. -/
structure SameContents (pot pot' : ProofOfTime) : Prop where
  timestamp : pot'.timestamp = pot.timestamp
  sources : pot'.sources = pot.sources
  stratum : pot'.stratum = pot.stratum
  nonce : pot'.nonce = pot.nonce
  expiresAt : pot'.expiresAt = pot.expiresAt
  readings : pot'.sourceReadings.map (fun sig => (sig.source, sig.timestamp)) =
    pot.sourceReadings.map fun sig => (sig.source, sig.timestamp)

/-- The numbers of a byte. -/
def IsByte (x : Binary64) : Prop := ∃ n : ℕ, n ≤ 255 ∧ x = .finite n

/-- The names that are got back: those of one byte for each code unit. A name that is cut inside of
its last character has the replacement character there, and is right if it had it before. -/
def KeptName (source : String) : Prop :=
  ∃ ascii : List Char, (∀ c ∈ ascii, c.toNat ≤ 0x7f) ∧
    (source.toList = ascii ∨ source.toList = ascii ++ [Unicode.replacement])

theorem source_receivedReading_iff (sig : SourceReading) :
    (receivedReading sig).source = sig.source ↔ KeptName sig.source := by
  have htext : (receivedReading sig).source.toList =
      Unicode.ofUtf8 (unitBytes sig.source) := String.toList_ofList
  rw [← String.toList_inj, htext]
  exact Unicode.ofUtf8_take_utf16_iff sig.source.toList

/-- **The binary round trip.** A proof that is written is read with the same contents if and only
if its numbers of one byte are integers and its names have one byte for each code unit. -/
theorem binary_round_trip_iff {pot : ProofOfTime} {buf : Buffer}
    (h : serializeToBinary pot = .ok buf) :
    (∃ pot', deserializeFromBinary buf = .ok pot' ∧ SameContents pot pot') ↔
      IsByte pot.sources ∧ IsByte pot.stratum ∧
        ∀ sig ∈ pot.sourceReadings, KeptName sig.source := by
  have hreceived := deserialize_of_serializeToBinary h
  constructor
  · rintro ⟨pot', hpot', hsame⟩
    rw [hreceived, Except.ok.injEq] at hpot'
    subst hpot'
    obtain ⟨-, hsources, hstratum, -, -, hreadings⟩ := hsame
    refine ⟨ofNat_toUint8_iff.1 hsources, ofNat_toUint8_iff.1 hstratum, fun sig hsig => ?_⟩
    rw [received, List.map_map, List.map_inj_left] at hreadings
    have hpair := hreadings sig hsig
    simp only [Function.comp_apply, Prod.mk.injEq] at hpair
    exact (source_receivedReading_iff sig).1 hpair.1
  · rintro ⟨hsources, hstratum, hnames⟩
    refine ⟨received pot, hreceived, rfl, ofNat_toUint8_iff.2 hsources,
      ofNat_toUint8_iff.2 hstratum, rfl, rfl, ?_⟩
    rw [received, List.map_map, List.map_inj_left]
    intro sig hsig
    simp only [Function.comp_apply, Prod.mk.injEq]
    exact ⟨(source_receivedReading_iff sig).2 (hnames sig hsig), by rw [receivedReading]⟩

/-- A proof of one reading from a source of some name. -/
def namedProof (source : String) : ProofOfTime where
  timestamp := 1700000000000000000
  uncertainty := .finite 5
  sources := .finite 1
  stratum := .finite 1
  confidence := .finite 1
  sourceReadings := [⟨source, 1700000000000000000, .finite 5, some (.finite 1)⟩]
  nonce := "5f1c"
  expiresAt := 1700000060000

theorem fits_namedProof {source : String} (h : stringLength source ≤ 255) :
    Fits (namedProof source) where
  timestamp := show IsUInt64 1700000000000000000 by decide
  sources := show IsUInt8 (.finite 1) by decide
  stratum := show IsUInt8 (.finite 1) by decide
  count := show 1 ≤ 255 by decide
  nonce := show (ofUtf8 "5f1c").length ≤ 255 by decide
  expiresAt := show IsUInt64 1700000060000 by decide
  readings := List.forall_mem_singleton.2 ⟨h, show IsUInt64 1700000000000000000 by decide⟩

theorem binary_round_trip_iff_namedProof :
    ∃ buf, serializeToBinary (namedProof "nist") = .ok buf ∧
      ((∃ pot', deserializeFromBinary buf = .ok pot' ∧ SameContents (namedProof "nist") pot') ↔
        IsByte (namedProof "nist").sources ∧ IsByte (namedProof "nist").stratum ∧
          ∀ sig ∈ (namedProof "nist").sourceReadings, KeptName sig.source) := by
  obtain ⟨buf, hbuf⟩ := exists_serializeToBinary (@fits_namedProof "nist" (by decide))
  exact ⟨buf, hbuf, binary_round_trip_iff hbuf⟩

/-- Of a name with an umlaut, the last byte is lost. -/
theorem not_binary_round_trip_umlaut :
    ∃ buf, serializeToBinary (namedProof "Zürich") = .ok buf ∧
      ¬ ∃ pot', deserializeFromBinary buf = .ok pot' ∧
        SameContents (namedProof "Zürich") pot' := by
  obtain ⟨buf, hbuf⟩ := exists_serializeToBinary (@fits_namedProof "Zürich" (by decide))
  refine ⟨buf, hbuf, ?_⟩
  rintro ⟨pot', hpot', hsame⟩
  rw [deserialize_of_serializeToBinary hbuf, Except.ok.injEq] at hpot'
  subst hpot'
  have hname := congrArg (List.map Prod.fst) hsame.readings
  exact absurd hname (by decide)

/-! ## Truncated proofs -/

theorem length_record (sig : SourceReading) : (record sig).length = recordSize sig := by
  simp [record, recordSize]
  omega

/-- Readings that are read from the first part of a buffer with their records are all in that
part. -/
theorem length_le_of_readReadings {part buf : Buffer} (hpart : part <+: buf) {offset : ℕ}
    {readings rs : List SourceReading} (hahead : Ahead offset (readings.flatMap record) buf)
    (hfits : ∀ sig ∈ readings, RecordFits sig) (hoffset : offset ≤ part.length)
    (h : readReadings part readings.length offset = .ok rs) :
    offset + (readings.flatMap record).length ≤ part.length := by
  induction readings generalizing offset rs with
  | nil => exact hoffset
  | cons sig readings ih =>
    obtain ⟨⟨hlength, -⟩, hfits⟩ := List.forall_mem_cons.1 hfits
    rw [List.length_cons, readReadings] at h
    obtain ⟨nameLen, hnameLen, h⟩ := bind_eq_ok.1 h
    obtain ⟨ts, -, h⟩ := bind_eq_ok.1 h
    obtain ⟨unc, hunc, h⟩ := bind_eq_ok.1 h
    obtain ⟨rest, hrest, -⟩ := bind_eq_ok.1 h
    -- the length of the name is that of the whole buffer, and so are the offsets behind it
    have hname : nameLen = stringLength sig.source := by
      have hahead' := hahead
      rw [List.flatMap_cons, record, List.append_assoc, List.append_assoc, List.append_assoc]
        at hahead'
      have hwhole := (readUIntBE_of_isPrefix hpart hnameLen).2
      have hread := hahead'.readUInt8.1
      rw [Buffer.readUInt8, hwhole, Except.ok.injEq] at hread
      rw [hread, toNat_toUint8_ofNat hlength]
    have hskip := hahead
    rw [List.flatMap_cons] at hskip
    have hnext : offset + 1 + nameLen + 8 + 4 = offset + (record sig).length := by
      rw [length_record, recordSize, hname]
      omega
    have hroom := readFloatBE_of_isPrefix hpart hunc
    rw [hnext] at hrest hroom
    have hall := ih hskip.skip hfits hroom hrest
    rw [List.flatMap_cons, List.length_append]
    omega

theorem length_header (pot : ProofOfTime) :
    (header pot).length = 20 + (ofUtf8 pot.nonce).length + 8 := by
  simp [header]
  omega

/-- The two counts in the header. -/
theorem readUInt8_layout {pot : ProofOfTime} (h : Fits pot) :
    (layout pot).readUInt8 18 = .ok pot.sourceReadings.length ∧
      (layout pot).readUInt8 19 = .ok (ofUtf8 pot.nonce).length := by
  have hahead : Ahead 18 ([toUint8 (.ofNat pot.sourceReadings.length)] ++
      ([toUint8 (.ofNat (ofUtf8 pot.nonce).length)] ++ (ofUtf8 pot.nonce ++
        (toBeBytes 8 pot.expiresAt.toNat ++ pot.sourceReadings.flatMap record)))) (layout pot) :=
    ⟨toBeBytes 8 pot.timestamp.toNat ++ floatBytes pot.uncertainty ++ [toUint8 pot.sources] ++
      [toUint8 pot.stratum] ++ floatBytes pot.confidence, by simp, by simp [layout, header]⟩
  obtain ⟨hcount, hahead'⟩ := hahead.readUInt8
  have hnonce := hahead'.readUInt8.1
  rw [toNat_toUint8_ofNat h.count] at hcount
  rw [toNat_toUint8_ofNat h.nonce] at hnonce
  exact ⟨hcount, hnonce⟩

/-- A part of the bytes of a proof that is read as one is all of them. -/
theorem length_le_of_deserializeFromBinary {pot pot' : ProofOfTime} {part : Buffer}
    (hfits : Fits pot) (hpart : part <+: layout pot) (h : deserializeFromBinary part = .ok pot') :
    (layout pot).length ≤ part.length := by
  obtain ⟨timestamp, -, h⟩ := bind_eq_ok.1 h
  obtain ⟨uncertainty, -, h⟩ := bind_eq_ok.1 h
  obtain ⟨sources, -, h⟩ := bind_eq_ok.1 h
  obtain ⟨stratum, -, h⟩ := bind_eq_ok.1 h
  obtain ⟨confidence, -, h⟩ := bind_eq_ok.1 h
  obtain ⟨sigCount, hsigCount, h⟩ := bind_eq_ok.1 h
  obtain ⟨nonceLen, hnonceLen, h⟩ := bind_eq_ok.1 h
  obtain ⟨expiresAt, hexpiresAt, h⟩ := bind_eq_ok.1 h
  obtain ⟨readings, hreadings, -⟩ := bind_eq_ok.1 h
  obtain ⟨hcount, hnonce⟩ := readUInt8_layout hfits
  obtain rfl : pot.sourceReadings.length = sigCount :=
    Except.ok.inj (hcount.symm.trans (readUIntBE_of_isPrefix hpart hsigCount).2)
  obtain rfl : (ofUtf8 pot.nonce).length = nonceLen :=
    Except.ok.inj (hnonce.symm.trans (readUIntBE_of_isPrefix hpart hnonceLen).2)
  have hroom := (readUIntBE_of_isPrefix hpart hexpiresAt).1
  have hahead : Ahead (20 + (ofUtf8 pot.nonce).length + 8) (pot.sourceReadings.flatMap record)
      (layout pot) := ⟨header pot, length_header pot, rfl⟩
  have hall := length_le_of_readReadings hpart hahead hfits.readings hroom hreadings
  rw [layout, List.length_append, length_header]
  exact hall

/-- **Truncated proofs are rejected**: no proper part of the bytes of a proof, cut off anywhere, is
read as a proof. -/
theorem deserialize_truncated {pot : ProofOfTime} {buf : Buffer}
    (h : serializeToBinary pot = .ok buf) {n : ℕ} (hn : n < buf.length) :
    ∃ e, deserializeFromBinary (buf.take n) = .error e := by
  obtain ⟨hfits, rfl⟩ := fits_of_serializeToBinary h
  cases hread : deserializeFromBinary ((layout pot).take n) with
  | error e => exact ⟨e, rfl⟩
  | ok pot' =>
    have hlen := length_le_of_deserializeFromBinary hfits ⟨_, List.take_append_drop n _⟩ hread
    rw [List.length_take] at hlen
    omega

/-- A proof that is cut inside of its nonce. -/
theorem deserialize_truncated_namedProof :
    ∃ buf e, serializeToBinary (namedProof "nist") = .ok buf ∧
      deserializeFromBinary (buf.take 22) = .error e := by
  have hfits : Fits (namedProof "nist") := fits_namedProof (by decide)
  have hbuf := serializeToBinary_eq_ok.2 ⟨hfits, rfl⟩
  have hlen : 22 < (layout (namedProof "nist")).length := by
    rw [layout, List.length_append, length_header]
    omega
  obtain ⟨e, he⟩ := deserialize_truncated hbuf hlen
  exact ⟨_, e, hbuf, he⟩

end TimeSynthesis

end OpenTTT
