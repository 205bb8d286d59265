import OpenTTT.Pot.Verifier
import OpenTTT.Roughtime.QuicBinding

/-!
# Readers of extended frames

A frame with a binding key is read in three places: by `decodePotFrame` of `pot_frame.ts`, by
`parse_extended_pot_frame` of `wire.rs` and by `PotFrameExtended::from_bytes` of
`quic_transport.rs`. The first asks for 175 bytes, the second for as many at least, of which it
takes 175, and the last for a key only. `build_extended_pot_frame` fills a short record with zeros
and leaves a long one as it is.

`frameReaders_agree_iff` says that the three see the same key and the same record in 175 bytes and
in nothing else. Whether the record is bound to a session is asked on both sides, in TypeScript of
the exporter of the TLS stack and in Rust of an HMAC that stands for it: the verdicts are the same
for all frames if and only if the exporter is that HMAC, for the label and the length of the binding
and for every record.
-/

namespace OpenTTT

namespace Roughtime

/-- `parse_extended_pot_frame`. -/
def parseExtendedPotFrame (bytes : List UInt8) : Option (Vector UInt8 32 × List UInt8) :=
  if bytes.length < 175 then none
  else some (Vector.ofFn fun i => bytes.getD i 0, Buffer.subarray bytes 32 175)

/-- `build_extended_pot_frame`. -/
def buildExtendedPotFrame (bindingKey : Vector UInt8 32) (potRecord : List UInt8) : List UInt8 :=
  let buf := bindingKey.toList ++ potRecord
  if buf.length < 175 then buf ++ List.replicate (175 - buf.length) 0 else buf

/-- The key at the front of a buffer. -/
theorem ofFn_getD_append (key : Vector UInt8 32) (rest : List UInt8) :
    (Vector.ofFn fun i : Fin 32 => (key.toList ++ rest).getD i 0) = key := by
  ext i hi
  have hi' : i < key.toList.length := by rwa [Vector.length_toList]
  rw [Vector.getElem_ofFn, List.getD_append _ _ _ _ hi', List.getD_eq_getElem _ _ hi',
    Vector.getElem_toList]

theorem parseExtendedPotFrame_append (key : Vector UInt8 32) {record : List UInt8}
    (h : 143 ≤ record.length) :
    parseExtendedPotFrame (key.toList ++ record) = some (key, record.take 143) := by
  have hsplit : key.toList ++ record = key.toList ++ (record.take 143 ++ record.drop 143) := by
    rw [List.take_append_drop]
  have hrecord : Buffer.subarray (key.toList ++ record) 32 175 = record.take 143 :=
    Buffer.subarray_of_eq hsplit Vector.length_toList (by rw [List.length_take_of_le h])
  have hlength : (key.toList ++ record).length = 32 + record.length := by
    rw [List.length_append, Vector.length_toList]
  rw [parseExtendedPotFrame, if_neg (by omega), ofFn_getD_append, hrecord]

/-- **What is built is read** with the record cut to its size, or filled up to it. -/
theorem parse_build (key : Vector UInt8 32) (record : List UInt8) :
    parseExtendedPotFrame (buildExtendedPotFrame key record) =
      some (key, (record ++ List.replicate (143 - record.length) 0).take 143) := by
  have hlength : (key.toList ++ record).length = 32 + record.length := by
    rw [List.length_append, Vector.length_toList]
  unfold buildExtendedPotFrame
  dsimp only
  split
  · have hfill : 175 - (key.toList ++ record).length = 143 - record.length := by omega
    rw [hfill, List.append_assoc]
    refine parseExtendedPotFrame_append key ?_
    rw [List.length_append, List.length_replicate]
    omega
  · rw [parseExtendedPotFrame_append key (by omega), Nat.sub_eq_zero_of_le (by omega : 143 ≤ _),
      List.replicate_zero, List.append_nil]

/-- A record is read back as it is if it has its size, and only then. -/
theorem parse_build_iff (key : Vector UInt8 32) (record : List UInt8) :
    parseExtendedPotFrame (buildExtendedPotFrame key record) = some (key, record) ↔
      record.length = 143 := by
  rw [parse_build, Option.some.injEq, Prod.mk.injEq]
  constructor
  · rintro ⟨-, htake⟩
    have hlen := congrArg List.length htake
    rw [List.length_take_of_le (by simp only [List.length_append, List.length_replicate]; omega)]
      at hlen
    exact hlen.symm
  · intro h
    rw [h, Nat.sub_self, List.replicate_zero, List.append_nil, List.take_of_length_le h.le]
    exact ⟨rfl, rfl⟩

/-! ## The readers on the same bytes -/

/-- A frame of 175 bytes for the readers of `roughtime`. -/
theorem read_frame (key : Vector UInt8 32) (r : PotRecord) :
    parseExtendedPotFrame (key.toList ++ r.bytes) = some (key, r.bytes) ∧
      PotFrameExtended.fromBytes (key.toList ++ r.bytes) = some ⟨key, r.bytes⟩ := by
  have hlen : r.bytes.length = 143 := r.length_bytes
  constructor
  · rw [parseExtendedPotFrame_append key hlen.ge, List.take_of_length_le hlen.le]
  · exact PotFrameExtended.fromBytes_toBytes ⟨key, r.bytes⟩

/-- What is bound of a record of the right size is the same on both sides. -/
theorem withoutSig_bytes (r : PotRecord) : withoutSig r.bytes = r.withoutSig := by
  rw [PotRecord.bytes]
  exact withoutSig_append Vector.length_toList

/-- What a TLS session exports, for a length, a label and a context. -/
abbrev Exporter := ℕ → String → Buffer → Buffer

/-- The socket of a session. -/
def sessionSocket (exporter : Exporter) : TLSSocket where
  encrypted := true
  exportKeyingMaterial length label context := .ok (exporter length label context)

/-- The verdict of `tls_binding.ts` on a key in a session. -/
theorem verifyBindingKey_sessionSocket (exporter : Exporter) (context : List UInt8)
    (key : Vector UInt8 32) :
    OpenTTT.verifyBindingKey (sessionSocket exporter) context key.toList =
      .ok (decide (exporter TTTPS_BINDING_KEY_LENGTH TTTPS_EXPORTER_LABEL context =
        key.toList)) := by
  have hexport : computeBindingKey (sessionSocket exporter) context =
      .ok (exporter TTTPS_BINDING_KEY_LENGTH TTTPS_EXPORTER_LABEL context) := rfl
  have hlen : key.toList.length = TTTPS_BINDING_KEY_LENGTH := Vector.length_toList
  rw [OpenTTT.verifyBindingKey, if_neg (not_not.2 hlen), hexport, ok_bind, sameBytes]
  split
  · rename_i hlength
    have hne : exporter TTTPS_BINDING_KEY_LENGTH TTTPS_EXPORTER_LABEL context ≠ key.toList :=
      fun heq => hlength (congrArg List.length heq)
    rw [decide_eq_false hne]
  · rfl

/-- The verdict of `quic_transport.rs`. -/
theorem verify_record (hmac : Mac) (secret : List UInt8) (key : Vector UInt8 32) (r : PotRecord) :
    PotFrameExtended.verify hmac ⟨key, r.bytes⟩ secret =
      decide ((deriveBindingKey hmac secret r.withoutSig).toList = key.toList) := by
  rw [Bool.eq_iff_iff, PotFrameExtended.verify_iff, withoutSig_bytes, decide_eq_true_iff,
    Vector.toList_inj]

/-- What the readers see in one frame is the same key and the same record. -/
def SameFrame (bytes : List UInt8) (frame : PotFrame) (extended : PotFrameExtended) : Prop :=
  decodePotFrame bytes = .ok frame ∧ PotFrameExtended.fromBytes bytes = some extended ∧
    parseExtendedPotFrame bytes = some (extended.bindingKey, extended.potRecord) ∧
    frame.bindingKey = extended.bindingKey.toList ∧ frame.potRecord = extended.potRecord

/-- The verdict on a frame is the same in a session with an exporter and in one with a secret. -/
def SameVerdict (exporter : Exporter) (hmac : Mac) (secret : List UInt8) (frame : PotFrame)
    (extended : PotFrameExtended) : Prop :=
  ∃ potWithoutSig, potRecordWithoutSig frame.potRecord = .ok potWithoutSig ∧
    OpenTTT.verifyBindingKey (sessionSocket exporter) potWithoutSig frame.bindingKey =
      .ok (extended.verify hmac secret)

theorem sameFrame_record (key : Vector UInt8 32) (r : PotRecord) :
    SameFrame (key.toList ++ r.bytes) (r.frame key) ⟨key, r.bytes⟩ :=
  ⟨r.decodePotFrame_bytes key, (read_frame key r).2, (read_frame key r).1, rfl, rfl⟩

theorem SameFrame.eq {bytes : List UInt8} {frame frame' : PotFrame}
    {extended extended' : PotFrameExtended} (h : SameFrame bytes frame extended)
    (h' : SameFrame bytes frame' extended') : frame' = frame ∧ extended' = extended :=
  ⟨Except.ok.inj (h'.1.symm.trans h.1), Option.some.inj (h'.2.1.symm.trans h.2.1)⟩

theorem SameFrame.length_eq {bytes : List UInt8} {frame : PotFrame} {extended : PotFrameExtended}
    (h : SameFrame bytes frame extended) : bytes.length = 175 := by
  by_contra hlen
  have hne : bytes.length ≠ POT_FRAME_SIZE := hlen
  have hdecode := h.1
  rw [decodePotFrame, if_pos hne] at hdecode
  cases hdecode

theorem sameVerdict_record_iff {exporter : Exporter} {hmac : Mac} {secret : List UInt8}
    {key : Vector UInt8 32} {r : PotRecord} :
    SameVerdict exporter hmac secret (r.frame key) ⟨key, r.bytes⟩ ↔
      (exporter TTTPS_BINDING_KEY_LENGTH TTTPS_EXPORTER_LABEL r.withoutSig = key.toList ↔
        (deriveBindingKey hmac secret r.withoutSig).toList = key.toList) := by
  have hts := verifyBindingKey_sessionSocket exporter r.withoutSig key
  have hrecord : potRecordWithoutSig (r.frame key).potRecord = .ok r.withoutSig :=
    r.potRecordWithoutSig_bytes
  rw [SameVerdict, hrecord, verify_record]
  constructor
  · rintro ⟨potWithoutSig, hsame, hverdict⟩
    cases hsame
    exact decide_eq_decide.1 (Except.ok.inj (hts.symm.trans hverdict))
  · intro h
    exact ⟨r.withoutSig, rfl, hts.trans (congrArg Except.ok (decide_eq_decide.2 h))⟩

/-- Every context of the right size is that of a record. -/
theorem exists_record_of_context {context : List UInt8} (h : context.length = 79) :
    ∃ r : PotRecord, r.withoutSig = context := by
  have hlen : ((Vector.replicate 32 (0 : UInt8)).toList ++
      (context ++ List.replicate 64 0)).length = 175 := by simp [h]
  obtain ⟨key, r, heq⟩ := exists_record_of_length hlen
  have hbytes : r.bytes = context ++ List.replicate 64 0 :=
    List.append_inj_right heq (by rw [Vector.length_toList, Vector.length_toList])
  refine ⟨r, ?_⟩
  rw [← withoutSig_bytes, hbytes]
  exact withoutSig_append List.length_replicate

/-- **When the readers agree**: on the key and the record in the bytes of a frame and in no others;
and on whether they are bound, for all frames of a session, if and only if the exporter of the
session is the HMAC of its secret. -/
theorem frameReaders_agree_iff (exporter : Exporter) (hmac : Mac) (secret : List UInt8) :
    (∀ bytes : List UInt8, (∃ frame extended, SameFrame bytes frame extended) ↔
      bytes.length = 175) ∧
    ((∀ bytes frame extended, SameFrame bytes frame extended →
        SameVerdict exporter hmac secret frame extended) ↔
      ∀ context : List UInt8, context.length = 79 →
        exporter 32 "EXPORTER-tttps-pot-binding" context =
          (deriveBindingKey hmac secret context).toList) := by
  refine ⟨fun bytes => ⟨fun ⟨_, _, h⟩ => h.length_eq, fun hlen => ?_⟩, fun h context hcontext => ?_,
    fun h bytes frame extended hsame => ?_⟩
  · obtain ⟨key, r, rfl⟩ := exists_record_of_length hlen
    exact ⟨_, _, sameFrame_record key r⟩
  · -- the frame with the key that the secret gives the record
    obtain ⟨r, rfl⟩ := exists_record_of_context hcontext
    have hverdict := h _ _ _
      (sameFrame_record (deriveBindingKey hmac secret r.withoutSig) r)
    exact (sameVerdict_record_iff.1 hverdict).2 rfl
  · obtain ⟨key, r, rfl⟩ := exists_record_of_length hsame.length_eq
    obtain ⟨rfl, rfl⟩ := (sameFrame_record key r).eq hsame
    have hexport : exporter TTTPS_BINDING_KEY_LENGTH TTTPS_EXPORTER_LABEL r.withoutSig =
        (deriveBindingKey hmac secret r.withoutSig).toList := h _ r.length_withoutSig
    rw [sameVerdict_record_iff, hexport]

/-- The exporter that `derive_binding_key` stands for, with any label and length. -/
def hmacExporter (hmac : Mac) (secret : List UInt8) : Exporter := fun length label context =>
  (hmac secret (Buffer.ofAscii label ++ [0x00] ++ toBeBytes 4 (context.length % 2 ^ 32) ++
    context)).toList.take length

/-- The verdicts are the same for it. -/
example (hmac : Mac) (secret : List UInt8) :
    ∀ bytes frame extended, SameFrame bytes frame extended →
      SameVerdict (hmacExporter hmac secret) hmac secret frame extended := by
  intro bytes frame extended h
  obtain ⟨key, r, rfl⟩ := exists_record_of_length h.length_eq
  obtain ⟨rfl, rfl⟩ := (sameFrame_record key r).eq h
  have hexport : hmacExporter hmac secret TTTPS_BINDING_KEY_LENGTH TTTPS_EXPORTER_LABEL
      r.withoutSig = (deriveBindingKey hmac secret r.withoutSig).toList :=
    List.take_of_length_le Vector.length_toList.le
  rw [sameVerdict_record_iff, hexport]

end Roughtime

end OpenTTT
