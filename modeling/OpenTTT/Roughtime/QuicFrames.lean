import OpenTTT.Roughtime.QuicBinding

/-!
# Frames of a QUIC stream

`quic_transport.rs`: the frame that carries a payload on the stream 0x74. The length of a payload
is written in four bytes, so that of a longer payload the remainder is written; `from_bytes` asks
for as many bytes as are announced and leaves what is behind them, and takes any type of a stream
and any flag.

`fromBytes_eq_some_iff` says which bytes are accepted and as which frame, and `fromBytes_new` what
becomes of a payload that is sent: it comes back unless it is too long for its length
(`fromBytes_new_iff`). Frames sent in a row are told apart, `payloads_of_stream`. With a record that
is bound to a session as payload, `accepted_iff` says that what a receiver accepts was built with
the secret of the session.
-/

namespace OpenTTT

namespace Roughtime

def POT_QUIC_STREAM_TYPE : UInt8 := 0x74

structure PotQuicFrame where
  streamType : UInt8
  payloadLen : BitVec 32
  rFlag : Bool
  payload : List UInt8
  deriving DecidableEq

namespace PotQuicFrame

def new (payload : List UInt8) (rFlag : Bool) : PotQuicFrame where
  streamType := POT_QUIC_STREAM_TYPE
  payloadLen := BitVec.ofNat 32 payload.length
  rFlag
  payload

def toBytes (self : PotQuicFrame) : List UInt8 :=
  self.streamType :: (toBeBytes 4 self.payloadLen.toNat ++
    (if self.rFlag then 0x01 else 0x00) :: self.payload)

def fromBytes (bytes : List UInt8) : Option PotQuicFrame :=
  if bytes.length < 6 then none
  else
    let streamType := bytes.getD 0 0
    let payloadLen := Buffer.beValue (Buffer.subarray bytes 1 5)
    let rFlag := bytes.getD 5 0 == 0x01
    if bytes.length < 6 + payloadLen then none
    else some
      { streamType
        payloadLen := BitVec.ofNat 32 payloadLen
        rFlag
        payload := Buffer.subarray bytes 6 (6 + payloadLen) }

/-! ## What is accepted -/

/-- The bytes of a header of six, and those behind it. -/
theorem exists_header {bytes : List UInt8} (h : 6 ≤ bytes.length) :
    ∃ streamType len flag tail, len.length = 4 ∧ bytes = streamType :: (len ++ flag :: tail) := by
  obtain ⟨head, rest, rfl, -⟩ := Buffer.exists_vector_append 1 (by omega : 1 ≤ bytes.length)
  rw [List.length_append, Vector.length_toList] at h
  obtain ⟨len, rest, rfl, -⟩ := Buffer.exists_vector_append 4 (by omega : 4 ≤ rest.length)
  rw [List.length_append, Vector.length_toList] at h
  have hlen : head.toList.length = 1 := Vector.length_toList
  obtain ⟨streamType, hhead⟩ := List.length_eq_one_iff.1 hlen
  cases rest with
  | nil => exact absurd h (by simp)
  | cons flag tail =>
    exact ⟨streamType, len.toList, flag, tail, Vector.length_toList, by rw [hhead]; rfl⟩

/-- What is read from a header and what is behind it. -/
theorem fromBytes_header (streamType flag : UInt8) {len : List UInt8} (hlen : len.length = 4)
    (tail : List UInt8) :
    fromBytes (streamType :: (len ++ flag :: tail)) =
      if tail.length < Buffer.beValue len then none
      else some ⟨streamType, BitVec.ofNat 32 (Buffer.beValue len), flag == 0x01,
        tail.take (Buffer.beValue len)⟩ := by
  have htotal : (streamType :: (len ++ flag :: tail)).length = 6 + tail.length := by
    simp only [List.length_cons, List.length_append, hlen]
    omega
  have hread : Buffer.subarray (streamType :: (len ++ flag :: tail)) 1 5 = len := by
    have hsplit : streamType :: (len ++ flag :: tail) = [streamType] ++ (len ++ flag :: tail) := rfl
    exact Buffer.subarray_of_eq hsplit rfl (by rw [hlen])
  have hflag : (streamType :: (len ++ flag :: tail)).getD 5 0 = flag := by
    rw [List.getD_cons_succ, List.getD_append_right _ _ _ _ (by omega), hlen]
    rfl
  have hpayload (n : ℕ) (hn : n ≤ tail.length) :
      Buffer.subarray (streamType :: (len ++ flag :: tail)) 6 (6 + n) = tail.take n := by
    have hsplit : streamType :: (len ++ flag :: tail) =
        (streamType :: (len ++ [flag])) ++ (tail.take n ++ tail.drop n) := by
      rw [List.take_append_drop]
      simp
    refine Buffer.subarray_of_eq hsplit ?_ ?_
    · simp [hlen]
    · rw [List.length_take_of_le hn]
  rw [fromBytes, htotal, if_neg (by omega)]
  simp only [hread, hflag, List.getD_cons_zero]
  by_cases hshort : tail.length < Buffer.beValue len
  · rw [if_pos hshort, if_pos (by omega)]
  · rw [if_neg hshort, if_neg (by omega), hpayload _ (by omega)]

/-- The length in a header is that of an `u32`. -/
theorem beValue_lt_of_length {len : List UInt8} (hlen : len.length = 4) :
    Buffer.beValue len < 2 ^ 32 := by
  have h := Buffer.beValue_lt len
  rw [hlen] at h
  omega

/-- **What is accepted**: a header, as many bytes as it announces, and anything behind them. -/
theorem fromBytes_eq_some_iff {bytes : List UInt8} {frame : PotQuicFrame} :
    fromBytes bytes = some frame ↔
      frame.payload.length = frame.payloadLen.toNat ∧
        ∃ flag rest, (frame.rFlag = true ↔ flag = 0x01) ∧
          bytes = frame.streamType :: (toBeBytes 4 frame.payloadLen.toNat ++
            flag :: (frame.payload ++ rest)) := by
  constructor
  · intro h
    have hsix : 6 ≤ bytes.length := by
      by_contra hshort
      rw [fromBytes, if_pos (not_le.1 hshort)] at h
      cases h
    obtain ⟨streamType, len, flag, tail, hlen, rfl⟩ := exists_header hsix
    rw [fromBytes_header streamType flag hlen] at h
    split at h
    · cases h
    · rename_i hle
      cases h
      have hvalue : (BitVec.ofNat 32 (Buffer.beValue len)).toNat = Buffer.beValue len := by
        rw [BitVec.toNat_ofNat, Nat.mod_eq_of_lt (beValue_lt_of_length hlen)]
      refine ⟨?_, flag, tail.drop (Buffer.beValue len), beq_iff_eq, ?_⟩
      · rw [hvalue, List.length_take_of_le (not_lt.1 hle)]
      · have hbytes := Buffer.toBeBytes_beValue len
        rw [hlen] at hbytes
        rw [hvalue, hbytes, List.take_append_drop]
  · rintro ⟨hpayload, flag, rest, hflag, rfl⟩
    have hvalue : Buffer.beValue (toBeBytes 4 frame.payloadLen.toNat) = frame.payloadLen.toNat :=
      Buffer.beValue_toBeBytes frame.payloadLen.isLt
    have hread : (flag == 0x01) = frame.rFlag := by
      rw [Bool.eq_iff_iff, beq_iff_eq, hflag]
    rw [fromBytes_header _ _ (Buffer.length_toBeBytes 4 _), hvalue,
      if_neg (by rw [List.length_append]; omega), List.take_left' hpayload, hread,
      BitVec.ofNat_toNat, BitVec.setWidth_eq]

/-! ## What is sent -/

@[simp] theorem toNat_payloadLen_new (payload : List UInt8) (rFlag : Bool) :
    (new payload rFlag).payloadLen.toNat = payload.length % 2 ^ 32 :=
  BitVec.toNat_ofNat _ _

/-- **What becomes of a payload**: as much of it comes back as its length modulo 2³², whatever is
behind the frame. -/
theorem fromBytes_new (payload : List UInt8) (rFlag : Bool) (rest : List UInt8) :
    fromBytes ((new payload rFlag).toBytes ++ rest) =
      some { new payload rFlag with payload := payload.take (payload.length % 2 ^ 32) } := by
  rw [fromBytes_eq_some_iff]
  refine ⟨?_, if rFlag then 0x01 else 0x00, payload.drop (payload.length % 2 ^ 32) ++ rest, ?_, ?_⟩
  · rw [List.length_take_of_le (Nat.mod_le _ _), toNat_payloadLen_new]
  · cases rFlag <;> simp [new]
  · rw [← List.append_assoc (payload.take _), List.take_append_drop]
    simp only [toBytes, List.cons_append, List.append_assoc]
    rfl

/-- A frame comes back if the length of its payload fits into four bytes, and only then. -/
theorem fromBytes_new_iff (payload : List UInt8) (rFlag : Bool) (rest : List UInt8) :
    fromBytes ((new payload rFlag).toBytes ++ rest) = some (new payload rFlag) ↔
      payload.length < 2 ^ 32 := by
  rw [fromBytes_new, Option.some.injEq, PotQuicFrame.mk.injEq]
  constructor
  · rintro ⟨-, -, -, htake⟩
    have hlen := congrArg List.length htake
    rw [List.length_take_of_le (Nat.mod_le _ _)] at hlen
    exact hlen ▸ Nat.mod_lt _ (by omega)
  · intro h
    exact ⟨rfl, rfl, rfl, by rw [Nat.mod_eq_of_lt h, List.take_length]; rfl⟩

/-- A frame says where it ends. -/
theorem selfDelimiting_new :
    SelfDelimiting {sent : List UInt8 × Bool | sent.1.length < 2 ^ 32} (· = ·)
      fun sent => (new sent.1 sent.2).toBytes := by
  intro a ha b hb s t h
  have hread := congrArg fromBytes h
  dsimp only at hread
  rw [(fromBytes_new_iff a.1 a.2 s).2 ha, (fromBytes_new_iff b.1 b.2 t).2 hb,
    Option.some.injEq] at hread
  have hab : a = b := Prod.ext (congrArg payload hread) (congrArg rFlag hread)
  subst hab
  exact ⟨rfl, List.append_cancel_left h⟩

/-- What is on a stream after payloads were sent, each with its flag. -/
def stream (sent : List (List UInt8 × Bool)) : List UInt8 :=
  sent.flatMap fun s => (new s.1 s.2).toBytes

/-- **Frames in a row**: what is on a stream determines the payloads that were sent, their flags and
their number, if each is short enough for its length. -/
theorem payloads_of_stream : Set.InjOn stream {sent | ∀ s ∈ sent, s.1.length < 2 ^ 32} := by
  intro sent hsent sent' hsent' h
  have hforall := selfDelimiting_new.forall₂_of_flatMap (by simp [toBytes]) hsent hsent' h
  rwa [List.forall₂_eq_eq_eq] at hforall

end PotQuicFrame

/-! ## Records that are bound to a session -/

namespace PotFrameExtended

/-- What is accepted is what is written. -/
theorem toBytes_of_fromBytes {bytes : List UInt8} {frame : PotFrameExtended}
    (h : fromBytes bytes = some frame) : frame.toBytes = bytes := by
  have hlen : BINDING_KEY_LEN ≤ bytes.length := by
    by_contra hshort
    rw [fromBytes, if_pos (not_le.1 hshort)] at h
    cases h
  obtain ⟨key, record, rfl, -⟩ := Buffer.exists_vector_append 32 hlen
  have hback := fromBytes_toBytes ⟨key, record⟩
  rw [toBytes] at hback
  rw [hback, Option.some.injEq] at h
  rw [← h, toBytes]

/-- A frame that verifies was built with the secret. -/
theorem eq_build_of_verify {hmac : Mac} {frame : PotFrameExtended} {secret : List UInt8}
    (h : frame.verify hmac secret = true) : frame = build hmac secret frame.potRecord := by
  rw [build, verify_iff.1 h]

end PotFrameExtended

/-- **What a receiver accepts.** Bytes of a stream are read as a frame whose payload is read as a
bound record that verifies under a secret, exactly if they begin with a frame, of any type of stream
and any flag, around what a sender with the secret builds of the record. -/
theorem accepted_iff (hmac : Mac) (secret bytes record : List UInt8) (rFlag : Bool) :
    (∃ quic frame, PotQuicFrame.fromBytes bytes = some quic ∧ quic.rFlag = rFlag ∧
        PotFrameExtended.fromBytes quic.payload = some frame ∧
        frame.verify hmac secret = true ∧ frame.potRecord = record) ↔
      32 + record.length < 2 ^ 32 ∧
        ∃ streamType flag rest, (rFlag = true ↔ flag = 0x01) ∧
          bytes = streamType :: (toBeBytes 4 (32 + record.length) ++
            flag :: ((PotFrameExtended.build hmac secret record).toBytes ++ rest)) := by
  have hlength : (PotFrameExtended.build hmac secret record).toBytes.length =
      32 + record.length := by
    rw [PotFrameExtended.toBytes, List.length_append, Vector.length_toList]
    rfl
  constructor
  · rintro ⟨quic, frame, hquic, rfl, hframe, hverify, rfl⟩
    obtain ⟨hpayload, flag, rest, hflag, rfl⟩ := PotQuicFrame.fromBytes_eq_some_iff.1 hquic
    have hbuild : quic.payload =
        (PotFrameExtended.build hmac secret frame.potRecord).toBytes := by
      rw [← PotFrameExtended.toBytes_of_fromBytes hframe,
        ← PotFrameExtended.eq_build_of_verify hverify]
    rw [hbuild, hlength] at hpayload
    refine ⟨hpayload ▸ quic.payloadLen.isLt, quic.streamType, flag, rest, hflag, ?_⟩
    rw [hpayload, hbuild]
  · rintro ⟨hfits, streamType, flag, rest, hflag, rfl⟩
    have hlen : (BitVec.ofNat 32 (32 + record.length)).toNat = 32 + record.length := by
      rw [BitVec.toNat_ofNat, Nat.mod_eq_of_lt hfits]
    refine ⟨⟨streamType, BitVec.ofNat 32 (32 + record.length), rFlag,
        (PotFrameExtended.build hmac secret record).toBytes⟩,
      PotFrameExtended.build hmac secret record, ?_, rfl, PotFrameExtended.fromBytes_toBytes _,
      PotFrameExtended.verify_build _ _, rfl⟩
    rw [PotQuicFrame.fromBytes_eq_some_iff]
    refine ⟨by rw [hlength, hlen], flag, rest, hflag, by rw [hlen]⟩

end Roughtime

end OpenTTT
