import OpenTTT.Roughtime.Validate

/-!
# Malformed responses

`validateRoughtimeResponse` promises to throw a `TTTTimeSynthesisError` on any failure. It reads the
numbers of a response, the certificate and the report at their fixed widths, and such a read throws
a `RangeError` if the value is shorter. So the promise holds exactly for the packets in which every
number that is reached is long enough: `validate_throws_own_iff`.
-/

namespace OpenTTT

/-- A call throws something else than a `TTTTimeSynthesisError`. -/
def Foreign {α : Type} (x : Except Thrown α) : Prop :=
  ∃ e, x = .error e ∧ ∀ d, e ≠ .timeSynthesisError d

variable {α β : Type}

@[simp] theorem not_foreign_ok (a : α) : ¬ Foreign (.ok a : Except Thrown α) := by
  simp [Foreign]

@[simp] theorem not_foreign_timeSynthesisError (d : TTTBaseError) :
    ¬ Foreign (.error (.timeSynthesisError d) : Except Thrown α) := by
  simp [Foreign]

@[simp] theorem foreign_rangeError : Foreign (.error .rangeError : Except Thrown α) :=
  ⟨.rangeError, rfl, by simp⟩

/-- A sequence of two steps throws something else if one of them does. -/
theorem foreign_bind {x : Except Thrown α} {f : α → Except Thrown β} :
    Foreign (x >>= f) ↔ Foreign x ∨ ∃ a, x = .ok a ∧ Foreign (f a) := by
  cases x with
  | error e => simp [bind, Except.bind, Foreign]
  | ok a => simp

theorem foreign_readUIntLE {width : ℕ} {buf : Buffer} {offset : ℕ} :
    Foreign (buf.readUIntLE width offset) ↔ buf.length < offset + width := by
  unfold Buffer.readUIntLE
  split
  · exact iff_of_false (not_foreign_ok _) (by omega)
  · exact iff_of_true foreign_rangeError (by omega)

/-- Two reads throw something else if one of the buffers is too short. -/
theorem foreign_reads {width width' : ℕ} {buf buf' : Buffer} (f : ℕ → ℕ → α) :
    Foreign (do
      let a ← buf.readUIntLE width 0
      let b ← buf'.readUIntLE width' 0
      .ok (f a b)) ↔ buf.length < width ∨ buf'.length < width' := by
  simp only [foreign_bind, foreign_readUIntLE, zero_add, not_foreign_ok, and_false, exists_false,
    or_false]
  by_cases h : buf.length < width
  · exact iff_of_true (Or.inl h) (Or.inl h)
  · rw [or_iff_right h, or_iff_right h]
    refine ⟨fun ⟨_, _, hshort⟩ => hshort, fun hshort => ⟨_, if_pos ?_, hshort⟩⟩
    omega

namespace RoughtimeSource

@[simp] theorem not_foreign_fail (sourceName reason : String) :
    ¬ Foreign (fail sourceName reason : Except Thrown α) :=
  not_foreign_timeSynthesisError _

/-! ## Numbers that are too short -/

/-- A response to the nonce whose type is too short, or which is complete but for an index that is
too short. -/
def ShortResponse (message nonce : Buffer) : Prop :=
  Holds message "NONC" nonce ∧
    ((∃ type, Holds message "TYPE" type ∧ type.length < 4) ∨
      HoldsUInt32 message "TYPE" 1 ∧
        (∃ sig path srep cert indx, Holds message "SIG" sig ∧ Holds message "PATH" path ∧
          Holds message "SREP" srep ∧ Holds message "CERT" cert ∧ Holds message "INDX" indx ∧
          indx.length < 4))

/-- A certificate that is complete but for an end of its window that is too short. -/
def ShortCertificate (message : Buffer) : Prop :=
  ∃ sig dele pubk mint maxt, Holds message "SIG" sig ∧ Holds message "DELE" dele ∧
    Holds dele "PUBK" pubk ∧ Holds dele "MINT" mint ∧ Holds dele "MAXT" maxt ∧
    (mint.length < 8 ∨ maxt.length < 8)

/-- A report that is complete but for a radius or a midpoint that is too short. -/
def ShortReport (message : Buffer) : Prop :=
  ∃ radi midp root, Holds message "RADI" radi ∧ Holds message "MIDP" midp ∧
    Holds message "ROOT" root ∧ (radi.length < 4 ∨ midp.length < 8)

/-- A signature by a raw key verifies. -/
def SignatureHolds (crypto : Crypto) (raw32 data signature : Buffer) : Prop :=
  ∃ key, rebuildEd25519PublicKey crypto raw32 = .ok key ∧
    crypto.verify data key signature = .ok true

/-- A packet has a number that is too short and is reached: in the response, in its certificate, or,
if both signatures verify, in its report. -/
def ShortNumber (crypto : Crypto) (packet serverPubkey32 nonce : Buffer) : Prop :=
  ∃ message, IsMessageOf packet message ∧
    (ShortResponse message nonce ∨
      ∃ top, IsResponse message nonce top ∧
        (ShortCertificate top.cert ∨
          ∃ cert, IsCertificate top.cert cert ∧
            SignatureHolds crypto serverPubkey32 (deleCtx ++ cert.dele) cert.sig ∧
            SignatureHolds crypto cert.pubk (srepCtx ++ top.srep) top.sig ∧
            ShortReport top.srep))

/-! ## The readers -/

/-- A message that has a value is parsed. -/
theorem exists_map_of_holds {message : Buffer} {tag : String} {value : Buffer}
    (h : Holds message tag value) : ∃ map, parseMessage message = .ok (some map) := by
  unfold Holds value? at h
  split at h
  · exact ⟨_, by assumption⟩
  · cases h

theorem holds_iff_of_parseMessage {message : Buffer} {map : InsertionMap ℕ Buffer}
    (hmap : parseMessage message = .ok (some map)) {tag : String} {value : Buffer} :
    Holds message tag value ↔ field map tag = some value := by
  simp [Holds, value?, hmap]

theorem field_of_holds {message : Buffer} {map : InsertionMap ℕ Buffer}
    (hmap : parseMessage message = .ok (some map)) {tag : String} {value : Buffer}
    (h : Holds message tag value) : field map tag = some value :=
  (holds_iff_of_parseMessage hmap).1 h

/-- What is no message has no values. -/
theorem not_holds_of_parseMessage_none {message : Buffer} (hnone : parseMessage message = .ok none)
    {tag : String} {value : Buffer} : ¬ Holds message tag value := by
  intro h
  obtain ⟨map, hmap⟩ := exists_map_of_holds h
  rw [hnone] at hmap
  cases hmap

/-- The parser does not throw. -/
theorem exists_parseMessage (message : Buffer) : ∃ map, parseMessage message = .ok map :=
  ⟨_, parseMessage_eq message⟩

/-- A packet with a message is long enough. -/
theorem IsMessageOf.length {packet message : Buffer} (h : IsMessageOf packet message) :
    12 ≤ packet.length := by
  obtain ⟨msgLen, hread, -⟩ := h
  by_contra hlen
  rw [Buffer.readUInt32LE, Buffer.readUIntLE, if_neg (by omega)] at hread
  cases hread

variable {packet message nonce : Buffer} {sourceName : String}

/-- **The reader of the response** throws something else exactly if a number is too short. -/
theorem foreign_readResponse_iff (hmessage : IsMessageOf packet message) :
    Foreign (readResponse packet nonce sourceName) ↔ ShortResponse message nonce := by
  have hlen := hmessage.length
  obtain ⟨msgLen, hread, rfl⟩ := hmessage
  unfold readResponse
  rw [if_neg (by omega), hread, ok_bind]
  obtain ⟨map, hparse⟩ := exists_parseMessage (packet.subarray 12 (12 + msgLen))
  rw [hparse, ok_bind]
  cases map with
  | none =>
    exact iff_of_false (not_foreign_fail _ _) fun h => not_holds_of_parseMessage_none hparse h.1
  | some map =>
    simp only [ShortResponse, HoldsUInt32, holds_iff_of_parseMessage hparse]
    by_cases hnonc : field map "NONC" = some nonce
    · rw [if_neg (not_not.2 hnonc), and_iff_right hnonc]
      cases htype : field map "TYPE" with
      | none => simp
      | some type =>
        simp only [foreign_bind, Buffer.readUInt32LE, foreign_readUIntLE, Option.some.injEq,
          exists_eq_left', zero_add]
        refine or_congr_right ?_
        constructor
        · rintro ⟨typeV, htypeV, h⟩
          split at h
          · exact absurd h (not_foreign_fail _ _)
          · rename_i hone
            refine ⟨not_not.1 hone ▸ htypeV, ?_⟩
            split at h
            · rename_i sig path srep cert indx hsig hpath hsrep hcert hindx
              refine ⟨sig, path, srep, cert, indx, hsig, hpath, hsrep, hcert, hindx, ?_⟩
              simpa [foreign_bind, foreign_readUIntLE] using h
            · exact absurd h (not_foreign_fail _ _)
        · rintro ⟨hone, sig, path, srep, cert, indx, hsig, hpath, hsrep, hcert, hindx, hshort⟩
          refine ⟨1, hone, ?_⟩
          rw [if_neg (not_not.2 rfl), hsig, hpath, hsrep, hcert, hindx]
          simpa [foreign_bind, foreign_readUIntLE] using hshort
    · rw [if_pos hnonc]
      exact iff_of_false (not_foreign_fail _ _) fun h => hnonc h.1

/-- Where the reader throws something else there is a message. -/
theorem exists_message_of_foreign (h : Foreign (readResponse packet nonce sourceName)) :
    ∃ message, IsMessageOf packet message := by
  unfold readResponse at h
  split at h
  · exact absurd h (not_foreign_fail _ _)
  · rename_i hlen
    exact ⟨_, _, Buffer.readUInt32LE_of_le (by omega), rfl⟩

/-- The reader returns the parts of a response. -/
theorem readResponse_of_isResponse (hmessage : IsMessageOf packet message) {top : Response}
    (h : IsResponse message nonce top) : readResponse packet nonce sourceName = .ok top := by
  have hlen := hmessage.length
  obtain ⟨map, hmap⟩ := exists_map_of_holds h.nonc
  obtain ⟨type, htype, hone⟩ := h.type
  obtain ⟨indx, hindx, hindx0⟩ := h.indx
  obtain ⟨msgLen, hread, rfl⟩ := hmessage
  unfold readResponse
  rw [if_neg (by omega), hread, ok_bind, hmap, ok_bind]
  dsimp only
  rw [if_neg (not_not.2 (field_of_holds hmap h.nonc)), field_of_holds hmap htype]
  dsimp only
  rw [hone, ok_bind, if_neg (not_not.2 rfl), field_of_holds hmap h.sig, field_of_holds hmap h.path,
    field_of_holds hmap h.srep, field_of_holds hmap h.cert, field_of_holds hmap hindx]
  dsimp only
  rw [hindx0, ok_bind]

/-- **The reader of the certificate** throws something else exactly if a number is too short. -/
theorem foreign_readCertificate_iff :
    Foreign (readCertificate message sourceName) ↔ ShortCertificate message := by
  unfold readCertificate
  obtain ⟨map, hparse⟩ := exists_parseMessage message
  rw [hparse, ok_bind]
  cases map with
  | none =>
    refine iff_of_false (not_foreign_fail _ _) ?_
    rintro ⟨sig, dele, pubk, mint, maxt, hsig, -⟩
    exact not_holds_of_parseMessage_none hparse hsig
  | some map =>
    dsimp only
    constructor
    · intro h
      split at h
      · rename_i sig dele hsig hdele
        obtain ⟨deleMap, hparseDele⟩ := exists_parseMessage dele
        rw [hparseDele, ok_bind] at h
        cases deleMap with
        | none => exact absurd h (not_foreign_fail _ _)
        | some deleMap =>
          dsimp only at h
          split at h
          · rename_i pubk mint maxt hpubk hmint hmaxt
            refine ⟨sig, dele, pubk, mint, maxt, holds_of_parseMessage hparse hsig,
              holds_of_parseMessage hparse hdele, holds_of_parseMessage hparseDele hpubk,
              holds_of_parseMessage hparseDele hmint, holds_of_parseMessage hparseDele hmaxt, ?_⟩
            exact (foreign_reads _).1 h
          · exact absurd h (not_foreign_fail _ _)
      · exact absurd h (not_foreign_fail _ _)
    · rintro ⟨sig, dele, pubk, mint, maxt, hsig, hdele, hpubk, hmint, hmaxt, hshort⟩
      obtain ⟨deleMap, hdeleMap⟩ := exists_map_of_holds hpubk
      rw [field_of_holds hparse hsig, field_of_holds hparse hdele]
      dsimp only
      rw [hdeleMap, ok_bind]
      dsimp only
      rw [field_of_holds hdeleMap hpubk, field_of_holds hdeleMap hmint,
        field_of_holds hdeleMap hmaxt]
      exact (foreign_reads _).2 hshort

/-- The reader returns the parts of a certificate. -/
theorem readCertificate_of_isCertificate {cert : Certificate} (h : IsCertificate message cert) :
    readCertificate message sourceName = .ok cert := by
  obtain ⟨map, hmap⟩ := exists_map_of_holds h.sig
  obtain ⟨deleMap, hdeleMap⟩ := exists_map_of_holds h.pubk
  obtain ⟨mint, hmint, hmintRead⟩ := h.mint
  obtain ⟨maxt, hmaxt, hmaxtRead⟩ := h.maxt
  unfold readCertificate
  rw [hmap, ok_bind]
  dsimp only
  rw [field_of_holds hmap h.sig, field_of_holds hmap h.dele]
  dsimp only
  rw [hdeleMap, ok_bind]
  dsimp only
  rw [field_of_holds hdeleMap h.pubk, field_of_holds hdeleMap hmint, field_of_holds hdeleMap hmaxt]
  dsimp only
  rw [hmintRead, ok_bind, hmaxtRead, ok_bind]

/-- **The reader of the report** throws something else exactly if a number is too short. -/
theorem foreign_readReport_iff :
    Foreign (readReport message sourceName) ↔ ShortReport message := by
  unfold readReport
  obtain ⟨map, hparse⟩ := exists_parseMessage message
  rw [hparse, ok_bind]
  cases map with
  | none =>
    refine iff_of_false (not_foreign_fail _ _) ?_
    rintro ⟨radi, midp, root, hradi, -⟩
    exact not_holds_of_parseMessage_none hparse hradi
  | some map =>
    dsimp only
    simp only [ShortReport, holds_iff_of_parseMessage hparse]
    constructor
    · intro h
      split at h
      · rename_i radi midp root hradi hmidp hroot
        exact ⟨radi, midp, root, hradi, hmidp, hroot, (foreign_reads _).1 h⟩
      · exact absurd h (not_foreign_fail _ _)
    · rintro ⟨radi, midp, root, hradi, hmidp, hroot, hshort⟩
      rw [hradi, hmidp, hroot]
      exact (foreign_reads _).2 hshort

/-! ## The validation -/

section Validation

variable {crypto : Crypto}

theorem checkSignature_eq_ok_iff {badKey invalid : String} {raw32 data signature : Buffer} :
    checkSignature crypto badKey invalid raw32 data signature sourceName = .ok () ↔
      SignatureHolds crypto raw32 data signature :=
  checkSignature_ok

theorem not_foreign_checkSignature {badKey invalid : String} {raw32 data signature : Buffer} :
    ¬ Foreign (checkSignature crypto badKey invalid raw32 data signature sourceName) := by
  unfold checkSignature
  split
  · exact not_foreign_fail _ _
  · split
    · exact not_foreign_ok _
    · exact not_foreign_fail _ _

theorem not_foreign_checkWindow {cert : Certificate} {report : Report} :
    ¬ Foreign (checkWindow cert report sourceName) := by
  unfold checkWindow
  split
  · exact not_foreign_fail _ _
  · exact not_foreign_ok _

theorem not_foreign_checkPath {request root : Buffer} {top : Response} :
    ¬ Foreign (checkPath crypto request top root sourceName) := by
  unfold checkPath
  dsimp only
  split
  · exact not_foreign_fail _ _
  · split
    · exact not_foreign_fail _ _
    · exact not_foreign_ok _

/-- The steps of the validation that can throw something else are the readers. -/
theorem foreign_validate_iff {request serverPubkey : Buffer} :
    Foreign (validateRoughtimeResponse crypto request packet serverPubkey nonce sourceName) ↔
      Foreign (readResponse packet nonce sourceName) ∨
        ∃ top, readResponse packet nonce sourceName = .ok top ∧
          (Foreign (readCertificate top.cert sourceName) ∨
            ∃ cert, readCertificate top.cert sourceName = .ok cert ∧
              SignatureHolds crypto serverPubkey (deleCtx ++ cert.dele) cert.sig ∧
              SignatureHolds crypto cert.pubk (srepCtx ++ top.srep) top.sig ∧
              Foreign (readReport top.srep sourceName)) := by
  have hunit : ∀ p : Unit → Prop, (∃ u, p u) ↔ p () := fun p =>
    ⟨fun ⟨(), h⟩ => h, fun h => ⟨(), h⟩⟩
  simp only [validateRoughtimeResponse, foreign_bind, checkCertSig, checkSrepSig,
    not_foreign_checkSignature, not_foreign_checkWindow, not_foreign_checkPath, not_foreign_ok,
    false_or, and_false, exists_false, or_false, hunit, checkSignature_eq_ok_iff]

end Validation

/-- **When the validation throws only its own error**: if and only if no number that it reaches is
too short. -/
theorem validate_throws_own_iff (crypto : Crypto)
    (requestPacket responsePacket serverPubkey32 sentNonce32 : Buffer) (sourceName : String) :
    (∀ e, validateRoughtimeResponse crypto requestPacket responsePacket serverPubkey32 sentNonce32
        sourceName = .error e → ∃ d, e = .timeSynthesisError d) ↔
      ¬ ShortNumber crypto responsePacket serverPubkey32 sentNonce32 := by
  have hforeign : (∀ e, validateRoughtimeResponse crypto requestPacket responsePacket serverPubkey32
      sentNonce32 sourceName = .error e → ∃ d, e = .timeSynthesisError d) ↔
      ¬ Foreign (validateRoughtimeResponse crypto requestPacket responsePacket serverPubkey32
        sentNonce32 sourceName) := by
    simp [Foreign]
  rw [hforeign, foreign_validate_iff, not_iff_not]
  constructor
  · rintro (h | ⟨top, htop, h⟩)
    · obtain ⟨message, hmessage⟩ := exists_message_of_foreign h
      exact ⟨message, hmessage, Or.inl ((foreign_readResponse_iff hmessage).1 h)⟩
    · obtain ⟨message, hmessage, hresponse⟩ := readResponse_ok htop
      refine ⟨message, hmessage, Or.inr ⟨top, hresponse, ?_⟩⟩
      rcases h with h | ⟨cert, hcert, hcertSig, hsrepSig, h⟩
      · exact Or.inl (foreign_readCertificate_iff.1 h)
      · exact Or.inr ⟨cert, readCertificate_ok hcert, hcertSig, hsrepSig,
          foreign_readReport_iff.1 h⟩
  · rintro ⟨message, hmessage, h | ⟨top, hresponse, h⟩⟩
    · exact Or.inl ((foreign_readResponse_iff hmessage).2 h)
    · refine Or.inr ⟨top, readResponse_of_isResponse hmessage hresponse, ?_⟩
      rcases h with h | ⟨cert, hcert, hcertSig, hsrepSig, h⟩
      · exact Or.inl (foreign_readCertificate_iff.2 h)
      · exact Or.inr ⟨cert, readCertificate_of_isCertificate hcert, hcertSig, hsrepSig,
          foreign_readReport_iff.2 h⟩

/-! ## A type that is missing its bytes -/

/-- A response to the nonce of zeros whose type is empty. -/
def emptyTypePacket : Buffer :=
  List.replicate 8 0 ++ Buffer.leBytes 4 48 ++
    (Buffer.leBytes 4 2 ++ Buffer.leBytes 4 32 ++ tagU32 "NONC" ++ tagU32 "TYPE" ++
      List.replicate 32 0)

theorem readResponse_emptyTypePacket (sourceName : String) :
    readResponse emptyTypePacket (List.replicate 32 0) sourceName = .error .rangeError := rfl

/-- The validation throws only its own error, for keys and nonces of 32 bytes. -/
def ThrowsOwn (crypto : Crypto) : Prop :=
  ∀ (requestPacket responsePacket serverPubkey32 sentNonce32 : Buffer) (sourceName : String),
    serverPubkey32.length = 32 → sentNonce32.length = 32 → ∀ e,
    validateRoughtimeResponse crypto requestPacket responsePacket serverPubkey32 sentNonce32
      sourceName = .error e → ∃ d, e = .timeSynthesisError d

/-- Whatever the cryptography is, the empty type throws a `RangeError`. -/
theorem not_throwsOwn : ¬ ∃ crypto : Crypto, ThrowsOwn crypto := by
  rintro ⟨crypto, h⟩
  have hthrown : validateRoughtimeResponse crypto [] emptyTypePacket (List.replicate 32 0)
      (List.replicate 32 0) "roughtime" = .error .rangeError := by
    rw [validateRoughtimeResponse, readResponse_emptyTypePacket]
    rfl
  obtain ⟨d, hd⟩ := h _ _ _ _ _ List.length_replicate List.length_replicate _ hthrown
  cases hd

end RoughtimeSource

end OpenTTT
