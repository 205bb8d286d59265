import OpenTTT.Roughtime.Messages
import Mathlib.Data.Int.ModEq

/-!
# Validation of a Roughtime response

`validateRoughtimeResponse` of `roughtime_source.ts`, with its checks in their order: the parts of
the response, the certificate in it, the signature of the long-term key over the delegation, the
signature of the delegated key over the report, the report, the window of the delegated key, and
the Merkle path from the request to the root. Every check that fails throws the same error, with a
reason of its own.

What the code uses of the `crypto` module is a parameter. `validate_ok` says what a validated
response satisfies, check by check.
-/

namespace OpenTTT.RoughtimeSource

/-- What the code uses of the `crypto` module. -/
structure Crypto where
  KeyObject : Type
  sha512 : Buffer → Vector UInt8 64
  /-- The key object of a public key in DER, or the message of the error that is thrown. -/
  createPublicKey : Buffer → Except String KeyObject
  /-- `crypto.verify(null, data, key, signature)`. -/
  verify : Buffer → KeyObject → Buffer → Except Thrown Bool

structure RoughtimeValidatedResponse where
  midpSeconds : ℕ
  radiSeconds : ℕ
  deriving DecidableEq

/-- The parts of a response. -/
structure Response where
  sig : Buffer
  path : Buffer
  srep : Buffer
  cert : Buffer
  indx : ℕ
  deriving DecidableEq

/-- The parts of a certificate and of the delegation in it. -/
structure Certificate where
  sig : Buffer
  dele : Buffer
  pubk : Buffer
  mint : ℕ
  maxt : ℕ
  deriving DecidableEq

/-- The parts of a report. -/
structure Report where
  radi : ℕ
  midp : ℕ
  root : Buffer
  deriving DecidableEq

/-- The closure `fail`. -/
def fail {α : Type} (sourceName reason : String) : Except Thrown α :=
  .error (.timeSynthesisError (.ofMessage ("Roughtime validation failed for " ++ sourceName) reason
    ("Verify the server is a genuine Roughtime peer and the configured long-term public key is " ++
      "current (check ecosystem.json).")))

/-! ## Reading the messages -/

/-- The parts of the response, which has to answer the nonce. -/
def readResponse (responsePacket sentNonce32 : Buffer) (sourceName : String) :
    Except Thrown Response :=
  if responsePacket.length < 12 then fail sourceName "packet too short (<12 bytes)"
  else do
    let msgLen ← responsePacket.readUInt32LE 8
    match ← parseMessage (responsePacket.subarray 12 (12 + msgLen)) with
    | none => fail sourceName "bad top-level message (malformed TLV)"
    | some top =>
      if field top "NONC" ≠ some sentNonce32 then
        fail sourceName "NONC mismatch (response does not match our request)"
      else
        match field top "TYPE" with
        | none => fail sourceName "missing TYPE"
        | some typeBuf => do
          let typeV ← typeBuf.readUInt32LE 0
          if typeV ≠ 1 then fail sourceName ("TYPE=" ++ toString typeV ++ ", expected 1")
          else
            match field top "SIG", field top "PATH", field top "SREP", field top "CERT",
              field top "INDX" with
            | some sig, some path, some srep, some cert, some indxBuf => do
              let indx0 ← indxBuf.readUInt32LE 0
              .ok ⟨sig, path, srep, cert, indx0⟩
            | _, _, _, _, _ => fail sourceName "missing SIG/PATH/SREP/CERT/INDX"

/-- The parts of the certificate, and of the delegation in it. -/
def readCertificate (cert : Buffer) (sourceName : String) : Except Thrown Certificate := do
  match ← parseMessage cert with
  | none => fail sourceName "bad CERT message"
  | some certMsg =>
    match field certMsg "SIG", field certMsg "DELE" with
    | some certSig, some dele => do
      match ← parseMessage dele with
      | none => fail sourceName "bad DELE message"
      | some deleMsg =>
        match field deleMsg "PUBK", field deleMsg "MINT", field deleMsg "MAXT" with
        | some pubk, some mintBuf, some maxtBuf => do
          let mint ← mintBuf.readBigUInt64LE 0
          let maxt ← maxtBuf.readBigUInt64LE 0
          .ok ⟨certSig, dele, pubk, mint, maxt⟩
        | _, _, _ => fail sourceName "missing PUBK/MINT/MAXT"
    | _, _ => fail sourceName "missing CERT.SIG or DELE"

/-- The parts of the report. -/
def readReport (srep : Buffer) (sourceName : String) : Except Thrown Report := do
  match ← parseMessage srep with
  | none => fail sourceName "bad SREP message"
  | some srepMsg =>
    match field srepMsg "RADI", field srepMsg "MIDP", field srepMsg "ROOT" with
    | some radiBuf, some midpBuf, some root => do
      let radi ← radiBuf.readUInt32LE 0
      let midp ← midpBuf.readBigUInt64LE 0
      .ok ⟨radi, midp, root⟩
    | _, _, _ => fail sourceName "missing RADI/MIDP/ROOT"

/-! ## Checking the signatures -/

section Signatures

variable (crypto : Crypto)

/-- `rebuildEd25519PublicKey`: the raw key behind the fixed header of DER. -/
def rebuildEd25519PublicKey (raw32 : Buffer) : Except String crypto.KeyObject :=
  if raw32.length ≠ 32 then
    .error ("Ed25519 public key must be 32 bytes, got " ++ toString raw32.length)
  else crypto.createPublicKey (Buffer.fromHex "302a300506032b6570032100" ++ raw32)

/-- Whether a signature verifies; it does not if `crypto.verify` throws. -/
def verifies (data : Buffer) (key : crypto.KeyObject) (signature : Buffer) : Bool :=
  match crypto.verify data key signature with
  | .ok ok => ok
  | .error _ => false

/-- Rebuild a key and check a signature with it. -/
def checkSignature (badKey invalid : String) (raw32 data signature : Buffer)
    (sourceName : String) : Except Thrown Unit :=
  match rebuildEd25519PublicKey crypto raw32 with
  | .error message => fail sourceName (badKey ++ message)
  | .ok key => if verifies crypto data key signature then .ok () else fail sourceName invalid

def deleCtx : Buffer := Buffer.ofAscii "RoughTime v1 delegation signature\x00"

def srepCtx : Buffer := Buffer.ofAscii "RoughTime v1 response signature\x00"

/-- `CERT.SIG`: the long-term key signs `DELE`. -/
def checkCertSig (serverPubkey32 : Buffer) (cert : Certificate) (sourceName : String) :
    Except Thrown Unit :=
  checkSignature crypto "bad configured long-term public key: "
    ("CERT.SIG INVALID (delegated-key certificate signature does not verify against the " ++
      "configured long-term key)")
    serverPubkey32 (deleCtx ++ cert.dele) cert.sig sourceName

/-- `SREP SIG`: the delegated key signs the time report. -/
def checkSrepSig (pubk : Buffer) (top : Response) (sourceName : String) : Except Thrown Unit :=
  checkSignature crypto "bad delegated public key in response: "
    "SREP SIG INVALID (time-report signature does not verify against the delegated key)"
    pubk (srepCtx ++ top.srep) top.sig sourceName

end Signatures

/-! ## The Merkle path -/

/-- The conversion of a number to a signed word of 32 bits, as the bit operators do it. -/
def toInt32 (n : ℤ) : ℤ := n.bmod (2 ^ 32)

/-- The nodes of a path, of 32 bytes each; fewer bytes at its end are left out. -/
def pathNodes (path : Buffer) : List Buffer :=
  (List.range (path.length / 32)).map fun i => path.subarray (32 * i) (32 * i + 32)

section MerklePath

variable (crypto : Crypto)

/-- `H(x)` of §5.3.1: the first 32 bytes of SHA-512. -/
def rtHash (parts : List Buffer) : Vector UInt8 32 := Buffer.first32 (crypto.sha512 parts.flatten)

/-- The loop over the nodes: the hash `cur` and the number `idx` that are left. -/
def walkPath (cur : Vector UInt8 32) (idx : ℤ) : List Buffer → Vector UInt8 32 × ℤ
  | [] => (cur, idx)
  | node :: nodes =>
    walkPath
      (if toInt32 idx % 2 = 0 then rtHash crypto [[0x01], cur.toList, node]
        else rtHash crypto [[0x01], node, cur.toList])
      (toInt32 idx >>> (1 : ℕ)) nodes

/-- The reconstruction of the root from the request. -/
def checkPath (requestPacket : Buffer) (top : Response) (root : Buffer) (sourceName : String) :
    Except Thrown Unit :=
  let (cur, idx) :=
    walkPath crypto (rtHash crypto [[0x00], requestPacket]) top.indx (pathNodes top.path)
  if idx ≠ 0 then fail sourceName "nonzero remaining INDX bits after Merkle walk"
  else if cur.toList ≠ root then fail sourceName "Merkle ROOT mismatch"
  else .ok ()

end MerklePath

/-! ## The validation -/

/-- The time of the report lies in the window of the delegated key. -/
def checkWindow (cert : Certificate) (report : Report) (sourceName : String) :
    Except Thrown Unit :=
  if report.midp < cert.mint ∨ report.midp > cert.maxt then
    fail sourceName ("MIDP " ++ toString report.midp ++
      " outside delegated-key validity window [" ++ toString cert.mint ++ "," ++
      toString cert.maxt ++ "]")
  else .ok ()

def validateRoughtimeResponse (crypto : Crypto)
    (requestPacket responsePacket serverPubkey32 sentNonce32 : Buffer) (sourceName : String) :
    Except Thrown RoughtimeValidatedResponse := do
  let top ← readResponse responsePacket sentNonce32 sourceName
  let cert ← readCertificate top.cert sourceName
  checkCertSig crypto serverPubkey32 cert sourceName
  checkSrepSig crypto cert.pubk top sourceName
  let report ← readReport top.srep sourceName
  checkWindow cert report sourceName
  checkPath crypto requestPacket top report.root sourceName
  .ok ⟨report.midp, report.radi⟩

/-! ## What the checks establish -/

/-- The message in a packet. -/
def IsMessageOf (packet message : Buffer) : Prop :=
  ∃ msgLen, packet.readUInt32LE 8 = .ok msgLen ∧ message = packet.subarray 12 (12 + msgLen)

/-- A message with the parts of a response to a nonce. -/
structure IsResponse (message nonce : Buffer) (top : Response) : Prop where
  nonc : Holds message "NONC" nonce
  type : HoldsUInt32 message "TYPE" 1
  sig : Holds message "SIG" top.sig
  path : Holds message "PATH" top.path
  srep : Holds message "SREP" top.srep
  cert : Holds message "CERT" top.cert
  indx : HoldsUInt32 message "INDX" top.indx

/-- A message with the parts of a certificate. -/
structure IsCertificate (message : Buffer) (cert : Certificate) : Prop where
  sig : Holds message "SIG" cert.sig
  dele : Holds message "DELE" cert.dele
  pubk : Holds cert.dele "PUBK" cert.pubk
  mint : HoldsUInt64 cert.dele "MINT" cert.mint
  maxt : HoldsUInt64 cert.dele "MAXT" cert.maxt

/-- A message with the parts of a report. -/
structure IsReport (message : Buffer) (report : Report) : Prop where
  radi : HoldsUInt32 message "RADI" report.radi
  midp : HoldsUInt64 message "MIDP" report.midp
  root : Holds message "ROOT" report.root

@[simp] theorem fail_eq_ok {α : Type} {sourceName reason : String} {a : α} :
    fail sourceName reason = .ok a ↔ False := by
  simp [fail]

theorem readResponse_ok {packet nonce : Buffer} {sourceName : String} {top : Response}
    (h : readResponse packet nonce sourceName = .ok top) :
    ∃ message, IsMessageOf packet message ∧ IsResponse message nonce top := by
  unfold readResponse at h
  split at h
  · simp at h
  obtain ⟨msgLen, hmsgLen, h⟩ := bind_eq_ok.1 h
  obtain ⟨parsed, hparsed, h⟩ := bind_eq_ok.1 h
  refine ⟨_, ⟨msgLen, hmsgLen, rfl⟩, ?_⟩
  rcases parsed with - | map
  · simp at h
  dsimp only at h
  split at h
  · simp at h
  · rename_i hnonc
    split at h
    · simp at h
    · rename_i typeBuf htype
      obtain ⟨typeV, htypeV, h⟩ := bind_eq_ok.1 h
      split at h
      · simp at h
      · rename_i hone
        split at h
        · rename_i sig path srep cert indxBuf hsig hpath hsrep hcert hindx
          obtain ⟨indx, hindx0, h⟩ := bind_eq_ok.1 h
          cases h
          exact {
            nonc := holds_of_parseMessage hparsed (not_not.1 hnonc)
            type := ⟨typeBuf, holds_of_parseMessage hparsed htype, not_not.1 hone ▸ htypeV⟩
            sig := holds_of_parseMessage hparsed hsig
            path := holds_of_parseMessage hparsed hpath
            srep := holds_of_parseMessage hparsed hsrep
            cert := holds_of_parseMessage hparsed hcert
            indx := ⟨indxBuf, holds_of_parseMessage hparsed hindx, hindx0⟩ }
        · simp at h

theorem readCertificate_ok {message : Buffer} {sourceName : String} {cert : Certificate}
    (h : readCertificate message sourceName = .ok cert) : IsCertificate message cert := by
  unfold readCertificate at h
  obtain ⟨parsed, hparsed, h⟩ := bind_eq_ok.1 h
  rcases parsed with - | certMsg
  · simp at h
  dsimp only at h
  split at h
  · rename_i certSig dele hsig hdele
    obtain ⟨parsedDele, hparsedDele, h⟩ := bind_eq_ok.1 h
    rcases parsedDele with - | deleMsg
    · simp at h
    dsimp only at h
    split at h
    · rename_i pubk mintBuf maxtBuf hpubk hmintBuf hmaxtBuf
      obtain ⟨mint, hmint, h⟩ := bind_eq_ok.1 h
      obtain ⟨maxt, hmaxt, h⟩ := bind_eq_ok.1 h
      cases h
      exact {
        sig := holds_of_parseMessage hparsed hsig
        dele := holds_of_parseMessage hparsed hdele
        pubk := holds_of_parseMessage hparsedDele hpubk
        mint := ⟨mintBuf, holds_of_parseMessage hparsedDele hmintBuf, hmint⟩
        maxt := ⟨maxtBuf, holds_of_parseMessage hparsedDele hmaxtBuf, hmaxt⟩ }
    · simp at h
  · simp at h

theorem readReport_ok {message : Buffer} {sourceName : String} {report : Report}
    (h : readReport message sourceName = .ok report) : IsReport message report := by
  unfold readReport at h
  obtain ⟨parsed, hparsed, h⟩ := bind_eq_ok.1 h
  rcases parsed with - | srepMsg
  · simp at h
  dsimp only at h
  split at h
  · rename_i radiBuf midpBuf root hradiBuf hmidpBuf hroot
    obtain ⟨radi, hradi, h⟩ := bind_eq_ok.1 h
    obtain ⟨midp, hmidp, h⟩ := bind_eq_ok.1 h
    cases h
    exact {
      radi := ⟨radiBuf, holds_of_parseMessage hparsed hradiBuf, hradi⟩
      midp := ⟨midpBuf, holds_of_parseMessage hparsed hmidpBuf, hmidp⟩
      root := holds_of_parseMessage hparsed hroot }
  · simp at h

theorem checkWindow_ok {cert : Certificate} {report : Report} {sourceName : String} :
    checkWindow cert report sourceName = .ok () ↔
      cert.mint ≤ report.midp ∧ report.midp ≤ cert.maxt := by
  unfold checkWindow
  split
  · rename_i hout
    simp only [fail_eq_ok, false_iff]
    omega
  · rename_i hin
    simp only [true_iff]
    omega

section Crypto

variable {crypto : Crypto}

/-- A signature that passes its check verifies with a key object made from the raw key. -/
theorem checkSignature_ok {badKey invalid : String} {raw32 data signature : Buffer}
    {sourceName : String} :
    checkSignature crypto badKey invalid raw32 data signature sourceName = .ok () ↔
      ∃ key, rebuildEd25519PublicKey crypto raw32 = .ok key ∧
        crypto.verify data key signature = .ok true := by
  unfold checkSignature verifies
  rcases rebuildEd25519PublicKey crypto raw32 with message | key
  · simp
  · rcases hverify : crypto.verify data key signature with e | ok
    · simp [hverify]
    · cases ok <;> simp [hverify]

theorem checkPath_ok {request root : Buffer} {top : Response} {sourceName : String} :
    checkPath crypto request top root sourceName = .ok () ↔
      (walkPath crypto (rtHash crypto [[0x00], request]) top.indx (pathNodes top.path)).2 = 0 ∧
      (walkPath crypto (rtHash crypto [[0x00], request]) top.indx (pathNodes top.path)).1.toList =
        root := by
  unfold checkPath
  rcases walkPath crypto (rtHash crypto [[0x00], request]) top.indx (pathNodes top.path)
    with ⟨cur, idx⟩
  dsimp only
  split
  · rename_i hidx
    simp [hidx]
  · rename_i hidx
    split
    · rename_i hcur
      simp [hcur]
    · rename_i hcur
      simp [not_not.1 hidx, not_not.1 hcur]

/-- **A validated response** has passed every check. -/
theorem validate_ok {request packet serverPubkey nonce : Buffer} {sourceName : String}
    {v : RoughtimeValidatedResponse}
    (h : validateRoughtimeResponse crypto request packet serverPubkey nonce sourceName = .ok v) :
    ∃ message top cert report, IsMessageOf packet message ∧ IsResponse message nonce top ∧
      IsCertificate top.cert cert ∧ checkCertSig crypto serverPubkey cert sourceName = .ok () ∧
      checkSrepSig crypto cert.pubk top sourceName = .ok () ∧ IsReport top.srep report ∧
      checkWindow cert report sourceName = .ok () ∧
      checkPath crypto request top report.root sourceName = .ok () ∧
      v = ⟨report.midp, report.radi⟩ := by
  unfold validateRoughtimeResponse at h
  obtain ⟨top, htop, h⟩ := bind_eq_ok.1 h
  obtain ⟨cert, hcert, h⟩ := bind_eq_ok.1 h
  obtain ⟨⟨⟩, hcertSig, h⟩ := bind_eq_ok.1 h
  obtain ⟨⟨⟩, hsrepSig, h⟩ := bind_eq_ok.1 h
  obtain ⟨report, hreport, h⟩ := bind_eq_ok.1 h
  obtain ⟨⟨⟩, hwindow, h⟩ := bind_eq_ok.1 h
  obtain ⟨⟨⟩, hpath, h⟩ := bind_eq_ok.1 h
  obtain ⟨message, hmessage, hresponse⟩ := readResponse_ok htop
  cases h
  exact ⟨message, top, cert, report, hmessage, hresponse, readCertificate_ok hcert, hcertSig,
    hsrepSig, readReport_ok hreport, hwindow, hpath, rfl⟩

end Crypto

end OpenTTT.RoughtimeSource
