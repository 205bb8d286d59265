import OpenTTT.Runtime.Buffer
import OpenTTT.Time.Types

/-!
# Signatures of proof-of-time hashes

`PotSigner` of `pot_signer.ts`, over the Ed25519 functions of the runtime as a parameter. Both
`signPot` and `verifyPotSignature` take the hash as a string and decode it. The decoding stops
without an error at the first pair of characters that are no hexadecimal digits, and leaves a single
last digit out, so the signature is one of the pairs before: `verifyPotSignature_binds_iff`. That is
the documented decoding (`Buffer.fromHex`), without the characters beyond U+00FF that the runtime
takes for digits as well.
-/

namespace OpenTTT

/-- What the signer uses of the `crypto` of the runtime. -/
structure Ed25519 where
  PrivateKey : Type
  PublicKey : Type
  /-- `createPrivateKey`, from PKCS #8 in DER. -/
  createPrivateKey : Buffer → Except Thrown PrivateKey
  /-- `createPublicKey` of a private key. -/
  publicKeyOf : PrivateKey → PublicKey
  /-- `createPublicKey`, from SPKI in DER. -/
  createPublicKey : Buffer → Except Thrown PublicKey
  /-- `export`, as SPKI in DER. -/
  exportSpki : PublicKey → Buffer
  /-- `sign`, of some data. -/
  sign : Buffer → PrivateKey → Buffer
  /-- `verify`, of some data and a signature. -/
  verify : Buffer → PublicKey → Buffer → Except Thrown Bool

/-- An ideal Ed25519 on some messages: an exported key is read back, and what a key has signed
verifies for that message and for no other one. -/
structure Ed25519.Ideal (ed25519 : Ed25519) (messages : Set Buffer) : Prop where
  createPublicKey_exportSpki (key : ed25519.PublicKey) :
    ed25519.createPublicKey (ed25519.exportSpki key) = .ok key
  verify_sign (key : ed25519.PrivateKey) {data data' : Buffer} :
    data ∈ messages → data' ∈ messages →
    ed25519.verify data' (ed25519.publicKeyOf key) (ed25519.sign data key) =
      .ok (decide (data' = data))

variable (ed25519 : Ed25519)

/-- A signer: a private key with its public key, which is exported once. -/
structure PotSigner where
  privateKey : ed25519.PrivateKey
  publicKey : ed25519.PublicKey
  pubKeyHex : String
  publicKey_eq : publicKey = ed25519.publicKeyOf privateKey
  pubKeyHex_eq : pubKeyHex = Buffer.toHex (ed25519.exportSpki publicKey)

namespace PotSigner

/-- The signer of a private key. -/
def ofPrivateKey (privateKey : ed25519.PrivateKey) : PotSigner ed25519 where
  privateKey := privateKey
  publicKey := ed25519.publicKeyOf privateKey
  pubKeyHex := Buffer.toHex (ed25519.exportSpki (ed25519.publicKeyOf privateKey))
  publicKey_eq := rfl
  pubKeyHex_eq := rfl

/-- The constructor. Without a key, or with the empty string for one, a new key is generated. -/
def new (privateKeyHex : Option String) (generated : ed25519.PrivateKey) :
    Except Thrown (PotSigner ed25519) :=
  match privateKeyHex with
  | none => .ok (ofPrivateKey ed25519 generated)
  | some hex =>
    if hex = "" then .ok (ofPrivateKey ed25519 generated)
    else (ed25519.createPrivateKey (Buffer.fromHex hex)).map (ofPrivateKey ed25519)

/-- `potHash.startsWith('0x') ? potHash.slice(2) : potHash`, as characters. -/
def digitsOf (potHash : String) : List Char :=
  match potHash.toList with
  | '0' :: 'x' :: digits => digits
  | digits => digits

/-- What is signed for a hash. -/
def dataOf (potHash : String) : Buffer := Buffer.fromHexDigits (digitsOf potHash)

variable {ed25519}

/-- `signPot`, at a time in milliseconds. -/
def signPot (self : PotSigner ed25519) (potHash : String) (now : ℤ) : PotSignature where
  issuerPubKey := self.pubKeyHex
  signature := Buffer.toHex (ed25519.sign (dataOf potHash) self.privateKey)
  issuedAt := now / 1000

variable (ed25519)

/-- `PotSigner.verifyPotSignature`. Whatever throws in it makes the signature an invalid one. -/
def verifyPotSignature (potHash : String) (potSig : PotSignature)
    (expectedPubKey : Option String := none) : Bool :=
  if expectedPubKey.any fun key => key ≠ "" && potSig.issuerPubKey ≠ key then false
  else
    match (do
      let pubKey ← ed25519.createPublicKey (Buffer.fromHex potSig.issuerPubKey)
      ed25519.verify (dataOf potHash) pubKey (Buffer.fromHex potSig.signature)) with
    | .ok ok => ok
    | .error _ => false

variable {ed25519}

/-- **A signature verifies for the hashes with the same data.** -/
theorem verifyPotSignature_signPot (signer : PotSigner ed25519) {h h' : String} {now : ℤ}
    (hideal : ed25519.Ideal {dataOf h, dataOf h'}) :
    verifyPotSignature ed25519 h' (signer.signPot h now) = decide (dataOf h' = dataOf h) := by
  have hkey : ed25519.createPublicKey (Buffer.fromHex (signer.signPot h now).issuerPubKey) =
      .ok (ed25519.publicKeyOf signer.privateKey) := by
    rw [signPot, signer.pubKeyHex_eq, Buffer.fromHex_toHex, signer.publicKey_eq]
    exact hideal.createPublicKey_exportSpki _
  have hverify := hideal.verify_sign signer.privateKey (Set.mem_insert (dataOf h) {dataOf h'})
    (Set.mem_insert_of_mem (dataOf h) rfl)
  rw [verifyPotSignature, if_neg (by simp), hkey, ok_bind, signPot, Buffer.fromHex_toHex, hverify]

/-! ## Which hashes a signature binds -/

/-- Hashes that are the same without `0x` in front and up to the case of letters. -/
def SameHash (h h' : String) : Prop :=
  (digitsOf h).map Char.toLower = (digitsOf h').map Char.toLower

instance (h h' : String) : Decidable (SameHash h h') := inferInstanceAs (Decidable (_ = _))

/-- The pairs of hexadecimal digits at the beginning of a hash, in lower case. -/
def pairsRead (h : String) : List Char := (Buffer.hexPairs (digitsOf h)).map Char.toLower

/-- What comes behind them: from the first pair on that is none, or a single last character. -/
def leftUnread (h : String) : List Char := (Buffer.hexRest (digitsOf h)).map Char.toLower

/-- **What a signature of a hash binds.** A signature of `h` verifies for `h'` only if they are the
same hash, exactly if they differ in the pairs that are read, or agree in what is left unread. -/
theorem verifyPotSignature_binds_iff (signer : PotSigner ed25519) (h h' : String) (now : ℤ)
    (hideal : ed25519.Ideal {dataOf h, dataOf h'}) :
    (verifyPotSignature ed25519 h' (signer.signPot h now) = true → SameHash h' h) ↔
      pairsRead h' ≠ pairsRead h ∨ leftUnread h' = leftUnread h := by
  rw [verifyPotSignature_signPot signer hideal, decide_eq_true_eq]
  by_cases hdata : dataOf h' = dataOf h
  · have hpairs : pairsRead h' = pairsRead h := Buffer.fromHexDigits_eq_iff.1 hdata
    rw [or_iff_right (not_not.2 hpairs), imp_iff_right hdata]
    exact Buffer.map_toLower_eq_iff hdata
  · have hpairs : pairsRead h' ≠ pairsRead h := mt Buffer.fromHexDigits_eq_iff.2 hdata
    exact iff_of_true (absurd · hdata) (Or.inl hpairs)

/-- That a signature binds its hash, for all strings. -/
def SignatureBinds : Prop :=
  ∀ (ed25519 : Ed25519) (signer : PotSigner ed25519) (h h' : String) (now : ℤ),
    ed25519.Ideal {dataOf h, dataOf h'} →
    verifyPotSignature ed25519 h' (signer.signPot h now) = true → SameHash h' h

/-! ## A signature of 32 bytes -/

namespace Sample

/-- A public key in SPKI, as 12 bytes of a header and the key. -/
def spki : Buffer :=
  Buffer.fromHex
    "302a300506032b65700321003d4017c3e843895a92b70aa74d1b7ebc9c982ccf2ec4968cc0cd55f12af4660c"

def potHash : String := "6d76076031b95d2f67d75d2cc09836b1e289f56f9e861f9ea7afd8ab75b65cd4"

/-- The signature of the hash with the key. -/
def signature : Buffer :=
  Buffer.fromHex ("b2e0ce91d86f473a3a3bed45583b342012fd8ff18343a9ca61f66e337e25ff0d" ++
    "26d5fcbfd496be325b02adaf5460c37663182a2c403de5aa6ada6c722975b808")

/-- One key pair, and the signature of one message. -/
def onePair : Ed25519 where
  PrivateKey := Unit
  PublicKey := Unit
  createPrivateKey _ := .error .typeError
  publicKeyOf _ := ()
  createPublicKey der := if der = spki then .ok () else .error .typeError
  exportSpki _ := spki
  sign data _ := if data = dataOf potHash then signature else []
  verify data _ sig := .ok (decide (data = dataOf potHash ∧ sig = signature))

def signer : PotSigner onePair := ofPrivateKey onePair ()

theorem ideal {h h' : String} (hh : dataOf h = dataOf potHash) (hh' : dataOf h' = dataOf potHash) :
    onePair.Ideal {dataOf h, dataOf h'} where
  createPublicKey_exportSpki key := by
    simp only [onePair, if_true]
    rfl
  verify_sign key data data' hdata hdata' := by
    have hmem : ∀ d ∈ ({dataOf h, dataOf h'} : Set Buffer), d = dataOf potHash := by
      rintro d (rfl | rfl)
      · exact hh
      · exact hh'
    rw [hmem data hdata, hmem data' hdata']
    simp [onePair]

end Sample

/-- One more digit behind the hash is not read. -/
theorem not_signatureBinds : ¬ SignatureBinds := by
  intro h
  have hdata : dataOf (Sample.potHash ++ "0") = dataOf Sample.potHash := by decide +kernel
  have hideal := Sample.ideal rfl hdata
  have hverify : verifyPotSignature Sample.onePair (Sample.potHash ++ "0")
      (Sample.signer.signPot Sample.potHash 1700000000000) = true := by
    rw [verifyPotSignature_signPot Sample.signer hideal, decide_eq_true hdata]
  exact absurd (h _ Sample.signer _ _ _ hideal hverify) (by decide +kernel)

/-- The hash in upper case and with `0x` in front. -/
theorem verifyPotSignature_binds_upperCase :
    (verifyPotSignature Sample.onePair
        "0x6D76076031B95D2F67D75D2CC09836B1E289F56F9E861F9EA7AFD8AB75B65CD4"
        (Sample.signer.signPot Sample.potHash 1700000000000) = true →
      SameHash "0x6D76076031B95D2F67D75D2CC09836B1E289F56F9E861F9EA7AFD8AB75B65CD4"
        Sample.potHash) ↔
      pairsRead "0x6D76076031B95D2F67D75D2CC09836B1E289F56F9E861F9EA7AFD8AB75B65CD4" ≠
          pairsRead Sample.potHash ∨
        leftUnread "0x6D76076031B95D2F67D75D2CC09836B1E289F56F9E861F9EA7AFD8AB75B65CD4" =
          leftUnread Sample.potHash :=
  verifyPotSignature_binds_iff Sample.signer Sample.potHash _ 1700000000000
    (Sample.ideal rfl (by decide +kernel))

end PotSigner

end OpenTTT
