import OpenTTT.Plugin.PotToken
import OpenTTT.Runtime.NumberText
import OpenTTT.Time.Types

/-!
# The OSNMA source

`osnma_source.ts`: a source that checks the key material of Galileo's navigation messages on its
first call, and from the first check that passes on tells the time of the system clock. Readings of
the clock are arguments, in milliseconds.
-/

namespace OpenTTT

structure OsnmaKeyMaterial where
  pkid : Binary64
  /-- A compressed point, 33 bytes. -/
  publicKeyHex : String
  merkleRootHex : String
  hashFunction : String
  applicabilityMs : Binary64
  deriving DecidableEq

structure OsnmaVerificationResult where
  valid : Bool
  pkid : Binary64
  merkleRootHex : String
  keyFingerprint : String
  applicabilityMs : Binary64
  checkedAt : ℤ
  deriving DecidableEq

def DEFAULT_OSNMA_KEY : OsnmaKeyMaterial where
  pkid := .finite 2
  publicKeyHex := "02219204B5CA6C46B623EEED6CDD2CDDB1F7D6A7532767E5B8DA0DE1EBD695FC99"
  merkleRootHex := "7B944FA20915C7931D48DD016D94F9C6381FD37DC6C125D97015272FDDE41393"
  hashFunction := "SHA-256"
  -- 2025-12-10T10:00:00Z
  applicabilityMs := .finite 1765360800000

/-- The digits of a number to the base 16. -/
def hexText (n : ℕ) : String := String.ofList (Nat.toDigits 16 n)

/-- A rejection of the key material. -/
def osnmaError {α : Type} (message reason fix : String) : Except Thrown α :=
  .error (.timeSynthesisError (.ofMessage message reason fix))

variable (sha256 : Buffer → Vector UInt8 32)

/-- `verifyOsnmaKeyMaterial`, at a time in milliseconds. -/
def verifyOsnmaKeyMaterial (key : OsnmaKeyMaterial) (now : ℤ) :
    Except Thrown OsnmaVerificationResult :=
  let pubKeyBytes := Buffer.fromHex key.publicKeyHex
  let merkleBytes := Buffer.fromHex key.merkleRootHex
  if pubKeyBytes.length ≠ 33 then
    osnmaError "OSNMA_KEY_LENGTH_INVALID"
      ("Public key must be 33 bytes (compressed P-256), got " ++ toString pubKeyBytes.length)
      "Check OSNMA key format from GSC Europa portal"
  else if pubKeyBytes.getD 0 0 ≠ 0x02 ∧ pubKeyBytes.getD 0 0 ≠ 0x03 then
    osnmaError "OSNMA_KEY_PREFIX_INVALID"
      ("Compressed P-256 point must start with 02 or 03, got " ++
        hexText (pubKeyBytes.getD 0 0).toNat)
      "OSNMA public key is not a valid compressed EC point"
  else if merkleBytes.length ≠ 32 then
    osnmaError "OSNMA_MERKLE_LENGTH_INVALID"
      ("Merkle root must be 32 bytes (SHA-256), got " ++ toString merkleBytes.length)
      "Check OSNMA Merkle Tree XML from GSC Europa portal"
  else if (Binary64.finite now).lt key.applicabilityMs then
    -- the text of the error needs the date, which may be out of the range of dates
    match toISOString key.applicabilityMs with
    | .error _ => .error .rangeError
    | .ok date =>
      osnmaError "OSNMA_KEY_NOT_YET_APPLICABLE"
        ("Key PKID=" ++ numberToString key.pkid ++ " not applicable until " ++ date)
        "Use a key with an applicability date in the past"
  else
    .ok {
      valid := true
      pkid := key.pkid
      merkleRootHex := key.merkleRootHex
      keyFingerprint := Buffer.toHex (sha256 pubKeyBytes).toList
      applicabilityMs := key.applicabilityMs
      checkedAt := now }

/-- `Partial<OsnmaKeyMaterial>`. -/
structure PartialOsnmaKeyMaterial where
  pkid : Option Binary64 := none
  publicKeyHex : Option String := none
  merkleRootHex : Option String := none
  hashFunction : Option String := none
  applicabilityMs : Option Binary64 := none

structure OsnmaTimeSource where
  keyMaterial : OsnmaKeyMaterial
  verificationResult : Option OsnmaVerificationResult

namespace OsnmaTimeSource

/-- The constructor. -/
def new (keyMaterial : PartialOsnmaKeyMaterial) : OsnmaTimeSource where
  keyMaterial := {
    pkid := keyMaterial.pkid.getD DEFAULT_OSNMA_KEY.pkid
    publicKeyHex := keyMaterial.publicKeyHex.getD DEFAULT_OSNMA_KEY.publicKeyHex
    merkleRootHex := keyMaterial.merkleRootHex.getD DEFAULT_OSNMA_KEY.merkleRootHex
    hashFunction := keyMaterial.hashFunction.getD DEFAULT_OSNMA_KEY.hashFunction
    applicabilityMs := keyMaterial.applicabilityMs.getD DEFAULT_OSNMA_KEY.applicabilityMs }
  verificationResult := none

/-- The reading of a time. -/
def reading (now : ℤ) : TimeReading where
  timestamp := now * 1000000
  uncertainty := .finite 50
  stratum := .finite 1
  source := "osnma"

/-- `getTime`. The clock is read when the key material is checked, if it is, and once more. -/
def getTime (self : OsnmaTimeSource) (checkedAt now : ℤ) :
    Except Thrown TimeReading × OsnmaTimeSource :=
  match self.verificationResult with
  | some _ => (.ok (reading now), self)
  | none =>
    match verifyOsnmaKeyMaterial sha256 self.keyMaterial checkedAt with
    | .error e => (.error e, self)
    | .ok result => (.ok (reading now), { self with verificationResult := some result })

end OsnmaTimeSource

end OpenTTT
