import OpenTTT.Foundations.Binary64
import OpenTTT.Runtime.Errors
import Mathlib.Data.List.Sort

/-!
# Time readings and proofs of time

The public types of `types.ts` that the synthesis works on. A `number` of the source is a
`Binary64` and a `bigint` an integer; an optional field is an `Option`.
-/

namespace OpenTTT

/-- One reading of a time source. -/
structure TimeReading where
  /-- Unix nanoseconds. -/
  timestamp : ℤ
  /-- Milliseconds, to either side. -/
  uncertainty : Binary64
  stratum : Binary64
  source : String
  deriving DecidableEq

/-- A reading as a proof of time carries it. -/
structure SourceReading where
  source : String
  timestamp : ℤ
  uncertainty : Binary64
  stratum : Option Binary64
  deriving DecidableEq

/-- The signature of the issuing node. -/
structure PotSignature where
  issuerPubKey : String
  signature : String
  issuedAt : ℤ
  deriving DecidableEq

structure SynthesizedTime where
  timestamp : ℤ
  confidence : Binary64
  uncertainty : Binary64
  sources : Binary64
  stratum : Binary64
  deriving DecidableEq

structure ProofOfTime where
  timestamp : ℤ
  uncertainty : Binary64
  sources : Binary64
  stratum : Binary64
  confidence : Binary64
  sourceReadings : List SourceReading
  nonce : String
  /-- Unix milliseconds. -/
  expiresAt : ℤ
  issuerSignature : Option PotSignature := none
  deriving DecidableEq

/-- The reading as it is copied into a proof. -/
def TimeReading.toSourceReading (r : TimeReading) : SourceReading :=
  ⟨r.source, r.timestamp, r.uncertainty, some r.stratum⟩

/-! ## The combined reading -/

/-- `readings.sort` by timestamp. The sort is stable, as that of the language is. -/
def sortReadings (readings : List TimeReading) : List TimeReading :=
  readings.insertionSort fun a b => a.timestamp ≤ b.timestamp

/-- The timestamp, uncertainty and stratum that are synthesized from sorted readings. -/
structure Combined where
  timestamp : ℤ
  uncertainty : Binary64
  stratum : Binary64
  deriving DecidableEq

/-- The reading itself for one reading, the mean of two (the `bigint` division truncates), and
the reading in the middle of more; nothing for no reading. -/
def combine : List TimeReading → Option Combined
  | [] => none
  | [r] => some ⟨r.timestamp, r.uncertainty, r.stratum⟩
  | [r₀, r₁] => some ⟨(r₀.timestamp + r₁.timestamp).tdiv 2,
      Binary64.div (Binary64.add r₀.uncertainty r₁.uncertainty) (Binary64.ofNat 2),
      Binary64.min r₀.stratum r₁.stratum⟩
  | readings => readings[readings.length / 2]?.map fun r => ⟨r.timestamp, r.uncertainty, r.stratum⟩

theorem combine_of_three (r₀ r₁ r₂ : TimeReading) (rest : List TimeReading) :
    combine (r₀ :: r₁ :: r₂ :: rest) =
      (r₀ :: r₁ :: r₂ :: rest)[(r₀ :: r₁ :: r₂ :: rest).length / 2]?.map
        fun r => ⟨r.timestamp, r.uncertainty, r.stratum⟩ := rfl

end OpenTTT
