import OpenTTT.Runtime.Json
import OpenTTT.Time.Types

/-!
# Proofs of time as JSON

`serializeToJSON` and `deserializeFromJSON` of `time_synthesis.ts`. The replacer turns every bigint
into its text, wherever it stands; the other way, three places are converted back: the timestamp,
the expiry, and the timestamps of the readings. The time of the signature is not among them.

What is read is a value of the language: nothing makes a proof of time of it. `json_round_trip_iff`
says for which proofs it is the one that was written.
-/

namespace OpenTTT

/-! ## Proofs as values -/

def SourceReading.toJs (r : SourceReading) : JsValue :=
  .object ([("source", .string r.source), ("timestamp", .bigint r.timestamp),
    ("uncertainty", .number r.uncertainty)] ++
      (r.stratum.map fun stratum => ("stratum", JsValue.number stratum)).toList)

def PotSignature.toJs (sig : PotSignature) : JsValue :=
  .object [("issuerPubKey", .string sig.issuerPubKey), ("signature", .string sig.signature),
    ("issuedAt", .bigint sig.issuedAt)]

/-- A proof of time, with the properties that it has. -/
def ProofOfTime.toJs (pot : ProofOfTime) : JsValue :=
  .object ([("timestamp", .bigint pot.timestamp), ("uncertainty", .number pot.uncertainty),
    ("sources", .number pot.sources), ("stratum", .number pot.stratum),
    ("confidence", .number pot.confidence),
    ("sourceReadings", .array (pot.sourceReadings.map SourceReading.toJs)),
    ("nonce", .string pot.nonce), ("expiresAt", .bigint pot.expiresAt)] ++
      (pot.issuerSignature.map fun sig => ("issuerSignature", sig.toJs)).toList)

namespace TimeSynthesis

/-! ## The two functions -/

def serializeToJSON (pot : ProofOfTime) : Except Thrown String :=
  pot.toJs.stringify (some toString)

/-- `{...s, timestamp: BigInt(s.timestamp)}`. -/
def restoreReading (s : JsValue) : Except Thrown JsValue := do
  let timestamp ← JsValue.toBigInt (← s.get "timestamp")
  .ok (s.set "timestamp" (.bigint timestamp))

/-- `data.sourceReadings.map(…)`; there is no such method if the property is no array. -/
def restoreReadings : Option JsValue → Except Thrown (List JsValue)
  | some (.array readings) => readings.mapM restoreReading
  | _ => .error .typeError

/-- The proof that is made of the data. Data without properties do not get past the first one. -/
def restore (data : JsValue) : Except Thrown JsValue := do
  let timestamp ← JsValue.toBigInt (← data.get "timestamp")
  let expiresAt ← JsValue.toBigInt (← data.get "expiresAt")
  let readings ← restoreReadings (← data.get "sourceReadings")
  .ok (((data.set "timestamp" (.bigint timestamp)).set "expiresAt" (.bigint expiresAt)).set
    "sourceReadings" (.array readings))

def deserializeFromJSON (json : String) : Except Thrown JsValue := do
  let data ← JsValue.parse json
  restore data

/-! ## What is read -/

/-- A number that is a double, and finite. -/
def IsFinite (x : Binary64) : Prop := ∃ q, x = .finite q ∧ Binary64.round q = .finite q

/-- The numbers of a proof are finite. -/
structure FiniteNumbers (pot : ProofOfTime) : Prop where
  uncertainty : IsFinite pot.uncertainty
  sources : IsFinite pot.sources
  stratum : IsFinite pot.stratum
  confidence : IsFinite pot.confidence
  readings : ∀ r ∈ pot.sourceReadings, IsFinite r.uncertainty ∧ ∀ x ∈ r.stratum, IsFinite x

theorem serializable_number {x : Binary64} (h : IsFinite x) : (JsValue.number x).Serializable := by
  obtain ⟨q, rfl, hdouble⟩ := h
  exact .number hdouble

/-- An object with a property that may be absent. -/
theorem serializable_append {members : List (String × JsValue)}
    {optional : Option (String × JsValue)} (hnodup : (members.map Prod.fst).Nodup)
    (hmembers : ∀ m ∈ members, m.2.Serializable)
    (hoptional : ∀ m ∈ optional, m.1 ∉ members.map Prod.fst ∧ m.2.Serializable) :
    (JsValue.object (members ++ optional.toList)).Serializable := by
  cases optional with
  | none =>
    rw [Option.toList_none, List.append_nil]
    exact .object hnodup hmembers
  | some m =>
    obtain ⟨hnew, hm⟩ := hoptional m rfl
    refine .object ?_ ?_
    · rw [Option.toList_some, List.map_append, List.map_singleton, ← List.concat_eq_append]
      exact hnodup.concat hnew
    · rw [Option.toList_some, List.forall_mem_append, List.forall_mem_singleton]
      exact ⟨hmembers, hm⟩

theorem serializable_reading {r : SourceReading} (huncertainty : IsFinite r.uncertainty)
    (hstratum : ∀ x ∈ r.stratum, IsFinite x) : r.toJs.Serializable := by
  refine serializable_append (by simp) ?_ ?_
  · simp [JsValue.Serializable.string, JsValue.Serializable.bigint,
      serializable_number huncertainty]
  · intro m hm
    obtain ⟨x, hx, rfl⟩ := Option.map_eq_some_iff.1 hm
    exact ⟨by simp, serializable_number (hstratum x hx)⟩

theorem serializable_signature (sig : PotSignature) : sig.toJs.Serializable := by
  refine .object (by simp) ?_
  simp [JsValue.Serializable.string, JsValue.Serializable.bigint]

theorem serializable_toJs {pot : ProofOfTime} (h : FiniteNumbers pot) :
    pot.toJs.Serializable := by
  have hreadings : (JsValue.array (pot.sourceReadings.map SourceReading.toJs)).Serializable := by
    refine .array fun v hv => ?_
    obtain ⟨r, hr, rfl⟩ := List.mem_map.1 hv
    exact serializable_reading (h.readings r hr).1 (h.readings r hr).2
  refine serializable_append (by simp) ?_ ?_
  · simp [JsValue.Serializable.string, JsValue.Serializable.bigint, hreadings,
      serializable_number h.uncertainty, serializable_number h.sources,
      serializable_number h.stratum, serializable_number h.confidence]
  · intro m hm
    obtain ⟨sig, -, rfl⟩ := Option.map_eq_some_iff.1 hm
    exact ⟨by simp, serializable_signature sig⟩

/-- A reading is restored. -/
theorem restoreReading_replaced (r : SourceReading) :
    restoreReading (r.toJs.replaced toString) = .ok r.toJs := by
  have hget : (r.toJs.replaced toString).get "timestamp" =
      .ok (some (.string (toString r.timestamp))) := rfl
  have hset : (r.toJs.replaced toString).set "timestamp" (.bigint r.timestamp) = r.toJs := by
    unfold SourceReading.toJs
    cases r.stratum <;> rfl
  rw [restoreReading, hget, ok_bind, JsValue.toBigInt_toString, ok_bind, hset]

theorem restoreReadings_replaced (readings : List SourceReading) :
    restoreReadings (some ((JsValue.array (readings.map SourceReading.toJs)).replaced toString)) =
      .ok (readings.map SourceReading.toJs) := by
  have hmap : ∀ readings : List SourceReading,
      (JsValue.replacedElements toString (readings.map SourceReading.toJs)).mapM restoreReading =
        .ok (readings.map SourceReading.toJs) := by
    intro readings
    induction readings with
    | nil => rfl
    | cons r readings ih =>
      rw [List.map_cons, JsValue.replacedElements, List.mapM_cons, restoreReading_replaced, ok_bind,
        ih]
      rfl
  exact hmap readings

/-- What is restored of a proof: the time of its signature is left a text. -/
def restored (pot : ProofOfTime) : JsValue :=
  .object ([("timestamp", .bigint pot.timestamp), ("uncertainty", .number pot.uncertainty),
    ("sources", .number pot.sources), ("stratum", .number pot.stratum),
    ("confidence", .number pot.confidence),
    ("sourceReadings", .array (pot.sourceReadings.map SourceReading.toJs)),
    ("nonce", .string pot.nonce), ("expiresAt", .bigint pot.expiresAt)] ++
      (pot.issuerSignature.map fun sig =>
        ("issuerSignature", sig.toJs.replaced toString)).toList)

theorem restore_replaced (pot : ProofOfTime) :
    restore (pot.toJs.replaced toString) = .ok (restored pot) := by
  have htimestamp : (pot.toJs.replaced toString).get "timestamp" =
      .ok (some (.string (toString pot.timestamp))) := rfl
  have hexpiresAt : (pot.toJs.replaced toString).get "expiresAt" =
      .ok (some (.string (toString pot.expiresAt))) := rfl
  have hreadings : (pot.toJs.replaced toString).get "sourceReadings" = .ok (some
      ((JsValue.array (pot.sourceReadings.map SourceReading.toJs)).replaced toString)) := rfl
  have hset : (((pot.toJs.replaced toString).set "timestamp" (.bigint pot.timestamp)).set
      "expiresAt" (.bigint pot.expiresAt)).set "sourceReadings"
        (.array (pot.sourceReadings.map SourceReading.toJs)) = restored pot := by
    unfold ProofOfTime.toJs restored
    cases pot.issuerSignature <;> rfl
  rw [restore, htimestamp, ok_bind, JsValue.toBigInt_toString, ok_bind, hexpiresAt, ok_bind,
    JsValue.toBigInt_toString, ok_bind, hreadings, ok_bind, restoreReadings_replaced, ok_bind, hset]

/-- **A round trip** of a proof through its text. -/
theorem deserialize_serialize {pot : ProofOfTime} (h : FiniteNumbers pot) :
    (serializeToJSON pot >>= deserializeFromJSON) = .ok (restored pot) := by
  have hparse := JsValue.parse_stringify toString (serializable_toJs h)
  cases htext : serializeToJSON pot with
  | error e =>
    rw [← serializeToJSON, htext] at hparse
    cases hparse
  | ok json =>
    rw [← serializeToJSON, htext, ok_bind] at hparse
    rw [ok_bind, deserializeFromJSON, hparse, ok_bind, restore_replaced]

theorem replaced_signature_ne (sig : PotSignature) : sig.toJs.replaced toString ≠ sig.toJs := by
  intro h
  have hmembers : JsValue.replacedMembers toString [("issuerPubKey", .string sig.issuerPubKey),
      ("signature", .string sig.signature), ("issuedAt", .bigint sig.issuedAt)] =
    [("issuerPubKey", .string sig.issuerPubKey), ("signature", .string sig.signature),
      ("issuedAt", .bigint sig.issuedAt)] := JsValue.object.inj h
  simp [JsValue.replacedMembers, JsValue.replaced] at hmembers

theorem restored_eq_toJs_iff (pot : ProofOfTime) :
    restored pot = pot.toJs ↔ pot.issuerSignature = none := by
  constructor
  · intro heq
    cases hsig : pot.issuerSignature with
    | none => rfl
    | some sig =>
      rw [restored, ProofOfTime.toJs, hsig] at heq
      have hlast := congrArg List.getLast? (JsValue.object.inj heq)
      simp only [Option.map_some, Option.toList_some, List.getLast?_concat, Option.some.injEq,
        Prod.mk.injEq] at hlast
      exact absurd hlast.2 (replaced_signature_ne sig)
  · intro hnone
    rw [restored, ProofOfTime.toJs, hnone]
    rfl

/-- **The JSON round trip.** The proof that is read is the one that was written if and only if
there is no signature on it: that of a signed one has a text in place of its time. -/
theorem json_round_trip_iff {pot : ProofOfTime} (h : FiniteNumbers pot) :
    (serializeToJSON pot >>= deserializeFromJSON) = .ok pot.toJs ↔ pot.issuerSignature = none := by
  rw [deserialize_serialize h, Except.ok.injEq, restored_eq_toJs_iff]

/-- A proof of one reading, with the numbers of a usual one. -/
def plainProof : ProofOfTime where
  timestamp := 1700000000000000000
  uncertainty := .finite 5
  sources := .finite 1
  stratum := .finite 2
  confidence := .finite 1
  sourceReadings := [⟨"nist", 1700000000000000000, .finite 5, some (.finite 2)⟩]
  nonce := "6f70656e747474"
  expiresAt := 1700000060000

theorem isFinite_natCast {n : ℕ} (h : n < 2 ^ 53) : IsFinite (.finite n) :=
  ⟨n, rfl, Binary64.round_natCast h⟩

theorem finiteNumbers_plainProof : FiniteNumbers plainProof where
  uncertainty := isFinite_natCast (n := 5) (by norm_num)
  sources := isFinite_natCast (n := 1) (by norm_num)
  stratum := isFinite_natCast (n := 2) (by norm_num)
  confidence := isFinite_natCast (n := 1) (by norm_num)
  readings := by
    rintro r hr
    rw [List.eq_of_mem_singleton hr]
    refine ⟨isFinite_natCast (n := 5) (by norm_num), ?_⟩
    rintro x hx
    cases hx
    exact isFinite_natCast (n := 2) (by norm_num)

theorem json_round_trip_iff_plainProof :
    (serializeToJSON plainProof >>= deserializeFromJSON) = .ok plainProof.toJs ↔
      plainProof.issuerSignature = none :=
  json_round_trip_iff finiteNumbers_plainProof

/-- The same proof with a signature. -/
def signedProof : ProofOfTime :=
  { plainProof with issuerSignature := some ⟨"302a3005", "9f4c", 1700000000⟩ }

theorem not_json_round_trip_signedProof :
    FiniteNumbers signedProof ∧
      ¬ (serializeToJSON signedProof >>= deserializeFromJSON) = .ok signedProof.toJs := by
  have hfinite : FiniteNumbers signedProof :=
    ⟨finiteNumbers_plainProof.uncertainty, finiteNumbers_plainProof.sources,
      finiteNumbers_plainProof.stratum, finiteNumbers_plainProof.confidence,
      finiteNumbers_plainProof.readings⟩
  refine ⟨hfinite, fun h => ?_⟩
  rw [deserialize_serialize hfinite, Except.ok.injEq, restored_eq_toJs_iff] at h
  cases h

end TimeSynthesis

end OpenTTT
