import OpenTTT.Time.Binary
import OpenTTT.Time.SelfVerification

/-!
# The verdict on a proof that is read from bytes

A proof that is written and read has lost the strata of its readings, and its own stratum is the
byte that was written. The floor of its tolerance is that of this byte, where the verifier of the
proof that was written takes the lowest stratum of all. `verdict_preserved_iff` says for which
proofs the two floors lead to the same verdict.
-/

namespace OpenTTT

open Buffer

namespace TimeSynthesis

/-! ## The verdict of a new instance -/

/-- The checks of a proof that has not expired, by an instance that has not seen a nonce. -/
theorem verifyProofOfTime_new {pot : ProofOfTime} {expiryNow : ℤ} (now : ℤ)
    (h : ¬ expiryNow > pot.expiresAt) :
    (new.verifyProofOfTime expiryNow now pot).1 =
      if pot.sourceReadings = [] ∨ pot.confidence.le (.finite 0) = true then .ok false
      else checkTolerance pot.timestamp (getToleranceForStratum (lowestStratum pot))
        pot.sourceReadings := by
  have hcall := congrArg Prod.fst (new.verifyCall_eq ⟨expiryNow, now, pot⟩)
  have hpasses := @guard_passes_iff ⟨expiryNow, now, pot⟩
  rw [List.length_eq_zero_iff] at hpasses
  refine hcall.trans ?_
  by_cases hfirst : pot.sourceReadings = [] ∨ pot.confidence.le (.finite 0) = true
  · have hnot : ¬ guard.passes ⟨expiryNow, now, pot⟩ = true := fun hp =>
      hfirst.elim (hpasses.1 hp).1 (hpasses.1 hp).2.1
    rw [guard.step_of_not_passes hnot, if_pos hfirst]
    rfl
  · rw [not_or] at hfirst
    have hfresh : (guard.step new.usedNonces ⟨expiryNow, now, pot⟩).1 = true := by
      rw [guard.step_of_passes (hpasses.2 ⟨hfirst.1, hfirst.2, h⟩)]
      exact ReplayCache.query_fresh_of_notMem (by simp [new])
    rw [if_pos hfresh, if_neg (not_or.2 hfirst)]

/-! ## Two floors -/

/-- A reading that passes the check with a floor. -/
def Within (timestamp floor : ℤ) (sig : SourceReading) : Prop :=
  ∃ own, ownTolerance sig.uncertainty = some own ∧ |sig.timestamp - timestamp| ≤ max floor own

/-- A reading that fails the check with a floor: it has a tolerance, and is beyond it. -/
def Beyond (timestamp floor : ℤ) (sig : SourceReading) : Prop :=
  ∃ own, ownTolerance sig.uncertainty = some own ∧ max floor own < |sig.timestamp - timestamp|

/-- Readings of which one is beyond the tolerance, and none of those before it. -/
def FirstBeyond (timestamp floor : ℤ) (readings : List SourceReading) : Prop :=
  ∃ before sig after, readings = before ++ sig :: after ∧
    (∀ other ∈ before, Within timestamp floor other) ∧ Beyond timestamp floor sig

/-- A list has a first element of a kind, behind elements of another kind, if its head is one, or
its head is of the other kind and its tail has one. -/
theorem exists_first_cons_iff {α : Type*} {P Q : α → Prop} {a : α} {l : List α} :
    (∃ before x after, a :: l = before ++ x :: after ∧ (∀ other ∈ before, P other) ∧ Q x) ↔
      Q a ∨ P a ∧
        ∃ before x after, l = before ++ x :: after ∧ (∀ other ∈ before, P other) ∧ Q x := by
  constructor
  · rintro ⟨before, x, after, heq, hbefore, hx⟩
    cases before with
    | nil =>
      obtain ⟨rfl, rfl⟩ := List.cons.inj heq
      exact Or.inl hx
    | cons other before =>
      obtain ⟨rfl, rfl⟩ := List.cons.inj heq
      obtain ⟨hother, hbefore⟩ := List.forall_mem_cons.1 hbefore
      exact Or.inr ⟨hother, before, x, after, rfl, hbefore, hx⟩
  · rintro (ha | ⟨ha, before, x, after, rfl, hbefore, hx⟩)
    · exact ⟨[], a, l, rfl, by simp, ha⟩
    · exact ⟨a :: before, x, after, rfl, List.forall_mem_cons.2 ⟨ha, hbefore⟩, hx⟩

section Floors

variable {timestamp floor lo hi : ℤ} {readings : List SourceReading}

theorem Within.mono {sig : SourceReading} (h : Within timestamp lo sig) (hle : lo ≤ hi) :
    Within timestamp hi sig := by
  obtain ⟨own, hown, hnear⟩ := h
  exact ⟨own, hown, hnear.trans (max_le_max_right own hle)⟩

theorem beyond_iff {sig : SourceReading} {own : ℤ} (h : ownTolerance sig.uncertainty = some own) :
    Beyond timestamp lo sig ↔ |sig.timestamp - timestamp| > max lo own := by
  constructor
  · rintro ⟨own', hown', hfar⟩
    rw [h] at hown'
    cases hown'
    exact hfar
  · exact fun hfar => ⟨own, h, hfar⟩

theorem firstBeyond_cons_iff {sig : SourceReading} :
    FirstBeyond timestamp lo (sig :: readings) ↔
      Beyond timestamp lo sig ∨ Within timestamp lo sig ∧ FirstBeyond timestamp lo readings :=
  exists_first_cons_iff

/-- The check fails at the first reading that is beyond the tolerance. -/
theorem checkTolerance_eq_ok_false :
    checkTolerance timestamp floor readings = .ok false ↔
      FirstBeyond timestamp floor readings := by
  induction readings with
  | nil =>
    refine iff_of_false nofun ?_
    rintro ⟨before, sig, after, heq, -⟩
    cases before <;> cases heq
  | cons first rest ih =>
    rw [checkTolerance_cons, firstBeyond_cons_iff, ← ih]
    cases hown : ownTolerance first.uncertainty with
    | none => simp [Beyond, Within, hown]
    | some own =>
      rw [beyond_iff hown]
      dsimp only
      by_cases hfar : |first.timestamp - timestamp| > max floor own
      · rw [if_pos hfar]
        exact iff_of_true rfl (Or.inl hfar)
      · rw [if_neg hfar, or_iff_right hfar, and_iff_right ⟨own, hown, not_lt.1 hfar⟩]

/-- What fails with a floor fails with a lower one. -/
theorem checkTolerance_eq_ok_false_of_le (hle : lo ≤ hi)
    (h : checkTolerance timestamp hi readings = .ok false) :
    checkTolerance timestamp lo readings = .ok false := by
  induction readings with
  | nil => cases h
  | cons sig rest ih =>
    rw [checkTolerance_cons] at h ⊢
    cases hown : ownTolerance sig.uncertainty with
    | none =>
      rw [hown] at h
      cases h
    | some own =>
      rw [hown] at h
      dsimp only at h ⊢
      have hmax : max lo own ≤ max hi own := max_le_max_right own hle
      by_cases hlo : |sig.timestamp - timestamp| > max lo own
      · exact if_pos hlo
      · rw [if_neg (by omega)] at h
        rw [if_neg hlo]
        exact ih h

/-- Two floors lead to the same verdict if it is decided by both alike: by the lower one that all
readings are within it, or by the higher one that one is beyond it. -/
theorem exists_checkTolerance_iff (hle : lo ≤ hi) :
    (∃ b, checkTolerance timestamp lo readings = .ok b ∧
      checkTolerance timestamp hi readings = .ok b) ↔
      (∀ sig ∈ readings, Within timestamp lo sig) ∨ FirstBeyond timestamp hi readings := by
  constructor
  · rintro ⟨b, hlo, hhi⟩
    cases b with
    | true => exact Or.inl (checkTolerance_eq_ok_true.1 hlo)
    | false => exact Or.inr (checkTolerance_eq_ok_false.1 hhi)
  · rintro (hwithin | hbeyond)
    · exact ⟨true, checkTolerance_eq_ok_true.2 hwithin,
        checkTolerance_eq_ok_true.2 fun sig hsig => (hwithin sig hsig).mono hle⟩
    · have hfalse := checkTolerance_eq_ok_false.2 hbeyond
      exact ⟨false, checkTolerance_eq_ok_false_of_le hle hfalse, hfalse⟩

theorem exists_checkTolerance_iff_min_max (f g : ℤ) :
    (∃ b, checkTolerance timestamp f readings = .ok b ∧
      checkTolerance timestamp g readings = .ok b) ↔
      (∀ sig ∈ readings, Within timestamp (min f g) sig) ∨
        FirstBeyond timestamp (max f g) readings := by
  rcases le_total f g with hle | hle
  · rw [min_eq_left hle, max_eq_right hle]
    exact exists_checkTolerance_iff hle
  · rw [min_eq_right hle, max_eq_left hle, ← exists_checkTolerance_iff hle]
    exact exists_congr fun b => and_comm

end Floors

/-! ## The verdict on what is read -/

/-- The floor for a proof. -/
def writtenFloor (pot : ProofOfTime) : ℤ := getToleranceForStratum (lowestStratum pot)

/-- The floor for a proof that is read: that of the byte of its stratum. -/
def receivedFloor (pot : ProofOfTime) : ℤ :=
  getToleranceForStratum (.ofNat (toUint8 pot.stratum).toNat)

theorem single_of_round {x : Binary64} (h : Binary32.round x = x) : single x = x := by
  rw [single, h, Binary32.ofWord_word h]

/-- The strata of the readings are not read. -/
theorem lowestStratum_received (pot : ProofOfTime) :
    lowestStratum (received pot) = (received pot).stratum := by
  change List.foldl _ (received pot).stratum (pot.sourceReadings.map receivedReading) = _
  generalize (received pot).stratum = stratum
  induction pot.sourceReadings with
  | nil => rfl
  | cons sig readings ih => exact ih

theorem checkTolerance_received {timestamp floor : ℤ} {readings : List SourceReading}
    (h : ∀ sig ∈ readings, Binary32.round sig.uncertainty = sig.uncertainty) :
    checkTolerance timestamp floor (readings.map receivedReading) =
      checkTolerance timestamp floor readings := by
  induction readings with
  | nil => rfl
  | cons sig readings ih =>
    obtain ⟨hsig, hreadings⟩ := List.forall_mem_cons.1 h
    rw [List.map_cons, checkTolerance_cons, checkTolerance_cons, ih hreadings, receivedReading,
      single_of_round hsig]

/-- The checks of a proof that is read: those of the proof that was written, but for the floor. -/
theorem verifyProofOfTime_received {pot : ProofOfTime} {expiryNow : ℤ} (now : ℤ)
    (hconfidence : Binary32.round pot.confidence = pot.confidence)
    (huncertainty : ∀ sig ∈ pot.sourceReadings, Binary32.round sig.uncertainty = sig.uncertainty)
    (h : ¬ expiryNow > pot.expiresAt) :
    (new.verifyProofOfTime expiryNow now (received pot)).1 =
      if pot.sourceReadings = [] ∨ pot.confidence.le (.finite 0) = true then .ok false
      else checkTolerance pot.timestamp (receivedFloor pot) pot.sourceReadings := by
  have hread := @verifyProofOfTime_new (received pot) expiryNow now h
  have hempty : (received pot).sourceReadings = [] ↔ pot.sourceReadings = [] := List.map_eq_nil_iff
  have hsame : (received pot).confidence = pot.confidence := single_of_round hconfidence
  have htolerance : checkTolerance (received pot).timestamp
      (getToleranceForStratum (lowestStratum (received pot))) (received pot).sourceReadings =
        checkTolerance pot.timestamp (receivedFloor pot) pot.sourceReadings := by
    rw [lowestStratum_received]
    exact checkTolerance_received huncertainty
  simp only [hempty, hsame, htolerance] at hread
  exact hread

/-- **The verdict after a round trip.** -/
theorem verdict_preserved_iff {pot : ProofOfTime} {buf : Buffer} {expiryNow now : ℤ}
    (h : serializeToBinary pot = .ok buf)
    (hconfidence : Binary32.round pot.confidence = pot.confidence)
    (huncertainty : ∀ sig ∈ pot.sourceReadings, Binary32.round sig.uncertainty = sig.uncertainty)
    (hunexpired : ¬ expiryNow > pot.expiresAt) :
    (∃ pot', deserializeFromBinary buf = .ok pot' ∧
      ∃ b, (new.verifyProofOfTime expiryNow now pot).1 = .ok b ∧
        (new.verifyProofOfTime expiryNow now pot').1 = .ok b) ↔
      pot.sourceReadings = [] ∨ pot.confidence.le (.finite 0) = true ∨
        (∀ sig ∈ pot.sourceReadings,
          Within pot.timestamp (min (writtenFloor pot) (receivedFloor pot)) sig) ∨
        FirstBeyond pot.timestamp (max (writtenFloor pot) (receivedFloor pot))
          pot.sourceReadings := by
  have hreceived := deserialize_of_serializeToBinary h
  have honly : (∃ pot', deserializeFromBinary buf = .ok pot' ∧
      ∃ b, (new.verifyProofOfTime expiryNow now pot).1 = .ok b ∧
        (new.verifyProofOfTime expiryNow now pot').1 = .ok b) ↔
      ∃ b, (new.verifyProofOfTime expiryNow now pot).1 = .ok b ∧
        (new.verifyProofOfTime expiryNow now (received pot)).1 = .ok b := by
    rw [hreceived]
    simp
  rw [honly, verifyProofOfTime_new now hunexpired,
    verifyProofOfTime_received now hconfidence huncertainty hunexpired, ← or_assoc]
  by_cases hfirst : pot.sourceReadings = [] ∨ pot.confidence.le (.finite 0) = true
  · rw [if_pos hfirst, if_pos hfirst]
    exact iff_of_true ⟨false, rfl, rfl⟩ (Or.inl hfirst)
  · rw [if_neg hfirst, if_neg hfirst, or_iff_right hfirst]
    exact exists_checkTolerance_iff_min_max _ _

/-- A proof of three readings of 5 ms each. The first one has the lowest stratum; the last one is
15 ms late. -/
def mixedProof : ProofOfTime where
  timestamp := 1700000000000000000
  uncertainty := .finite 5
  sources := .finite 3
  stratum := .finite 2
  confidence := .finite 1
  sourceReadings := [⟨"nist", 1699999999999000000, .finite 5, some (.finite 1)⟩,
    ⟨"google", 1700000000000000000, .finite 5, some (.finite 2)⟩,
    ⟨"cloudflare", 1700000000015000000, .finite 5, some (.finite 2)⟩]
  nonce := "5f1c"
  expiresAt := 1700000060000

theorem fits_mixedProof : Fits mixedProof where
  timestamp := show IsUInt64 1700000000000000000 by decide
  sources := show IsUInt8 (.finite 3) by decide
  stratum := show IsUInt8 (.finite 2) by decide
  count := by decide
  nonce := by decide
  expiresAt := show IsUInt64 1700000060000 by decide
  readings := by
    simp only [mixedProof, List.forall_mem_cons]
    exact ⟨⟨by decide, by decide⟩, ⟨by decide, by decide⟩, ⟨by decide, by decide⟩, by simp⟩

theorem round_five : Binary32.round (.finite 5) = .finite 5 := by decide +kernel

theorem round_one : Binary32.round (.finite 1) = .finite 1 := by decide +kernel

theorem round_mixedProof : ∀ sig ∈ mixedProof.sourceReadings,
    Binary32.round sig.uncertainty = sig.uncertainty := by
  simp [mixedProof, round_five]

theorem verdict_preserved_iff_mixedProof :
    ∃ buf, serializeToBinary mixedProof = .ok buf ∧
      ((∃ pot', deserializeFromBinary buf = .ok pot' ∧
        ∃ b, (new.verifyProofOfTime 1700000000000 1700000000000 mixedProof).1 = .ok b ∧
          (new.verifyProofOfTime 1700000000000 1700000000000 pot').1 = .ok b) ↔
        mixedProof.sourceReadings = [] ∨ mixedProof.confidence.le (.finite 0) = true ∨
          (∀ sig ∈ mixedProof.sourceReadings, Within mixedProof.timestamp
            (min (writtenFloor mixedProof) (receivedFloor mixedProof)) sig) ∨
          FirstBeyond mixedProof.timestamp
            (max (writtenFloor mixedProof) (receivedFloor mixedProof))
            mixedProof.sourceReadings) := by
  obtain ⟨buf, hbuf⟩ := exists_serializeToBinary fits_mixedProof
  exact ⟨buf, hbuf, verdict_preserved_iff hbuf round_one round_mixedProof (by decide)⟩

/-- The proof of the mixed readings is rejected as it is written, for the reading that is late, and
accepted as it is read. -/
theorem not_verdict_preserved_mixedProof :
    ∃ buf, serializeToBinary mixedProof = .ok buf ∧
      (∀ c ∈ mixedProof.nonce.toList, c.toNat ≤ 0x7f) ∧
      (∀ sig ∈ mixedProof.sourceReadings, ∀ c ∈ sig.source.toList, c.toNat ≤ 0x7f) ∧
      Binary32.round mixedProof.confidence = mixedProof.confidence ∧
      (∀ sig ∈ mixedProof.sourceReadings, Binary32.round sig.uncertainty = sig.uncertainty) ∧
      ¬ 1700000000000 > mixedProof.expiresAt ∧
      ¬ ∃ pot', deserializeFromBinary buf = .ok pot' ∧
        ∃ b, (new.verifyProofOfTime 1700000000000 1700000000000 mixedProof).1 = .ok b ∧
          (new.verifyProofOfTime 1700000000000 1700000000000 pot').1 = .ok b := by
  obtain ⟨buf, hbuf⟩ := exists_serializeToBinary fits_mixedProof
  refine ⟨buf, hbuf, by simp [mixedProof], by simp [mixedProof], round_one, round_mixedProof,
    by decide, ?_⟩
  rintro ⟨pot', hpot', b, hwritten, hread⟩
  rw [deserialize_of_serializeToBinary hbuf, Except.ok.injEq] at hpot'
  subst hpot'
  have hfirst : ¬ (mixedProof.sourceReadings = [] ∨
      mixedProof.confidence.le (.finite 0) = true) := by decide
  rw [verifyProofOfTime_new _ (by decide), if_neg hfirst] at hwritten
  rw [verifyProofOfTime_received _ round_one round_mixedProof (by decide), if_neg hfirst] at hread
  have hfalse : checkTolerance mixedProof.timestamp
      (getToleranceForStratum (lowestStratum mixedProof)) mixedProof.sourceReadings =
        .ok false := by
    decide +kernel
  have htrue : checkTolerance mixedProof.timestamp (receivedFloor mixedProof)
      mixedProof.sourceReadings = .ok true := by
    decide +kernel
  rw [hfalse] at hwritten
  rw [htrue, ← hwritten] at hread
  cases hread

end TimeSynthesis

end OpenTTT
