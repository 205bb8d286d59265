import OpenTTT.Foundations.ReplayTrace
import OpenTTT.Time.BinaryVerdict

/-!
# Judging a proof that is read from bytes

`deserializeFromBinary` takes every word of four bytes for the uncertainty of a reading, those of
the infinities and of `NaN` too. The verifier converts the uncertainty to whole nanoseconds, which
throws for these. `exists_judgement_iff` says for which of the proofs that are read, in which state
and at which time, the verifier returns.
-/

namespace OpenTTT

open Buffer

namespace TimeSynthesis

/-! ## The uncertainties that are read -/

/-- A number that is neither `NaN` nor an infinity. -/
def HasValue (x : Binary64) : Prop := ∃ q, x = .finite q

/-- A number that can be written in four bytes. -/
def IsSingle (x : Binary64) : Prop := ∃ w < 2 ^ 32, x = Binary32.ofWord w

/-- A single has a tolerance if and only if it is finite: a million times it is still a double. -/
theorem isSome_ownTolerance_iff {x : Binary64} (h : IsSingle x) :
    (ownTolerance x).isSome ↔ HasValue x := by
  obtain ⟨w, hw, rfl⟩ := h
  cases hx : Binary32.ofWord w with
  | finite q =>
    have hlt := Binary32.lt_of_ofWord hw hx
    have hproduct : |q * 1000000| < 2 ^ 1022 := by
      rw [abs_mul, abs_of_pos (show (0 : ℚ) < 1000000 by norm_num)]
      calc |q| * 1000000 < 2 ^ 128 * 1000000 := mul_lt_mul_of_pos_right hlt (by norm_num)
        _ ≤ 2 ^ 128 * 2 ^ 20 := by norm_num
        _ = 2 ^ 148 := by norm_num
        _ ≤ 2 ^ 1022 := pow_le_pow_right₀ one_le_two (by omega)
    refine iff_of_true ?_ ⟨q, rfl⟩
    rw [ownTolerance, Binary64.mul, Binary64.round_of_lt hproduct,
      Binary64.toInt?_roundHalfUp_finite, Option.isSome_some]
  | infinity negative =>
    refine iff_of_false ?_ (by simp [HasValue])
    have hmul : (Binary64.infinity negative).mul (.finite 1000000) = .infinity negative := by
      cases negative <;> rfl
    rw [ownTolerance, hmul]
    exact Bool.false_ne_true
  | nan => exact iff_of_false Bool.false_ne_true (by simp [HasValue])

theorem isSingle_of_readFloatBE {buf : Buffer} {offset : ℕ} {x : Binary64}
    (h : buf.readFloatBE offset = .ok x) : IsSingle x := by
  obtain ⟨w, hw, hx⟩ := bind_eq_ok.1 h
  cases hx
  refine ⟨w, ?_, rfl⟩
  unfold readUIntBE at hw
  split at hw
  · cases hw
    calc beValue ((buf.drop offset).take 4) < 256 ^ ((buf.drop offset).take 4).length :=
          beValue_lt _
      _ ≤ 256 ^ 4 := Nat.pow_le_pow_right (by norm_num) (List.length_take_le 4 _)
      _ = 2 ^ 32 := by norm_num
  · cases hw

theorem isSingle_of_readReadings {buf : Buffer} {count offset : ℕ} {readings : List SourceReading}
    (h : readReadings buf count offset = .ok readings) :
    ∀ sig ∈ readings, IsSingle sig.uncertainty ∧ sig.stratum = none := by
  induction count generalizing offset readings with
  | zero =>
    cases h
    simp
  | succ count ih =>
    obtain ⟨nameLen, -, h⟩ := bind_eq_ok.1 h
    obtain ⟨ts, -, h⟩ := bind_eq_ok.1 h
    obtain ⟨unc, hunc, h⟩ := bind_eq_ok.1 h
    obtain ⟨rest, hrest, h⟩ := bind_eq_ok.1 h
    cases h
    exact List.forall_mem_cons.2 ⟨⟨isSingle_of_readFloatBE hunc, rfl⟩, ih hrest⟩

/-- The readings of a proof that is read. -/
theorem readings_of_deserialize {buf : Buffer} {pot : ProofOfTime}
    (h : deserializeFromBinary buf = .ok pot) :
    ∀ sig ∈ pot.sourceReadings, IsSingle sig.uncertainty ∧ sig.stratum = none := by
  obtain ⟨_, -, h⟩ := bind_eq_ok.1 h
  obtain ⟨_, -, h⟩ := bind_eq_ok.1 h
  obtain ⟨_, -, h⟩ := bind_eq_ok.1 h
  obtain ⟨_, -, h⟩ := bind_eq_ok.1 h
  obtain ⟨_, -, h⟩ := bind_eq_ok.1 h
  obtain ⟨_, -, h⟩ := bind_eq_ok.1 h
  obtain ⟨_, -, h⟩ := bind_eq_ok.1 h
  obtain ⟨_, -, h⟩ := bind_eq_ok.1 h
  obtain ⟨readings, hreadings, h⟩ := bind_eq_ok.1 h
  cases h
  exact isSingle_of_readReadings hreadings

/-! ## The loop over the readings -/

/-- A reading beyond its tolerance, before which all uncertainties have a value. -/
def DecidedBeyond (timestamp floor : ℤ) (readings : List SourceReading) : Prop :=
  ∃ before sig after, readings = before ++ sig :: after ∧
    (∀ other ∈ before, HasValue other.uncertainty) ∧ Beyond timestamp floor sig

theorem decidedBeyond_cons_iff {timestamp floor : ℤ} {sig : SourceReading}
    {readings : List SourceReading} :
    DecidedBeyond timestamp floor (sig :: readings) ↔
      Beyond timestamp floor sig ∨
        HasValue sig.uncertainty ∧ DecidedBeyond timestamp floor readings :=
  exists_first_cons_iff

/-- The loop returns if all uncertainties have a value, or a reading beyond its tolerance comes
first. -/
theorem exists_checkTolerance_iff_decided {timestamp floor : ℤ} {readings : List SourceReading}
    (hsingle : ∀ sig ∈ readings, IsSingle sig.uncertainty) :
    (∃ b, checkTolerance timestamp floor readings = .ok b) ↔
      (∀ sig ∈ readings, HasValue sig.uncertainty) ∨ DecidedBeyond timestamp floor readings := by
  induction readings with
  | nil => exact iff_of_true ⟨true, rfl⟩ (Or.inl (by simp))
  | cons first rest ih =>
    obtain ⟨hfirst, hrest⟩ := List.forall_mem_cons.1 hsingle
    have hvalue := isSome_ownTolerance_iff hfirst
    rw [checkTolerance_cons, decidedBeyond_cons_iff, List.forall_mem_cons]
    cases hown : ownTolerance first.uncertainty with
    | none =>
      rw [hown] at hvalue
      have hforeign : ¬ HasValue first.uncertainty := fun h => Bool.false_ne_true (hvalue.2 h)
      have hbeyond : ¬ Beyond timestamp floor first := by simp [Beyond, hown]
      simp [hforeign, hbeyond]
    | some own =>
      have hhas : HasValue first.uncertainty := hvalue.1 (by rw [hown, Option.isSome_some])
      rw [beyond_iff hown, and_iff_right hhas, and_iff_right hhas]
      dsimp only
      by_cases hfar : |first.timestamp - timestamp| > max floor own
      · rw [if_pos hfar]
        exact iff_of_true ⟨false, rfl⟩ (Or.inr (Or.inl hfar))
      · rw [if_neg hfar, or_iff_right hfar]
        exact ih hrest

/-! ## When there is a judgement -/

/-- The stratum of a proof that is read is the lowest: its readings have none. -/
theorem lowestStratum_of_deserialize {buf : Buffer} {pot : ProofOfTime}
    (h : deserializeFromBinary buf = .ok pot) : lowestStratum pot = pot.stratum := by
  have hnone : ∀ sig ∈ pot.sourceReadings, sig.stratum = none := fun sig hsig =>
    (readings_of_deserialize h sig hsig).2
  rw [lowestStratum]
  generalize pot.stratum = stratum
  generalize pot.sourceReadings = readings at hnone
  induction readings with
  | nil => rfl
  | cons sig readings ih =>
    obtain ⟨hsig, hreadings⟩ := List.forall_mem_cons.1 hnone
    rw [List.foldl_cons, hsig]
    exact ih hreadings

/-- The proofs that are refused before a reading is looked at. -/
def RefusedFirst (self : TimeSynthesis) (expiryNow now : ℤ) (pot : ProofOfTime) : Prop :=
  pot.sourceReadings = [] ∨ pot.confidence.le (.finite 0) = true ∨ expiryNow > pot.expiresAt ∨
    pot.nonce ∈ (ReplayCache.live MAX_NONCE_CACHE NONCE_TTL_MS now self.usedNonces).keys

/-- The loop over the readings is reached by the proofs that are not refused first. -/
theorem verifyProofOfTime_fst (self : TimeSynthesis) (expiryNow now : ℤ) (pot : ProofOfTime) :
    (self.RefusedFirst expiryNow now pot →
      (self.verifyProofOfTime expiryNow now pot).1 = .ok false) ∧
    (¬ self.RefusedFirst expiryNow now pot →
      (self.verifyProofOfTime expiryNow now pot).1 =
        checkTolerance pot.timestamp (getToleranceForStratum (lowestStratum pot))
          pot.sourceReadings) := by
  have hcall : (self.verifyProofOfTime expiryNow now pot).1 = _ :=
    congrArg Prod.fst (self.verifyCall_eq ⟨expiryNow, now, pot⟩)
  have hpasses := @guard_passes_iff ⟨expiryNow, now, pot⟩
  rw [List.length_eq_zero_iff] at hpasses
  rw [hcall]
  by_cases hp : guard.passes ⟨expiryNow, now, pot⟩ = true
  · obtain ⟨hreadings, hconfidence, hexpiry⟩ := hpasses.1 hp
    have hrefused : self.RefusedFirst expiryNow now pot ↔ pot.nonce ∈
        (ReplayCache.live MAX_NONCE_CACHE NONCE_TTL_MS now self.usedNonces).keys := by
      simp [RefusedFirst, hreadings, hconfidence, not_lt.1 hexpiry]
    have hfresh : (guard.step self.usedNonces ⟨expiryNow, now, pot⟩).1 = true ↔ pot.nonce ∉
        (ReplayCache.live MAX_NONCE_CACHE NONCE_TTL_MS now self.usedNonces).keys := by
      rw [guard.step_of_passes hp]
      exact ReplayCache.query_fst_live pot.nonce
    rw [hrefused]
    exact ⟨fun hmem => if_neg fun h => hfresh.1 h hmem, fun hmem => if_pos (hfresh.2 hmem)⟩
  · have hrefused : self.RefusedFirst expiryNow now pot := by
      rw [hpasses] at hp
      unfold RefusedFirst
      tauto
    rw [guard.step_of_not_passes hp]
    exact ⟨fun _ => rfl, fun h => absurd hrefused h⟩

/-- **When a proof that is read is judged**: it is refused before its readings are looked at, or all
their uncertainties have a value, or a reading beyond its tolerance comes before the first that has
none. -/
theorem exists_judgement_iff {buf : Buffer} {pot : ProofOfTime}
    (h : deserializeFromBinary buf = .ok pot) (self : TimeSynthesis) (expiryNow now : ℤ) :
    (∃ b, (self.verifyProofOfTime expiryNow now pot).1 = .ok b) ↔
      self.RefusedFirst expiryNow now pot ∨
      (∀ sig ∈ pot.sourceReadings, HasValue sig.uncertainty) ∨
      DecidedBeyond pot.timestamp (getToleranceForStratum pot.stratum) pot.sourceReadings := by
  obtain ⟨hfirst, hloop⟩ := self.verifyProofOfTime_fst expiryNow now pot
  by_cases hrefused : self.RefusedFirst expiryNow now pot
  · exact iff_of_true ⟨false, hfirst hrefused⟩ (Or.inl hrefused)
  · rw [hloop hrefused, lowestStratum_of_deserialize h, or_iff_right hrefused]
    exact exists_checkTolerance_iff_decided fun sig hsig => (readings_of_deserialize h sig hsig).1

/-- A proof with one reading, whose uncertainty is `NaN`. -/
def nanReading : Buffer :=
  [0, 0, 0, 0, 0, 0, 0, 0, 0, 0, 0, 0, 1, 1, 0x3f, 0x80, 0, 0, 1, 0,
    0x7f, 0xff, 0xff, 0xff, 0xff, 0xff, 0xff, 0xff,
    0, 0, 0, 0, 0, 0, 0, 0, 0, 0x7f, 0xc0, 0, 0]

/-- What is read from it. -/
def nanProof : ProofOfTime :=
  { timestamp := 0
    uncertainty := .finite 0
    sources := .finite 1
    stratum := .finite 1
    confidence := .finite 1
    sourceReadings := [⟨"", 0, .nan, none⟩]
    nonce := ""
    expiresAt := 0x7fffffffffffffff }

theorem deserialize_nanReading : deserializeFromBinary nanReading = .ok nanProof := by
  decide +kernel

theorem exists_judgement_iff_nanReading :
    deserializeFromBinary nanReading = .ok nanProof ∧
      ((∃ b, (new.verifyProofOfTime 1700000000000 1700000000000 nanProof).1 = .ok b) ↔
        new.RefusedFirst 1700000000000 1700000000000 nanProof ∨
        (∀ sig ∈ nanProof.sourceReadings, HasValue sig.uncertainty) ∨
        DecidedBeyond nanProof.timestamp (getToleranceForStratum nanProof.stratum)
          nanProof.sourceReadings) :=
  ⟨deserialize_nanReading,
    exists_judgement_iff deserialize_nanReading new 1700000000000 1700000000000⟩

/-- Every proof that is read is judged, by every instance, at every time. -/
def JudgesWhatIsRead : Prop :=
  ∀ buf pot, deserializeFromBinary buf = .ok pot → ∀ (self : TimeSynthesis) (expiryNow now : ℤ),
    ∃ b, (self.verifyProofOfTime expiryNow now pot).1 = .ok b

/-- The uncertainty `NaN` is read, and there is no `BigInt` of a million times it. -/
theorem not_judgesWhatIsRead : ¬ JudgesWhatIsRead := by
  intro h
  obtain ⟨b, hb⟩ := h nanReading nanProof deserialize_nanReading new 1700000000000 1700000000000
  have hthrown : (new.verifyProofOfTime 1700000000000 1700000000000 nanProof).1 =
      .error .rangeError := by
    decide +kernel
  rw [hthrown] at hb
  cases hb

end TimeSynthesis

end OpenTTT
