import OpenTTT.Time.Agreement
import OpenTTT.Time.Generation

/-!
# Self-verification of honest readings

`generateProofOfTime` verifies its own proof before it returns it. The tolerance check compares
each reading with the combined timestamp and allows it its own uncertainty, or a floor given by the
lowest stratum: not the uncertainty of the reading in the middle. Readings that are all true within
their uncertainties may therefore fail it (`not_honestPasses`). `self_verification_iff` says which
readings pass, and `selfConsistent_of_honest` gives a bound on the uncertainties under which honest
ones do.
-/

namespace OpenTTT

namespace TimeSynthesis

/-! ## The tolerance check -/

/-- The uncertainty of a reading in whole nanoseconds, if there is such a number. -/
def ownTolerance (uncertainty : Binary64) : Option ℤ :=
  ((uncertainty.mul (.finite 1000000)).roundHalfUp).toInt?

theorem checkTolerance_cons (timestamp floor : ℤ) (sig : SourceReading)
    (rest : List SourceReading) :
    checkTolerance timestamp floor (sig :: rest) =
      match ownTolerance sig.uncertainty with
      | none => .error .rangeError
      | some own =>
        if |sig.timestamp - timestamp| > max floor own then .ok false
        else checkTolerance timestamp floor rest := by
  rw [checkTolerance, ite_sub_eq_abs, ← ownTolerance]
  cases ownTolerance sig.uncertainty with
  | none => rfl
  | some own =>
    have hmax : (if own > floor then own else floor) = max floor own := by
      split <;> omega
    simp only [hmax]

/-- **The tolerance check** holds if every reading is within its tolerance of the timestamp. -/
theorem checkTolerance_eq_ok_true {timestamp floor : ℤ} {readings : List SourceReading} :
    checkTolerance timestamp floor readings = .ok true ↔
      ∀ sig ∈ readings, ∃ own, ownTolerance sig.uncertainty = some own ∧
        |sig.timestamp - timestamp| ≤ max floor own := by
  induction readings with
  | nil => simp [checkTolerance]
  | cons sig rest ih =>
    rw [checkTolerance_cons, List.forall_mem_cons]
    cases hown : ownTolerance sig.uncertainty with
    | none => simp
    | some own =>
      simp only [Option.some.injEq, exists_eq_left']
      split
      · rename_i hfar
        exact iff_of_false nofun fun h => not_lt.2 h.1 hfar
      · rename_i hnear
        rw [ih]
        exact (and_iff_right (not_lt.1 hnear)).symm

/-! ## The floor of the tolerance -/

/-- The lowest of the strata of readings, starting from another one. -/
def lowestOf (stratum : Binary64) (readings : List TimeReading) : Binary64 :=
  readings.foldl (fun lowest r => if r.stratum.lt lowest then r.stratum else lowest) stratum

theorem lowestStratum_toSourceReading (pot : ProofOfTime) (readings : List TimeReading)
    (h : pot.sourceReadings = readings.map TimeReading.toSourceReading) :
    lowestStratum pot = lowestOf pot.stratum readings := by
  rw [lowestStratum, h, List.foldl_map]
  rfl

/-- The floor of the tolerance for readings: that of the lowest stratum among them, where the
search starts from the stratum of their combination. -/
def floorTolerance (readings : List TimeReading) : ℤ :=
  match combine (sortReadings readings) with
  | some c => getToleranceForStratum (lowestOf c.stratum (sortReadings readings))
  | none => 0

/-- The tolerance of one of some readings. -/
def tolerance (readings : List TimeReading) (r : TimeReading) : ℤ :=
  max (floorTolerance readings) ((ownTolerance r.uncertainty).getD 0)

/-- Readings are self-consistent if their uncertainties are numbers and they agree up to their
tolerances. -/
def SelfConsistent (readings : List TimeReading) : Prop :=
  (∀ r ∈ readings, (ownTolerance r.uncertainty).isSome = true) ∧
    Agree readings (tolerance readings)

/-- The tolerance check on the combination of some readings. -/
theorem checkTolerance_combine_iff {readings : List TimeReading} {c : Combined}
    (hc : combine (sortReadings readings) = some c) :
    checkTolerance c.timestamp (floorTolerance readings)
      ((sortReadings readings).map TimeReading.toSourceReading) = .ok true ↔
      SelfConsistent readings := by
  rw [checkTolerance_eq_ok_true, SelfConsistent, ← within_combine_iff hc, List.forall_mem_map,
    ← forall₂_and]
  have hmem : ∀ r, r ∈ sortReadings readings ↔ r ∈ readings := fun r =>
    (sortReadings_perm readings).mem_iff
  refine forall_congr' fun r => ?_
  rw [hmem]
  refine imp_congr_right fun _ => ?_
  simp only [TimeReading.toSourceReading, tolerance]
  cases ownTolerance r.uncertainty with
  | none => simp
  | some own => simp

/-! ### The lowest stratum -/

/-- `s` is the lowest of some strata. -/
def IsLowest (s : Binary64) (strata : List Binary64) : Prop :=
  s ∈ strata ∧ ∀ x ∈ strata, s.le x = true

/-- The search for the lowest stratum finds it. -/
theorem lowestOf_eq {s stratum : Binary64} {readings : List TimeReading}
    (h : IsLowest s (stratum :: readings.map TimeReading.stratum)) :
    lowestOf stratum readings = s := by
  induction readings generalizing stratum with
  | nil => exact (List.mem_singleton.1 h.1).symm
  | cons r rest ih =>
    obtain ⟨hmem, hle⟩ := h
    have hr : s.le r.stratum = true := hle _ (by simp)
    have hstart : s.le stratum = true := hle _ List.mem_cons_self
    have hrest : ∀ x ∈ rest.map TimeReading.stratum, s.le x = true := fun x hx =>
      hle x (List.mem_cons_of_mem _ (List.mem_cons_of_mem _ hx))
    rw [lowestOf, List.foldl_cons]
    refine ih ⟨?_, ?_⟩
    · rw [List.map_cons, List.mem_cons, List.mem_cons] at hmem
      split
      · rename_i hlt
        rcases hmem with rfl | rfl | hmem
        · exact absurd hlt (Binary64.not_lt_of_le hr)
        · exact List.mem_cons_self
        · exact List.mem_cons_of_mem _ hmem
      · rename_i hlt
        rcases hmem with rfl | rfl | hmem
        · exact List.mem_cons_self
        · rw [Binary64.eq_of_le_of_not_lt hstart hlt]
          exact List.mem_cons_self
        · exact List.mem_cons_of_mem _ hmem
    · refine List.forall_mem_cons.2 ⟨?_, hrest⟩
      split
      · exact hr
      · exact hstart

/-- What the search finds among numbers is the lowest. -/
theorem isLowest_lowestOf {stratum : Binary64} {readings : List TimeReading}
    (hnan : ∀ x ∈ stratum :: readings.map TimeReading.stratum, x ≠ .nan) :
    IsLowest (lowestOf stratum readings) (stratum :: readings.map TimeReading.stratum) := by
  induction readings generalizing stratum with
  | nil =>
    refine ⟨List.mem_cons_self, fun x hx => ?_⟩
    rw [List.map_nil, List.mem_singleton] at hx
    rw [hx]
    exact Binary64.le_refl (hnan stratum List.mem_cons_self)
  | cons r rest ih =>
    rw [lowestOf, List.foldl_cons]
    have hstart : stratum ≠ .nan := hnan _ List.mem_cons_self
    have hr : r.stratum ≠ .nan := hnan _ (by simp)
    have hrest : ∀ x ∈ rest.map TimeReading.stratum, x ≠ .nan := fun x hx =>
      hnan x (List.mem_cons_of_mem _ (List.mem_cons_of_mem _ hx))
    split
    · rename_i hlt
      obtain ⟨hmem, hle⟩ := ih (List.forall_mem_cons.2 ⟨hr, hrest⟩)
      refine ⟨List.mem_cons_of_mem _ hmem, List.forall_mem_cons.2 ⟨?_, hle⟩⟩
      exact Binary64.le_trans (hle _ List.mem_cons_self) (Binary64.le_of_lt hlt)
    · rename_i hlt
      obtain ⟨hmem, hle⟩ := ih (List.forall_mem_cons.2 ⟨hstart, hrest⟩)
      refine ⟨?_, List.forall_mem_cons.2 ⟨hle _ List.mem_cons_self,
        List.forall_mem_cons.2 ⟨?_, fun x hx => hle x (List.mem_cons_of_mem _ hx)⟩⟩⟩
      · rcases List.mem_cons.1 hmem with heq | hmem
        · exact List.mem_cons.2 (Or.inl heq)
        · exact List.mem_cons_of_mem _ (List.mem_cons_of_mem _ hmem)
      · exact Binary64.le_trans (hle _ List.mem_cons_self) (Binary64.le_of_not_lt hr hstart hlt)

/-- The stratum of a combination is one of those of the readings, if these are numbers. -/
theorem combine_stratum_mem {sorted : List TimeReading} {c : Combined}
    (hc : combine sorted = some c) (hnan : ∀ r ∈ sorted, r.stratum ≠ .nan) :
    c.stratum ∈ sorted.map TimeReading.stratum := by
  match sorted with
  | [] => cases hc
  | [r] =>
    cases hc
    simp
  | [r₀, r₁] =>
    cases hc
    have h₀ := hnan r₀ (by simp)
    have h₁ := hnan r₁ (by simp)
    simp only [Binary64.min, h₀, h₁, or_self, if_false]
    split <;> simp
  | r₀ :: r₁ :: r₂ :: rest =>
    rw [combine_of_three] at hc
    obtain ⟨r, hr, rfl⟩ := Option.map_eq_some_iff.1 hc
    exact List.mem_map_of_mem (List.mem_of_getElem? hr)

/-- **The floor is that of the lowest stratum** among the readings. -/
theorem floorTolerance_of_isLowest {readings : List TimeReading} {s : Binary64}
    (h : IsLowest s (readings.map TimeReading.stratum)) :
    floorTolerance readings = getToleranceForStratum s := by
  obtain ⟨hmem, hle⟩ := h
  have hpos : 0 < readings.length := by
    rw [← List.length_map TimeReading.stratum]
    exact List.length_pos_of_mem hmem
  obtain ⟨c, hc⟩ := combine_sortReadings_isSome hpos
  have hperm : ((sortReadings readings).map TimeReading.stratum).Perm
      (readings.map TimeReading.stratum) := (sortReadings_perm readings).map _
  have hnan : ∀ r ∈ sortReadings readings, r.stratum ≠ .nan := by
    intro r hr heq
    have hler := hle r.stratum (hperm.mem_iff.1 (List.mem_map_of_mem hr))
    rw [heq] at hler
    cases s <;> exact Bool.noConfusion hler
  have hstart := combine_stratum_mem hc hnan
  have hlowest : lowestOf c.stratum (sortReadings readings) = s := by
    refine lowestOf_eq ⟨List.mem_cons_of_mem _ (hperm.mem_iff.2 hmem), ?_⟩
    refine List.forall_mem_cons.2 ⟨hle _ (hperm.mem_iff.1 hstart), fun x hx => ?_⟩
    exact hle x (hperm.mem_iff.1 hx)
  simp only [floorTolerance, hc, hlowest]

/-! ## The generation -/

/-- The proof that a generation builds from its combined readings. -/
def builtProof (results : List (Settled TimeReading)) (nonce : String) (issued : ℤ)
    (c : Combined) : ProofOfTime where
  timestamp := c.timestamp
  uncertainty := c.uncertainty
  sources := Binary64.ofNat (sortReadings (fulfilledValues results)).length
  stratum := c.stratum
  confidence := Binary64.div (Binary64.ofNat (sortReadings (fulfilledValues results)).length)
    (Binary64.ofNat results.length)
  sourceReadings := (sortReadings (fulfilledValues results)).map TimeReading.toSourceReading
  nonce := nonce
  expiresAt := issued + 60000

/-- The call with which a generation verifies the proof it builds. -/
def builtCall (results : List (Settled TimeReading)) (nonce : String) (clock : GenerationClock)
    (c : Combined) : VerifyCall :=
  selfVerification clock (builtProof results nonce clock.issued c)

/-- A generation returns a proof if the one it builds verifies. -/
theorem generateProofOfTime_isOk_iff {self : TimeSynthesis} {results : List (Settled TimeReading)}
    {nonce : String} {clock : GenerationClock} {c : Combined}
    (hc : combine (sortReadings (fulfilledValues results)) = some c) :
    (∃ pot, (self.generateProofOfTime results nonce clock).1 = .ok pot) ↔
      (self.verifyCall (builtCall results nonce clock c)).1 = .ok true := by
  have hcall : self.verifyCall (builtCall results nonce clock c) = self.verifyProofOfTime
      clock.expiryNow clock.now (builtProof results nonce clock.issued c) := rfl
  obtain ⟨result, self', hverify⟩ : ∃ result self', self.verifyProofOfTime clock.expiryNow
      clock.now (builtProof results nonce clock.issued c) = (result, self') := ⟨_, _, rfl⟩
  rw [hcall, hverify]
  unfold builtProof at hverify
  simp only [generateProofOfTime, hc, hverify]
  rcases result with e | ok
  · simp
  · cases ok <;> simp

/-- The confidence in at least one reading is positive. -/
theorem not_confidence_le_zero {n m : ℕ} (hn : 0 < n) (hnm : n ≤ m) (hm : m < 2 ^ 32) :
    ¬ (Binary64.div (Binary64.ofNat n) (Binary64.ofNat m)).le (.finite 0) = true := by
  have hn' : (1 : ℚ) ≤ n := by exact_mod_cast hn
  have hm' : (m : ℚ) < 2 ^ 32 := by exact_mod_cast hm
  have hpos : (0 : ℚ) < m := by exact_mod_cast hn.trans_le hnm
  rw [Binary64.ofNat_eq (hnm.trans_lt (by omega)), Binary64.ofNat_eq (by omega : m < 2 ^ 53)]
  simp only [Binary64.div, hpos.ne', if_false]
  refine Binary64.round_pos ?_
  calc (2 : ℚ) ^ (-1074 : ℤ) ≤ 2 ^ (-32 : ℤ) := zpow_le_zpow_right₀ one_le_two (by omega)
    _ = 1 / 2 ^ 32 := by norm_num
    _ ≤ n / m := div_le_div₀ (by positivity) hn' hpos hm'.le

/-- The self-verification of a new nonce in time comes to the tolerance check. -/
theorem verifyCall_builtCall {self : TimeSynthesis} {results : List (Settled TimeReading)}
    {nonce : String} {clock : GenerationClock} {c : Combined}
    (hc : combine (sortReadings (fulfilledValues results)) = some c)
    (hresults : results.length < 2 ^ 32) (hnonce : nonce ∉ self.usedNonces.keys)
    (hclock : clock.expiryNow ≤ clock.issued + 60000) :
    (self.verifyCall (builtCall results nonce clock c)).1 =
      checkTolerance c.timestamp
        (getToleranceForStratum (lowestStratum (builtProof results nonce clock.issued c)))
        ((sortReadings (fulfilledValues results)).map TimeReading.toSourceReading) := by
  have hpos : 0 < (sortReadings (fulfilledValues results)).length := by
    rw [List.length_pos_iff_ne_nil]
    rintro hnil
    rw [hnil] at hc
    cases hc
  have hle : (sortReadings (fulfilledValues results)).length ≤ results.length := by
    rw [length_sortReadings]
    exact length_fulfilledValues_le results
  have hpass : guard.passes (builtCall results nonce clock c) = true := by
    refine guard_passes_iff.2 ⟨?_, not_confidence_le_zero hpos hle hresults, not_lt.2 hclock⟩
    simpa [builtCall, selfVerification, builtProof] using hpos.ne'
  have hfresh : (guard.step self.usedNonces (builtCall results nonce clock c)).1 = true := by
    rw [guard.step_of_passes hpass]
    exact ReplayCache.query_fresh_of_notMem hnonce
  rw [verifyCall_eq, if_pos hfresh]
  rfl

/-- The floor in the self-verification. -/
theorem getToleranceForStratum_builtProof {results : List (Settled TimeReading)} {nonce : String}
    {issued : ℤ} {c : Combined} (hc : combine (sortReadings (fulfilledValues results)) = some c) :
    getToleranceForStratum (lowestStratum (builtProof results nonce issued c)) =
      floorTolerance (fulfilledValues results) := by
  rw [lowestStratum_toSourceReading _ (sortReadings (fulfilledValues results)) rfl]
  simp only [floorTolerance, hc]
  rfl

/-- **Which readings pass the self-verification.** The proof built from some readings passes the
tolerance check if and only if they are self-consistent; and with a new nonce, and in time, so does
the generation return it. -/
theorem self_verification_iff (self : TimeSynthesis) (results : List (Settled TimeReading))
    (nonce : String) (clock : GenerationClock) (hne : fulfilledValues results ≠ []) :
    (∃ c, combine (sortReadings (fulfilledValues results)) = some c ∧
      (checkTolerance c.timestamp
          (getToleranceForStratum (lowestStratum (builtProof results nonce clock.issued c)))
          (builtProof results nonce clock.issued c).sourceReadings = .ok true ↔
        SelfConsistent (fulfilledValues results))) ∧
    (results.length < 2 ^ 32 → nonce ∉ self.usedNonces.keys →
      clock.expiryNow ≤ clock.issued + 60000 →
      ((∃ pot, (self.generateProofOfTime results nonce clock).1 = .ok pot) ↔
        SelfConsistent (fulfilledValues results))) := by
  obtain ⟨c, hc⟩ := combine_sortReadings_isSome (List.length_pos_iff_ne_nil.2 hne)
  have hcheck : checkTolerance c.timestamp
      (getToleranceForStratum (lowestStratum (builtProof results nonce clock.issued c)))
      (builtProof results nonce clock.issued c).sourceReadings = .ok true ↔
        SelfConsistent (fulfilledValues results) := by
    rw [getToleranceForStratum_builtProof hc]
    exact checkTolerance_combine_iff hc
  refine ⟨⟨c, hc, hcheck⟩, fun hresults hnonce hclock => ?_⟩
  have hverify : (self.verifyCall (builtCall results nonce clock c)).1 = checkTolerance c.timestamp
      (getToleranceForStratum (lowestStratum (builtProof results nonce clock.issued c)))
      (builtProof results nonce clock.issued c).sourceReadings :=
    verifyCall_builtCall hc hresults hnonce hclock
  rw [← hcheck, ← hverify]
  exact generateProofOfTime_isOk_iff hc

/-! ## Honest readings -/

/-- A reading is within its uncertainty of the true time `T`. -/
def Honest (T : ℚ) (r : TimeReading) : Prop :=
  match r.uncertainty with
  | .finite q => |(r.timestamp : ℚ) - T| ≤ q * 1000000
  | .infinity negative => negative = false
  | .nan => False

/-- **Honest readings are self-consistent if their uncertainties are small enough**: if every
tolerance covers the sum of any two of them, that of its own reading and another one. -/
theorem selfConsistent_of_honest {readings : List TimeReading} {T : ℚ}
    (hne : readings ≠ []) (hhonest : ∀ r ∈ readings, Honest T r)
    (hown : ∀ r ∈ readings, (ownTolerance r.uncertainty).isSome = true) {bound : TimeReading → ℚ}
    (hbound : ∀ r ∈ readings, r.uncertainty = .finite (bound r))
    (hsum : ∀ r ∈ readings, ∀ s ∈ readings,
      (bound r + bound s) * 1000000 ≤ (tolerance readings r : ℚ)) : SelfConsistent readings := by
  refine ⟨hown, agree_of_near hne fun r hr s hs => ?_⟩
  have htrue : ∀ s ∈ readings, |(s.timestamp : ℚ) - T| ≤ bound s * 1000000 := by
    intro s hs
    have h := hhonest s hs
    rw [Honest, hbound s hs] at h
    exact h
  have hle : |(r.timestamp : ℚ) - s.timestamp| ≤ tolerance readings r := by
    calc |(r.timestamp : ℚ) - s.timestamp|
        ≤ |(r.timestamp : ℚ) - T| + |T - s.timestamp| := abs_sub_le _ _ _
      _ ≤ bound r * 1000000 + bound s * 1000000 := by
          rw [abs_sub_comm T]
          exact add_le_add (htrue r hr) (htrue s hs)
      _ = (bound r + bound s) * 1000000 := (add_mul _ _ _).symm
      _ ≤ tolerance readings r := hsum r hr s hs
  exact_mod_cast hle

/-- That honest readings pass: on a fresh instance, and in time, the generation returns a proof
whenever every reading is within its uncertainty of one true time. -/
def HonestPasses : Prop :=
  ∀ (results : List (Settled TimeReading)) (nonce : String) (clock : GenerationClock) (T : ℚ),
    fulfilledValues results ≠ [] → (∀ r ∈ fulfilledValues results, Honest T r) →
    clock.expiryNow ≤ clock.issued + 60000 →
    ∃ pot, (new.generateProofOfTime results nonce clock).1 = .ok pot

/-- Three Roughtime readings with an uncertainty of 1.5 seconds: 1.4 seconds before, 1.2 and 1.4
seconds after the true time. -/
def coarseResults : List (Settled TimeReading) :=
  [.fulfilled ⟨1699999998600000000, .finite 1500, .finite 2, "roughtime-a"⟩,
    .fulfilled ⟨1700000001200000000, .finite 1500, .finite 2, "roughtime-b"⟩,
    .fulfilled ⟨1700000001400000000, .finite 1500, .finite 2, "roughtime-c"⟩]

theorem honest_coarseResults :
    ∀ r ∈ fulfilledValues coarseResults, Honest 1700000000000000000 r := by
  intro r hr
  simp only [coarseResults, fulfilledValues, List.mem_cons, List.not_mem_nil, or_false] at hr
  rcases hr with rfl | rfl | rfl <;> norm_num [Honest, abs_le]

theorem not_honestPasses : ¬ HonestPasses := by
  intro h
  obtain ⟨pot, hpot⟩ := h coarseResults "5f1c" oneClock 1700000000000000000 (by decide)
    honest_coarseResults (by decide)
  have hfail : (new.generateProofOfTime coarseResults "5f1c" oneClock).1 =
      .error (.timeSynthesisError selfVerifyFailed) := by
    decide +kernel
  rw [hfail] at hpot
  cases hpot

/-- The coarse readings on a fresh instance. -/
theorem self_verification_iff_coarse :
    (∃ c, combine (sortReadings (fulfilledValues coarseResults)) = some c ∧
      (checkTolerance c.timestamp
          (getToleranceForStratum
            (lowestStratum (builtProof coarseResults "5f1c" oneClock.issued c)))
          (builtProof coarseResults "5f1c" oneClock.issued c).sourceReadings = .ok true ↔
        SelfConsistent (fulfilledValues coarseResults))) ∧
    ((∃ pot, (new.generateProofOfTime coarseResults "5f1c" oneClock).1 = .ok pot) ↔
      SelfConsistent (fulfilledValues coarseResults)) := by
  obtain ⟨hcheck, hgenerate⟩ := self_verification_iff new coarseResults "5f1c" oneClock (by decide)
  exact ⟨hcheck, hgenerate (by decide) (by decide) (by decide)⟩

end TimeSynthesis

end OpenTTT
