import OpenTTT.Time.SelfVerification

/-!
# The order of the sources

The readings are sorted by their timestamps alone. So the timestamp of a synthesis does not depend
on the order of the sources, and neither does what is made of one or two readings. Of more, the one
in the middle gives its uncertainty and its stratum, and where several readings have the timestamp
of the middle it is the order of the sources that decides which of them that is.

`MiddleAgrees` says that it makes no difference. `synthesis_order` has what holds for every order
without it, and what with it: for `synthesize` it is also necessary.
-/

namespace OpenTTT

open OrderStatistic

/-! ## The readings in the middle -/

/-- The reading has the timestamp in the middle of some readings. -/
def AtMiddle (readings : List TimeReading) (r : TimeReading) : Prop :=
  AtRank TimeReading.timestamp readings (readings.length / 2) r

instance (readings : List TimeReading) (r : TimeReading) : Decidable (AtMiddle readings r) :=
  inferInstanceAs (Decidable (AtRank _ _ _ _))

/-- The readings with the timestamp in the middle of more than two agree in `f`. -/
def MiddleAgrees {γ : Type*} (f : TimeReading → γ) (readings : List TimeReading) : Prop :=
  2 < readings.length → ∀ r ∈ readings, ∀ s ∈ readings,
    AtMiddle readings r → AtMiddle readings s → f r = f s

instance {γ : Type*} [DecidableEq γ] (f : TimeReading → γ) (readings : List TimeReading) :
    Decidable (MiddleAgrees f readings) :=
  inferInstanceAs (Decidable (_ → _))

/-- The readings in the middle have the same timestamp. -/
theorem middleAgrees_timestamp (readings : List TimeReading) :
    MiddleAgrees TimeReading.timestamp readings :=
  fun hlen _ _ _ _ hr hs => key_eq_of_atRank (by omega) hr hs

/-- What a single reading is combined to. -/
def TimeReading.combined (r : TimeReading) : Combined := ⟨r.timestamp, r.uncertainty, r.stratum⟩

theorem combine_of_two_lt {s : List TimeReading} (h : 2 < s.length) :
    combine s = s[s.length / 2]?.map TimeReading.combined := by
  match s with
  | r₀ :: r₁ :: r₂ :: rest => exact combine_of_three r₀ r₁ r₂ rest

/-- As their timestamps are the same, it is their uncertainties and strata that have to agree. -/
theorem middleAgrees_combined_iff {readings : List TimeReading} :
    MiddleAgrees TimeReading.combined readings ↔
      MiddleAgrees (fun r => (r.uncertainty, r.stratum)) readings := by
  refine forall_congr' fun hlen => forall₂_congr fun r hr => forall₂_congr fun s hs =>
    forall₂_congr fun hrm hsm => ?_
  rw [TimeReading.combined, TimeReading.combined, Combined.mk.injEq, Prod.mk.injEq,
    middleAgrees_timestamp readings hlen r hr s hs hrm hsm]
  exact and_iff_right rfl

/-! ## Permuted readings -/

/-- One or two readings are combined to the same in every order. -/
theorem combine_sortReadings_of_le {l l' : List TimeReading} (h : l'.Perm l)
    (hlen : l.length ≤ 2) : combine (sortReadings l') = combine (sortReadings l) := by
  have hsorted : (sortReadings l').Perm (sortReadings l) :=
    (sortReadings_perm l').trans (h.trans (sortReadings_perm l).symm)
  rw [← length_sortReadings] at hlen
  generalize sortReadings l' = s' at hsorted ⊢
  generalize sortReadings l = s at hsorted hlen ⊢
  match s with
  | [] => rw [hsorted.eq_nil]
  | [r] => rw [List.perm_singleton.1 hsorted]
  | [r₀, r₁] =>
    rcases List.perm_pair.1 hsorted with rfl | rfl
    · rfl
    · simp only [combine, add_comm r₁.timestamp, Binary64.add_comm r₁.uncertainty,
        Binary64.min_comm r₁.stratum]
  | r₀ :: r₁ :: r₂ :: rest =>
    rw [List.length_cons, List.length_cons, List.length_cons] at hlen
    omega

/-- **What is taken of the combined readings does not depend on their order** if and only if the
readings in the middle agree in it. -/
theorem combine_perm_iff {γ : Type*} {g : Combined → γ} {l : List TimeReading} :
    (∀ l' : List TimeReading, l'.Perm l →
      (combine (sortReadings l')).map g = (combine (sortReadings l)).map g) ↔
      MiddleAgrees (g ∘ TimeReading.combined) l := by
  by_cases hlen : 2 < l.length
  · have hcombine (l' : List TimeReading) (h : l'.Perm l) : (combine (sortReadings l')).map g =
        (sortBy TimeReading.timestamp l')[l.length / 2]?.map (g ∘ TimeReading.combined) := by
      rw [combine_of_two_lt (by rwa [length_sortReadings, h.length_eq]), length_sortReadings,
        h.length_eq, Option.map_map]
      rfl
    have hk : l.length / 2 < l.length := by omega
    refine Iff.trans (forall₂_congr fun l' h => ?_)
      ((getElem_sortBy_perm_iff hk).trans (imp_iff_right hlen).symm)
    rw [hcombine l' h, hcombine l (.refl l)]
  · refine iff_of_true (fun l' h => ?_) (absurd · hlen)
    rw [combine_sortReadings_of_le h (not_lt.1 hlen)]

/-! ## Permuted sources -/

theorem fulfilledValues_perm {α : Type*} {results results' : List (Settled α)}
    (h : results'.Perm results) : (fulfilledValues results').Perm (fulfilledValues results) := by
  induction h with
  | nil => exact .nil
  | cons result _ ih =>
    cases result with
    | fulfilled value => exact ih.cons value
    | rejected reason => exact ih
  | swap first second results =>
    cases first <;> cases second <;> first | exact .swap _ _ _ | exact .refl _
  | trans _ _ ih ih' => exact ih.trans ih'

theorem fulfilledValues_map_append {α : Type*} (l : List α) (rest : List (Settled α)) :
    fulfilledValues (l.map Settled.fulfilled ++ rest) = l ++ fulfilledValues rest := by
  induction l with
  | nil => rfl
  | cons value l ih => exact congrArg (value :: ·) ih

/-- The requests that are fulfilled can be put in front of the others. -/
theorem exists_perm_append {α : Type*} (results : List (Settled α)) :
    ∃ rest, fulfilledValues rest = [] ∧
      ((fulfilledValues results).map Settled.fulfilled ++ rest).Perm results := by
  induction results with
  | nil => exact ⟨[], rfl, .nil⟩
  | cons result results ih =>
    obtain ⟨rest, hrest, hperm⟩ := ih
    cases result with
    | fulfilled value => exact ⟨rest, hrest, hperm.cons _⟩
    | rejected reason =>
      exact ⟨.rejected reason :: rest, hrest, List.perm_middle.trans (hperm.cons _)⟩

/-- Every order of the readings comes from an order of the sources. -/
theorem exists_perm_fulfilledValues {α : Type*} {results : List (Settled α)} {l : List α}
    (h : l.Perm (fulfilledValues results)) :
    ∃ results' : List (Settled α), results'.Perm results ∧ fulfilledValues results' = l := by
  obtain ⟨rest, hrest, hperm⟩ := exists_perm_append results
  refine ⟨l.map Settled.fulfilled ++ rest, ((h.map _).append_right rest).trans hperm, ?_⟩
  rw [fulfilledValues_map_append, hrest, List.append_nil]

/-- As `combine_perm_iff`, for the orders of the sources. -/
theorem combine_results_perm_iff {γ : Type*} {g : Combined → γ}
    {results : List (Settled TimeReading)} :
    (∀ results' : List (Settled TimeReading), results'.Perm results →
      (combine (sortReadings (fulfilledValues results'))).map g =
        (combine (sortReadings (fulfilledValues results))).map g) ↔
      MiddleAgrees (g ∘ TimeReading.combined) (fulfilledValues results) := by
  rw [← combine_perm_iff]
  constructor
  · intro h l hl
    obtain ⟨results', hperm, rfl⟩ := exists_perm_fulfilledValues hl
    exact h results' hperm
  · exact fun h results' hperm => h _ (fulfilledValues_perm hperm)

/-- The timestamp of the combined readings does not depend on their order. -/
theorem combine_timestamp_perm {results results' : List (Settled TimeReading)}
    (h : results'.Perm results) :
    (combine (sortReadings (fulfilledValues results'))).map Combined.timestamp =
      (combine (sortReadings (fulfilledValues results))).map Combined.timestamp :=
  (combine_results_perm_iff (g := Combined.timestamp)).2 (middleAgrees_timestamp _) results' h

/-! ## The synthesized time -/

namespace TimeSynthesis

/-- What a synthesis returns for combined readings. -/
def synthesized (results : List (Settled TimeReading)) (c : Combined) : SynthesizedTime where
  timestamp := c.timestamp
  confidence := Binary64.div (Binary64.ofNat (fulfilledValues results).length)
    (Binary64.ofNat results.length)
  uncertainty := c.uncertainty
  sources := Binary64.ofNat (fulfilledValues results).length
  stratum := c.stratum

/-- A synthesis is its combined readings. -/
theorem synthesize_eq (results : List (Settled TimeReading)) :
    synthesize results =
      match combine (sortReadings (fulfilledValues results)) with
      | none => .error (.timeSynthesisError allSourcesFailed)
      | some c => .ok (synthesized results c) := by
  unfold synthesize
  rcases hr : fulfilledValues results with _ | ⟨r₀, _ | ⟨r₁, rest⟩⟩
  · rfl
  · simp only [sortReadings, List.insertionSort_cons, List.insertionSort_nil, List.orderedInsert,
      combine, synthesized, hr]
    rfl
  · have hpos : 0 < (r₀ :: r₁ :: rest).length := Nat.succ_pos _
    obtain ⟨c, hc⟩ := combine_sortReadings_isSome hpos
    simp only [hc, synthesized, hr]

/-- The timestamp of a synthesis does not depend on the order of the sources. -/
theorem synthesize_map_timestamp {results results' : List (Settled TimeReading)}
    (h : results'.Perm results) :
    (synthesize results').map SynthesizedTime.timestamp =
      (synthesize results).map SynthesizedTime.timestamp := by
  have hcombine := combine_timestamp_perm h
  rw [synthesize_eq, synthesize_eq]
  cases hc : combine (sortReadings (fulfilledValues results)) with
  | none =>
    rw [hc, Option.map_none, Option.map_eq_none_iff] at hcombine
    rw [hcombine]
  | some c =>
    rw [hc, Option.map_some, Option.map_eq_some_iff] at hcombine
    obtain ⟨c', hc', htime⟩ := hcombine
    rw [hc']
    exact congrArg Except.ok htime

theorem synthesize_eq_iff {results results' : List (Settled TimeReading)}
    (h : results'.Perm results) : synthesize results' = synthesize results ↔
      combine (sortReadings (fulfilledValues results')) =
        combine (sortReadings (fulfilledValues results)) := by
  have hsynthesized : synthesized results' = synthesized results := by
    funext c
    rw [synthesized, synthesized, (fulfilledValues_perm h).length_eq, h.length_eq]
  rw [synthesize_eq, synthesize_eq, hsynthesized]
  constructor
  · intro heq
    split at heq <;> split at heq
    · rename_i hc' _ hc
      rw [hc', hc]
    · cases heq
    · cases heq
    · rename_i c' hc' _ c hc
      rw [Except.ok.injEq, synthesized, synthesized, SynthesizedTime.mk.injEq] at heq
      obtain ⟨htime, -, huncertainty, -, hstratum⟩ := heq
      rw [hc', hc]
      rw [Option.some.injEq, Combined.mk.injEq]
      exact ⟨htime, huncertainty, hstratum⟩
  · intro heq
    rw [heq]

/-- **When a synthesis does not depend on the order of the sources**: if the readings in the middle
have the same uncertainty and stratum. -/
theorem synthesize_perm_iff {results : List (Settled TimeReading)} :
    (∀ results' : List (Settled TimeReading), results'.Perm results →
      synthesize results' = synthesize results) ↔
      MiddleAgrees (fun r => (r.uncertainty, r.stratum)) (fulfilledValues results) := by
  rw [← middleAgrees_combined_iff]
  refine (forall₂_congr fun results' h => ?_).trans
    (combine_results_perm_iff (g := id))
  rw [synthesize_eq_iff h, Option.map_id, id, id]

/-! ## Proofs of time -/

/-- What generated proofs agree in is what their combined readings agree in. -/
theorem generated_agree {self self' : TimeSynthesis} {results results' : List (Settled TimeReading)}
    {nonce nonce' : String} {clock clock' : GenerationClock} {pot pot' : ProofOfTime}
    (h : results'.Perm results) (hpot : (self.generateProofOfTime results nonce clock).1 = .ok pot)
    (hpot' : (self'.generateProofOfTime results' nonce' clock').1 = .ok pot') :
    pot'.timestamp = pot.timestamp ∧
      (MiddleAgrees (fun r => (r.uncertainty, r.stratum)) (fulfilledValues results) →
        pot'.uncertainty = pot.uncertainty ∧ pot'.stratum = pot.stratum) := by
  obtain ⟨hc, -⟩ := generateProofOfTime_ok hpot
  obtain ⟨hc', -⟩ := generateProofOfTime_ok hpot'
  constructor
  · have htime := combine_timestamp_perm h
    rw [hc, hc', Option.map_some, Option.map_some] at htime
    exact Option.some.inj htime
  · intro hagree
    have hcombine := (synthesize_eq_iff h).1 (synthesize_perm_iff.2 hagree results' h)
    rw [hc, hc', Option.some.injEq, Combined.mk.injEq] at hcombine
    exact hcombine.2

/-- The lowest stratum does not depend on the order of the readings. -/
theorem lowestOf_perm {l l' : List TimeReading} (h : l'.Perm l) (stratum : Binary64) :
    lowestOf stratum l' = lowestOf stratum l :=
  h.foldl_eq' (fun r _ s _ lowest => Binary64.lower_right_comm lowest r.stratum s.stratum) stratum

/-- The tolerance check on the same readings in another order. -/
theorem checkTolerance_perm {timestamp floor : ℤ} {l l' : List SourceReading} (h : l'.Perm l) :
    checkTolerance timestamp floor l' = .ok true ↔ checkTolerance timestamp floor l = .ok true := by
  rw [checkTolerance_eq_ok_true, checkTolerance_eq_ok_true]
  exact forall_congr' fun sig => by rw [h.mem_iff]

/-- The proofs built from permuted readings pass the same checks, if the same time is proved and the
same stratum is the lowest. -/
theorem verifyCall_builtCall_perm {self : TimeSynthesis}
    {results results' : List (Settled TimeReading)} {nonce : String} {clock : GenerationClock}
    {c c' : Combined} (h : results'.Perm results) (htime : c'.timestamp = c.timestamp)
    (hlowest : lowestOf c'.stratum (sortReadings (fulfilledValues results)) =
      lowestOf c.stratum (sortReadings (fulfilledValues results))) :
    (self.verifyCall (builtCall results' nonce clock c')).1 = .ok true ↔
      (self.verifyCall (builtCall results nonce clock c)).1 = .ok true := by
  have hsorted : (sortReadings (fulfilledValues results')).Perm
      (sortReadings (fulfilledValues results)) :=
    (sortReadings_perm _).trans ((fulfilledValues_perm h).trans (sortReadings_perm _).symm)
  have hreadings : (builtProof results' nonce clock.issued c').sourceReadings.Perm
      (builtProof results nonce clock.issued c).sourceReadings := hsorted.map _
  have hfloor : lowestStratum (builtProof results' nonce clock.issued c') =
      lowestStratum (builtProof results nonce clock.issued c) := by
    rw [lowestStratum_toSourceReading _ (sortReadings (fulfilledValues results')) rfl,
      lowestStratum_toSourceReading _ (sortReadings (fulfilledValues results)) rfl]
    exact (lowestOf_perm hsorted c'.stratum).trans hlowest
  have hpasses : guard.passes (builtCall results' nonce clock c') =
      guard.passes (builtCall results nonce clock c) := by
    simp only [guard, passesFirst, builtCall, selfVerification, hreadings.length_eq]
    simp only [builtProof, hsorted.length_eq, h.length_eq]
    rfl
  have hstep : guard.step self.usedNonces (builtCall results' nonce clock c') =
      guard.step self.usedNonces (builtCall results nonce clock c) := by
    rw [ReplayCache.Guard.step, ReplayCache.Guard.step, hpasses]
    rfl
  have hproved : (builtProof results' nonce clock.issued c').timestamp =
      (builtProof results nonce clock.issued c).timestamp := htime
  rw [verifyCall_eq, verifyCall_eq, hstep]
  split
  · simp only [builtCall, selfVerification, hfloor, hproved]
    exact checkTolerance_perm hreadings
  · exact Iff.rfl

/-- Without a stratum that is no number, the search for the lowest one does not depend on where it
starts. -/
theorem lowestOf_combined {l : List TimeReading} {c c' : Combined}
    (hc : combine (sortReadings l) = some c) {l' : List TimeReading} (h : l'.Perm l)
    (hc' : combine (sortReadings l') = some c') (hnan : ∀ r ∈ l, r.stratum ≠ .nan) :
    lowestOf c'.stratum (sortReadings l) = lowestOf c.stratum (sortReadings l) := by
  have hsorted : ∀ r ∈ sortReadings l, r.stratum ≠ .nan := fun r hr =>
    hnan r ((sortReadings_perm l).mem_iff.1 hr)
  have hperm : (sortReadings l').Perm (sortReadings l) :=
    (sortReadings_perm l').trans (h.trans (sortReadings_perm l).symm)
  have hmem := combine_stratum_mem hc hsorted
  have hmem' : c'.stratum ∈ (sortReadings l).map TimeReading.stratum :=
    (hperm.map _).mem_iff.1
      (combine_stratum_mem hc' fun r hr => hsorted r (hperm.mem_iff.1 hr))
  have hstrata : ∀ x ∈ c.stratum :: (sortReadings l).map TimeReading.stratum, x ≠ .nan := by
    refine List.forall_mem_cons.2 ⟨?_, List.forall_mem_map.2 hsorted⟩
    obtain ⟨r, hr, heq⟩ := List.mem_map.1 hmem
    exact heq ▸ hsorted r hr
  obtain ⟨hlowest, hle⟩ := isLowest_lowestOf hstrata
  refine lowestOf_eq ⟨?_, ?_⟩
  · rcases List.mem_cons.1 hlowest with heq | hlowest
    · rw [heq]
      exact List.mem_cons_of_mem _ hmem
    · exact List.mem_cons_of_mem _ hlowest
  · exact List.forall_mem_cons.2
      ⟨hle _ (List.mem_cons_of_mem _ hmem'), fun x hx => hle x (List.mem_cons_of_mem _ hx)⟩

/-- **A generation returns a proof in every order of the sources or in none**, if the strata are
numbers, or else the readings in the middle agree. -/
theorem generateProofOfTime_isOk_perm {self : TimeSynthesis}
    {results results' : List (Settled TimeReading)} {nonce : String} {clock : GenerationClock}
    (h : results'.Perm results)
    (hnumbers : (∀ r ∈ fulfilledValues results, r.stratum ≠ .nan) ∨
      MiddleAgrees (fun r => (r.uncertainty, r.stratum)) (fulfilledValues results)) :
    (∃ pot, (self.generateProofOfTime results' nonce clock).1 = .ok pot) ↔
      ∃ pot, (self.generateProofOfTime results nonce clock).1 = .ok pot := by
  have htime := combine_timestamp_perm h
  cases hc : combine (sortReadings (fulfilledValues results)) with
  | none =>
    rw [hc, Option.map_none, Option.map_eq_none_iff] at htime
    simp [generateProofOfTime, hc, htime]
  | some c =>
    rw [hc, Option.map_some, Option.map_eq_some_iff] at htime
    obtain ⟨c', hc', htime⟩ := htime
    rw [generateProofOfTime_isOk_iff hc, generateProofOfTime_isOk_iff hc']
    refine verifyCall_builtCall_perm h htime ?_
    rcases hnumbers with hnan | hagree
    · exact lowestOf_combined hc (fulfilledValues_perm h) hc' hnan
    · have hcombine := (synthesize_eq_iff h).1 (synthesize_perm_iff.2 hagree results' h)
      rw [hc, hc', Option.some.injEq] at hcombine
      rw [hcombine]

end TimeSynthesis

/-- What is taken of a proof of the HTTPS client does not depend on the order of its sources, if
that of the combined readings does not. -/
theorem HttpOnlyClient.generatePoT_congr {γ : Type} {g : ℤ → Binary64 → γ}
    {hmacSha256 : HmacSha256} {self : HttpOnlyClient} {results results' : List (Settled RawReading)}
    {nonce nonce' : String} {now now' : ℤ}
    (h : (combine (sortReadings (fulfilledValues results'))).map
        (fun c => g c.timestamp c.stratum) =
      (combine (sortReadings (fulfilledValues results))).map fun c => g c.timestamp c.stratum) :
    (self.generatePoT hmacSha256 results' nonce' now').map
        (fun pot => g pot.timestamp pot.stratum) =
      (self.generatePoT hmacSha256 results nonce now).map
        fun pot => g pot.timestamp pot.stratum := by
  unfold HttpOnlyClient.generatePoT
  cases hc : combine (sortReadings (fulfilledValues results)) with
  | none =>
    rw [hc, Option.map_none, Option.map_eq_none_iff] at h
    simp only [hc, h]
  | some c =>
    rw [hc, Option.map_some, Option.map_eq_some_iff] at h
    obtain ⟨c', hc', hg⟩ := h
    simp only [hc, hc']
    cases (self.expirySeconds.mul (.finite 1000)).toInt? with
    | none => rfl
    | some expiryMs => exact congrArg Except.ok hg

/-! ## Synthesis and the order of the sources -/

/-- **The order of the sources.** The timestamp never depends on it: not for `synthesize`, not for
the generated proofs of time, and not for those of the HTTPS client; and neither does whether a
proof is generated, as strata are numbers. The uncertainty and the stratum of a synthesis do not
depend on it if and only if the readings in the middle agree in them, and then the generated proofs
agree too. -/
theorem synthesis_order (results : List (Settled TimeReading)) :
    ((∀ results' : List (Settled TimeReading), results'.Perm results →
        TimeSynthesis.synthesize results' = TimeSynthesis.synthesize results) ↔
      MiddleAgrees (fun r => (r.uncertainty, r.stratum)) (fulfilledValues results)) ∧
    ∀ results' : List (Settled TimeReading), results'.Perm results →
      (TimeSynthesis.synthesize results').map SynthesizedTime.timestamp =
        (TimeSynthesis.synthesize results).map SynthesizedTime.timestamp ∧
      (∀ (self self' : TimeSynthesis) (nonce nonce' : String)
        (clock clock' : TimeSynthesis.GenerationClock) (pot pot' : ProofOfTime),
        (self.generateProofOfTime results nonce clock).1 = .ok pot →
        (self'.generateProofOfTime results' nonce' clock').1 = .ok pot' →
        pot'.timestamp = pot.timestamp ∧
          (MiddleAgrees (fun r => (r.uncertainty, r.stratum)) (fulfilledValues results) →
            pot'.uncertainty = pot.uncertainty ∧ pot'.stratum = pot.stratum)) ∧
      ((∀ r ∈ fulfilledValues results, r.stratum ≠ .nan) ∨
          MiddleAgrees (fun r => (r.uncertainty, r.stratum)) (fulfilledValues results) →
        ∀ (self : TimeSynthesis) (nonce : String) (clock : TimeSynthesis.GenerationClock),
          (∃ pot, (self.generateProofOfTime results' nonce clock).1 = .ok pot) ↔
            ∃ pot, (self.generateProofOfTime results nonce clock).1 = .ok pot) ∧
      ∀ (hmacSha256 : HmacSha256) (self : HttpOnlyClient) (nonce nonce' : String) (now now' : ℤ),
        (self.generatePoT hmacSha256 results' nonce' now').map HttpPoT.timestamp =
          (self.generatePoT hmacSha256 results nonce now).map HttpPoT.timestamp ∧
        (MiddleAgrees TimeReading.stratum (fulfilledValues results) →
          (self.generatePoT hmacSha256 results' nonce' now').map HttpPoT.stratum =
            (self.generatePoT hmacSha256 results nonce now).map HttpPoT.stratum) := by
  refine ⟨TimeSynthesis.synthesize_perm_iff, fun results' h => ⟨?_, ?_, ?_, ?_⟩⟩
  · exact TimeSynthesis.synthesize_map_timestamp h
  · intro self self' nonce nonce' clock clock' pot pot' hpot hpot'
    exact TimeSynthesis.generated_agree h hpot hpot'
  · intro hnumbers self nonce clock
    exact TimeSynthesis.generateProofOfTime_isOk_perm h hnumbers
  · intro hmacSha256 self nonce nonce' now now'
    refine ⟨?_, fun hagree => ?_⟩
    · exact HttpOnlyClient.generatePoT_congr (g := fun timestamp _ => timestamp)
        (combine_timestamp_perm h)
    · exact HttpOnlyClient.generatePoT_congr (g := fun _ stratum => stratum)
        ((combine_results_perm_iff (g := Combined.stratum)).2 hagree results' h)

/-- That a synthesis does not depend on the order of the sources, unconditionally. -/
def OrderIndependent : Prop :=
  ∀ results results' : List (Settled TimeReading), results'.Perm results →
    (TimeSynthesis.synthesize results').map (fun st => (st.timestamp, st.uncertainty, st.stratum)) =
      (TimeSynthesis.synthesize results).map
        (fun st => (st.timestamp, st.uncertainty, st.stratum)) ∧
    (∀ (self : TimeSynthesis) (nonce : String) (clock : TimeSynthesis.GenerationClock)
      (pot pot' : ProofOfTime), (self.generateProofOfTime results nonce clock).1 = .ok pot →
      (self.generateProofOfTime results' nonce clock).1 = .ok pot' →
      pot'.timestamp = pot.timestamp ∧ pot'.uncertainty = pot.uncertainty ∧
        pot'.stratum = pot.stratum) ∧
    ∀ (hmacSha256 : HmacSha256) (self : HttpOnlyClient) (nonce : String) (now : ℤ),
      (self.generatePoT hmacSha256 results' nonce now).map
          (fun pot => (pot.timestamp, pot.stratum)) =
        (self.generatePoT hmacSha256 results nonce now).map
          fun pot => (pot.timestamp, pot.stratum)

/-- Three HTTPS readings of which two have the same timestamp: a Date header with a round trip of
0.2 seconds, and one of a second before with a round trip of 2.2 seconds. -/
def tiedResults : List (Settled TimeReading) :=
  [.fulfilled ⟨1700000001100000000, .finite 600, .finite 2, "nist"⟩,
    .fulfilled ⟨1700000001100000000, .finite 1600, .finite 2, "apple"⟩,
    .fulfilled ⟨1700000001050000000, .finite 550, .finite 2, "google"⟩]

/-- The same readings, with the first two sources exchanged. -/
def exchangedResults : List (Settled TimeReading) :=
  [.fulfilled ⟨1700000001100000000, .finite 1600, .finite 2, "apple"⟩,
    .fulfilled ⟨1700000001100000000, .finite 600, .finite 2, "nist"⟩,
    .fulfilled ⟨1700000001050000000, .finite 550, .finite 2, "google"⟩]

theorem not_orderIndependent : ¬ OrderIndependent := by
  intro h
  have huncertainty := (h tiedResults exchangedResults (.swap _ _ _)).1
  exact absurd huncertainty (by decide +kernel)

/-- Two readings with the same timestamp, uncertainty and stratum, and one before them. -/
def agreedResults : List (Settled TimeReading) :=
  [.fulfilled ⟨1700000001050000000, .finite 550, .finite 2, "google"⟩,
    .fulfilled ⟨1700000001100000000, .finite 600, .finite 2, "nist"⟩,
    .fulfilled ⟨1700000001100000000, .finite 600, .finite 2, "apple"⟩]

/-- The proof that is generated from them, and the one from the other order. -/
def agreedProof (first second : String) : ProofOfTime where
  timestamp := 1700000001100000000
  uncertainty := .finite 600
  sources := .finite 3
  stratum := .finite 2
  confidence := .finite 1
  sourceReadings :=
    [⟨"google", 1700000001050000000, .finite 550, some (.finite 2)⟩,
      ⟨first, 1700000001100000000, .finite 600, some (.finite 2)⟩,
      ⟨second, 1700000001100000000, .finite 600, some (.finite 2)⟩]
  nonce := "5f1c"
  expiresAt := 1700000060000

/-- The readings in both orders. -/
theorem synthesis_order_agreed :
    TimeSynthesis.synthesize agreedResults.reverse = TimeSynthesis.synthesize agreedResults ∧
    ((agreedProof "apple" "nist").timestamp = (agreedProof "nist" "apple").timestamp ∧
      (agreedProof "apple" "nist").uncertainty = (agreedProof "nist" "apple").uncertainty ∧
      (agreedProof "apple" "nist").stratum = (agreedProof "nist" "apple").stratum) ∧
    ((∃ pot, (TimeSynthesis.new.generateProofOfTime agreedResults.reverse "5f1c"
        TimeSynthesis.oneClock).1 = .ok pot) ↔
      ∃ pot, (TimeSynthesis.new.generateProofOfTime agreedResults "5f1c"
        TimeSynthesis.oneClock).1 = .ok pot) ∧
    ((HttpOnlyClient.new {}).generatePoT fourHmac agreedResults.reverse "5f1c" 1700000000000).map
        HttpPoT.stratum =
      ((HttpOnlyClient.new {}).generatePoT fourHmac agreedResults "5f1c" 1700000000000).map
        HttpPoT.stratum := by
  obtain ⟨hiff, h⟩ := synthesis_order agreedResults
  obtain ⟨-, hproof, hisOk, hclient⟩ := h agreedResults.reverse agreedResults.reverse_perm
  have hagree : MiddleAgrees (fun r => (r.uncertainty, r.stratum))
      (fulfilledValues agreedResults) := by decide
  have hgenerated := hproof .new .new "5f1c" "5f1c" TimeSynthesis.oneClock TimeSynthesis.oneClock
    (agreedProof "nist" "apple") (agreedProof "apple" "nist") (by decide +kernel)
    (by decide +kernel)
  refine ⟨hiff.2 hagree _ agreedResults.reverse_perm, ⟨hgenerated.1, hgenerated.2 hagree⟩,
    hisOk (Or.inl (by decide)) .new "5f1c" TimeSynthesis.oneClock, ?_⟩
  exact (hclient fourHmac (.new {}) "5f1c" "5f1c" 1700000000000 1700000000000).2 (by decide)

end OpenTTT
