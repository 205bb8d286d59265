import OpenTTT.Foundations.SortByKey
import OpenTTT.Roughtime.Chain
import OpenTTT.Time.HttpClient
import OpenTTT.Time.Synthesis

/-!
# The synthesized time under faulty sources

The time is synthesized as a median: the middle element of the sorted readings, with a mean of two
where there is none. Readings of which fewer than half are faulty, with any timestamps and at any
positions, leave it between the smallest and the largest of the correct ones.
`median_betweenCorrect` states it for the three entry points that combine readings and for the
chains of attestations.
-/

namespace OpenTTT

open OrderStatistic

/-! ## Readings -/

theorem length_sortReadings (readings : List TimeReading) :
    (sortReadings readings).length = readings.length := length_sortBy TimeReading.timestamp readings

/-- The sorted timestamps are those of the readings. -/
theorem perm_sortReadings (readings : List TimeReading) :
    ((sortReadings readings).map TimeReading.timestamp).Perm
      (readings.map TimeReading.timestamp) :=
  (sortBy_perm TimeReading.timestamp readings).map _

theorem sorted_sortReadings (readings : List TimeReading) :
    ((sortReadings readings).map TimeReading.timestamp).Pairwise (· ≤ ·) :=
  pairwise_map_sortBy readings

/-- The truncating mean of two integers lies between them. -/
theorem tdiv_two_between {a b : ℤ} (h : a ≤ b) : a ≤ (a + b).tdiv 2 ∧ (a + b).tdiv 2 ≤ b := by
  rcases Int.le_total 0 (a + b) with hpos | hneg
  · rw [Int.tdiv_eq_ediv_of_nonneg hpos]
    omega
  · have hopp : (a + b).tdiv 2 = -((-(a + b)) / 2) := by
      rw [← Int.tdiv_eq_ediv_of_nonneg (by omega), Int.neg_tdiv, neg_neg]
    omega

/-- **The combined timestamp lies between the correct ones**, if fewer than half of the readings
are faulty. -/
theorem betweenCorrect_combine {readings : List TimeReading} {c : Combined}
    (hc : combine (sortReadings readings) = some c)
    {faulty : Finset (Fin (readings.map TimeReading.timestamp).length)}
    (hf : 2 * faulty.card < readings.length) :
    BetweenCorrect (readings.map TimeReading.timestamp) faulty c.timestamp := by
  have hlen := length_sortReadings readings
  have hperm := perm_sortReadings readings
  have hsorted := sorted_sortReadings readings
  have hmap : (readings.map TimeReading.timestamp).length = readings.length := List.length_map _
  generalize sortReadings readings = sorted at hc hlen hperm hsorted
  match sorted with
  | [] =>
    rw [List.length_nil] at hlen
    omega
  | [r] =>
    rw [List.length_singleton] at hlen
    cases hc
    exact betweenCorrect_of_ranks (k := 0) (m := 0) hperm hsorted (by simp) (by simp) (by omega)
      (by omega) le_rfl le_rfl
  | [r₀, r₁] =>
    rw [List.length_cons, List.length_singleton] at hlen
    cases hc
    have hle : r₀.timestamp ≤ r₁.timestamp := by simpa using hsorted
    obtain ⟨hlo, hhi⟩ := tdiv_two_between hle
    exact betweenCorrect_of_ranks (k := 0) (m := 1) hperm hsorted (by simp) (by simp) (by omega)
      (by omega) hlo hhi
  | r₀ :: r₁ :: r₂ :: rest =>
    -- the element in the middle
    have hmid : (r₀ :: r₁ :: r₂ :: rest).length / 2 < (r₀ :: r₁ :: r₂ :: rest).length := by
      rw [List.length_cons]
      omega
    rw [combine_of_three, List.getElem?_eq_getElem hmid, Option.map_some, Option.some.injEq] at hc
    have hrank : (r₀ :: r₁ :: r₂ :: rest).length / 2 <
        ((r₀ :: r₁ :: r₂ :: rest).map TimeReading.timestamp).length := by
      rwa [List.length_map]
    have hx : c.timestamp = ((r₀ :: r₁ :: r₂ :: rest).map TimeReading.timestamp)[
        (r₀ :: r₁ :: r₂ :: rest).length / 2] := by
      rw [← hc, List.getElem_map]
    exact betweenCorrect_of_ranks hperm hsorted hrank hrank (by omega) (by omega) hx.ge hx.le

theorem combine_sortReadings_isSome {readings : List TimeReading} (h : 0 < readings.length) :
    ∃ c, combine (sortReadings readings) = some c := by
  have hlen := length_sortReadings readings
  generalize sortReadings readings = sorted at hlen
  match sorted with
  | [] =>
    rw [List.length_nil] at hlen
    omega
  | [r] => exact ⟨_, rfl⟩
  | [r₀, r₁] => exact ⟨_, rfl⟩
  | r₀ :: r₁ :: r₂ :: rest =>
    have hmid : (r₀ :: r₁ :: r₂ :: rest).length / 2 < (r₀ :: r₁ :: r₂ :: rest).length := by
      rw [List.length_cons]
      omega
    exact ⟨_, by rw [combine_of_three, List.getElem?_eq_getElem hmid, Option.map_some]⟩

/-- On at least one reading, `synthesize` returns the timestamp of the combined reading. -/
theorem synthesize_timestamp {results : List (Settled TimeReading)} {c : Combined}
    (hc : combine (sortReadings (fulfilledValues results)) = some c) :
    ∃ st, TimeSynthesis.synthesize results = .ok st ∧ st.timestamp = c.timestamp := by
  unfold TimeSynthesis.synthesize
  match hr : fulfilledValues results with
  | [] =>
    rw [hr] at hc
    simp [sortReadings, combine] at hc
  | [r] =>
    rw [hr] at hc
    cases hc
    exact ⟨_, rfl, rfl⟩
  | r₀ :: r₁ :: rest =>
    rw [hr] at hc
    simp only [hc]
    exact ⟨_, rfl, rfl⟩

theorem generatePoT_timestamp {hmacSha256 : HmacSha256} {self : HttpOnlyClient}
    {results : List (Settled RawReading)} {nonce : String} {now : ℤ} {pot : HttpPoT}
    (h : self.generatePoT hmacSha256 results nonce now = .ok pot) :
    ∃ c, combine (sortReadings (fulfilledValues results)) = some c ∧
      pot.timestamp = c.timestamp := by
  unfold HttpOnlyClient.generatePoT at h
  cases hc : combine (sortReadings (fulfilledValues results)) with
  | none => simp [hc] at h
  | some c =>
    simp only [hc] at h
    split at h
    · simp at h
    · cases h
      exact ⟨c, rfl, rfl⟩

/-! ## Attestations -/

namespace Roughtime

/-- The midpoints of a chain, in the order of its attestations. -/
def RoughtimeChain.midps (chain : RoughtimeChain) : List ℕ :=
  chain.attestations.map fun a => a.midp.toNat

/-- The sorted midpoints. -/
def RoughtimeChain.sortedMidps (chain : RoughtimeChain) : List UInt64 :=
  (chain.attestations.map RoughtimeAttestation.midp).insertionSort (· ≤ ·)

/-- The mean of the two middle elements, where it is needed, is computed without an overflow. -/
def RoughtimeChain.MiddleSumFits (chain : RoughtimeChain) : Prop :=
  chain.sortedMidps.length % 2 = 0 → ∀ a b,
    chain.sortedMidps[chain.sortedMidps.length / 2 - 1]? = some a →
    chain.sortedMidps[chain.sortedMidps.length / 2]? = some b → a.toNat + b.toNat < 2 ^ 64

theorem perm_sortedMidps (chain : RoughtimeChain) :
    (chain.sortedMidps.map UInt64.toNat).Perm chain.midps := by
  have hperm := (List.perm_insertionSort (· ≤ ·)
    (chain.attestations.map RoughtimeAttestation.midp)).map UInt64.toNat
  rwa [List.map_map] at hperm

theorem sorted_sortedMidps (chain : RoughtimeChain) :
    (chain.sortedMidps.map UInt64.toNat).Pairwise (· ≤ ·) :=
  List.pairwise_map.2 ((List.pairwise_insertionSort (· ≤ ·) _).imp UInt64.le_iff_toNat_le.1)

/-- The largest radius of a chain, 1 for an empty one. -/
def RoughtimeChain.maxRadi (chain : RoughtimeChain) : UInt32 :=
  ((chain.attestations.map RoughtimeAttestation.radi).max?).getD 1

theorem synthesiseTimestamp_of_even {chain : RoughtimeChain} {a b : UInt64}
    (heven : chain.sortedMidps.length % 2 = 0)
    (ha : chain.sortedMidps[chain.sortedMidps.length / 2 - 1]? = some a)
    (hb : chain.sortedMidps[chain.sortedMidps.length / 2]? = some b) :
    chain.synthesiseTimestamp = some ((a + b) / 2, chain.maxRadi) := by
  unfold RoughtimeChain.sortedMidps at heven ha hb
  simp only [RoughtimeChain.synthesiseTimestamp, if_pos heven, ha, hb]
  rfl

theorem synthesiseTimestamp_of_odd {chain : RoughtimeChain} {a : UInt64}
    (hodd : ¬ chain.sortedMidps.length % 2 = 0)
    (ha : chain.sortedMidps[chain.sortedMidps.length / 2]? = some a) :
    chain.synthesiseTimestamp = some (a, chain.maxRadi) := by
  unfold RoughtimeChain.sortedMidps at hodd ha
  simp only [RoughtimeChain.synthesiseTimestamp, if_neg hodd, ha]
  rfl

/-- **The synthesized midpoint lies between the correct ones**, if fewer than half of the
attestations are faulty. -/
theorem betweenCorrect_synthesiseTimestamp {chain : RoughtimeChain} (hfits : chain.MiddleSumFits)
    {faulty : Finset (Fin chain.midps.length)} (hf : 2 * faulty.card < chain.midps.length) :
    ∃ median radi, chain.synthesiseTimestamp = some (median, radi) ∧
      BetweenCorrect chain.midps faulty median.toNat := by
  have hperm := perm_sortedMidps chain
  have hsorted := sorted_sortedMidps chain
  have hlen : chain.sortedMidps.length = chain.midps.length := by
    rw [← hperm.length_eq, List.length_map]
  have hrank : ∀ {k : ℕ}, k < chain.sortedMidps.length →
      k < (chain.sortedMidps.map UInt64.toNat).length := by
    intro k hk
    rwa [List.length_map]
  have hmid : chain.sortedMidps.length / 2 < chain.sortedMidps.length := by omega
  have hmid' : chain.sortedMidps.length / 2 - 1 < chain.sortedMidps.length := by omega
  by_cases heven : chain.sortedMidps.length % 2 = 0
  · -- the mean of the two middle elements
    have hsum := hfits heven _ _ (List.getElem?_eq_getElem hmid') (List.getElem?_eq_getElem hmid)
    refine ⟨_, _, synthesiseTimestamp_of_even heven (List.getElem?_eq_getElem hmid')
      (List.getElem?_eq_getElem hmid), ?_⟩
    have hle : (chain.sortedMidps[chain.sortedMidps.length / 2 - 1]).toNat ≤
        (chain.sortedMidps[chain.sortedMidps.length / 2]).toNat := by
      have hpair := List.pairwise_iff_getElem.1 hsorted (chain.sortedMidps.length / 2 - 1)
        (chain.sortedMidps.length / 2) (hrank hmid') (hrank hmid) (by omega)
      rwa [List.getElem_map, List.getElem_map] at hpair
    rw [toNat_mean hsum]
    refine betweenCorrect_of_ranks hperm hsorted (hrank hmid') (hrank hmid) (by omega) (by omega)
      ?_ ?_
    · rw [List.getElem_map]
      omega
    · rw [List.getElem_map]
      omega
  · refine ⟨_, _, synthesiseTimestamp_of_odd heven (List.getElem?_eq_getElem hmid), ?_⟩
    refine betweenCorrect_of_ranks hperm hsorted (hrank hmid) (hrank hmid) (by omega) (by omega)
      ?_ ?_
    · rw [List.getElem_map]
    · rw [List.getElem_map]

end Roughtime

/-! ## The median -/

/-- **The median under faulty sources.** As long as fewer than half of the readings (or of the
attestations of a chain) are faulty, the synthesized timestamp lies between the smallest and the
largest of the others. -/
theorem median_betweenCorrect :
    (∀ (results : List (Settled TimeReading))
      (faulty : Finset (Fin ((fulfilledValues results).map TimeReading.timestamp).length)),
      2 * faulty.card < (fulfilledValues results).length →
      ∃ st, TimeSynthesis.synthesize results = .ok st ∧
        BetweenCorrect ((fulfilledValues results).map TimeReading.timestamp) faulty
          st.timestamp) ∧
    (∀ (self : TimeSynthesis) (results : List (Settled TimeReading)) (nonce : String)
      (clock : TimeSynthesis.GenerationClock) (pot : ProofOfTime)
      (faulty : Finset (Fin ((fulfilledValues results).map TimeReading.timestamp).length)),
      2 * faulty.card < (fulfilledValues results).length →
      (self.generateProofOfTime results nonce clock).1 = .ok pot →
      BetweenCorrect ((fulfilledValues results).map TimeReading.timestamp) faulty
        pot.timestamp) ∧
    (∀ (hmacSha256 : HmacSha256) (self : HttpOnlyClient) (results : List (Settled RawReading))
      (nonce : String) (now : ℤ) (pot : HttpPoT)
      (faulty : Finset (Fin ((fulfilledValues results).map TimeReading.timestamp).length)),
      2 * faulty.card < (fulfilledValues results).length →
      self.generatePoT hmacSha256 results nonce now = .ok pot →
      BetweenCorrect ((fulfilledValues results).map TimeReading.timestamp) faulty
        pot.timestamp) ∧
    ∀ (chain : Roughtime.RoughtimeChain) (faulty : Finset (Fin chain.midps.length)),
      chain.MiddleSumFits → 2 * faulty.card < chain.midps.length →
      ∃ median radi, chain.synthesiseTimestamp = some (median, radi) ∧
        BetweenCorrect chain.midps faulty median.toNat := by
  refine ⟨?_, ?_, ?_, ?_⟩
  · intro results faulty hf
    have hpos : 0 < (fulfilledValues results).length := by omega
    obtain ⟨c, hc⟩ := combine_sortReadings_isSome hpos
    obtain ⟨st, hst, htime⟩ := synthesize_timestamp hc
    exact ⟨st, hst, htime ▸ betweenCorrect_combine hc hf⟩
  · intro self results nonce clock pot faulty hf hpot
    obtain ⟨hc, -⟩ := TimeSynthesis.generateProofOfTime_ok hpot
    exact betweenCorrect_combine hc hf
  · intro hmacSha256 self results nonce now pot faulty hf hpot
    obtain ⟨c, hc, htime⟩ := generatePoT_timestamp hpot
    exact htime ▸ betweenCorrect_combine hc hf
  · intro chain faulty hfits hf
    exact Roughtime.betweenCorrect_synthesiseTimestamp hfits hf

/-- Four requests, of which one fails; the first of the three readings is taken to be faulty. -/
def fourResults : List (Settled TimeReading) :=
  [.fulfilled ⟨1700000001400000000, .finite 500, .finite 2, "google"⟩, .rejected "timeout",
    .fulfilled ⟨1700000001000000000, .finite 500, .finite 2, "nist"⟩,
    .fulfilled ⟨1700000001200000000, .finite 500, .finite 2, "apple"⟩]

def firstFaulty : Finset (Fin ((fulfilledValues fourResults).map TimeReading.timestamp).length) :=
  {⟨0, by decide⟩}

/-- The readings of the proofs, in the order of their timestamps. -/
def fourReadings : List SourceReading :=
  [⟨"nist", 1700000001000000000, .finite 500, some (.finite 2)⟩,
    ⟨"apple", 1700000001200000000, .finite 500, some (.finite 2)⟩,
    ⟨"google", 1700000001400000000, .finite 500, some (.finite 2)⟩]

def fourProof : ProofOfTime where
  timestamp := 1700000001200000000
  uncertainty := .finite 500
  sources := .finite 3
  stratum := .finite 2
  confidence := .finite (3 / 4)
  sourceReadings := fourReadings
  nonce := "5f1c"
  expiresAt := 1700000060000

/-- The HMAC of the proof of the client. -/
def fourHmac : HmacSha256 := fun _ _ =>
  #v[183, 145, 5, 11, 252, 129, 136, 49, 202, 114, 96, 7, 62, 228, 65, 187, 69, 2, 138, 57, 100,
    195, 164, 38, 8, 112, 51, 79, 150, 124, 153, 132]

def fourPoT : HttpPoT where
  timestamp := 1700000001200000000
  confidence := .finite (3 / 4)
  stratum := .finite 2
  sources := .finite 3
  sourceReadings := fourReadings
  nonce := "5f1c"
  expiresAt := 1700000060000
  hmac := "b791050bfc818831ca7260073ee441bb45028a3964c3a4260870334f967c9984"

/-- Four attestations, of which the first is taken to be faulty. -/
def fourAttestations : Roughtime.RoughtimeChain :=
  ⟨[Roughtime.attestation 12 0 (Vector.replicate 32 0),
    Roughtime.attestation 11 1 (Vector.replicate 32 0),
    Roughtime.attestation 10 0 (Vector.replicate 32 0),
    Roughtime.attestation 11 0 (Vector.replicate 32 0)], Vector.replicate 32 0⟩

def firstAttestation : Finset (Fin fourAttestations.midps.length) := {⟨0, by decide⟩}

/-- The median of three readings, and of four attestations, with the first one faulty. -/
theorem median_betweenCorrect_four :
    (∃ st, TimeSynthesis.synthesize fourResults = .ok st ∧
      BetweenCorrect ((fulfilledValues fourResults).map TimeReading.timestamp) firstFaulty
        st.timestamp) ∧
    BetweenCorrect ((fulfilledValues fourResults).map TimeReading.timestamp) firstFaulty
      fourProof.timestamp ∧
    BetweenCorrect ((fulfilledValues fourResults).map TimeReading.timestamp) firstFaulty
      fourPoT.timestamp ∧
    ∃ median radi, fourAttestations.synthesiseTimestamp = some (median, radi) ∧
      BetweenCorrect fourAttestations.midps firstAttestation median.toNat :=
  ⟨median_betweenCorrect.1 fourResults firstFaulty (by decide),
    median_betweenCorrect.2.1 .new fourResults "5f1c"
      ⟨1700000000000, 1700000000000, 1700000000000⟩ fourProof firstFaulty (by decide)
      (by decide +kernel),
    median_betweenCorrect.2.2.1 fourHmac (.new {}) fourResults "5f1c" 1700000000000 fourPoT
      firstFaulty (by decide) (by decide +kernel),
    median_betweenCorrect.2.2.2 fourAttestations firstAttestation
      (fun _ a b ha hb => by cases ha; cases hb; decide) (by decide)⟩

end OpenTTT
