import OpenTTT.Roughtime.ChainVerifier

/-!
# Chains and the range of `u64`

`chain_to_timestamp_ns` of `async_client.rs`, and once more the functions that it and
`verify_chain_against_pot` need, with every operation on `u64` checked: `none` is an overflow, which
is a panic in a debug build and a wrap-around in a release build. Where nothing overflows these are
the functions of the release build (`verifyChainAgainstPot_of_checked`).

The midpoints come from the servers, and building a chain bounds their distance only. Its timestamp
in nanoseconds is a `u64` for midpoints up to the year 2554: `verifies_own_timestamp_iff`.
-/

namespace OpenTTT.Roughtime

/-- `chain_to_timestamp_ns`, in a release build; it panics on the empty chain. -/
def chainToTimestampNs (chain : RoughtimeChain) : Option UInt64 :=
  chain.synthesiseTimestamp.map fun s => s.1 * 1000000000

/-! ## Checked arithmetic -/

/-- The midpoints of a chain in order. -/
def sortedMidps (attestations : List RoughtimeAttestation) : List UInt64 :=
  (attestations.map RoughtimeAttestation.midp).insertionSort (· ≤ ·)

/-- `synthesise_timestamp`; the sum of the two midpoints in the middle can overflow. -/
def synthesiseTimestampChecked (chain : RoughtimeChain) : Option (UInt64 × UInt32) :=
  let midps := sortedMidps chain.attestations
  let median := if midps.length % 2 = 0 then
      match midps[midps.length / 2 - 1]?, midps[midps.length / 2]? with
      | some a, some b => (checkedAdd a b).map (· / 2)
      | _, _ => none
    else midps[midps.length / 2]?
  median.map fun m => (m, ((chain.attestations.map RoughtimeAttestation.radi).max?).getD 1)

/-- `chain_to_timestamp_ns`. -/
def chainToTimestampNsChecked (chain : RoughtimeChain) : Option UInt64 :=
  (synthesiseTimestampChecked chain).bind fun s => checkedMul s.1 1000000000

/-- The last check of `verify_chain_against_pot`. -/
def checkDriftChecked (medianSecs : UInt64) (maxRadi : UInt32) (tSynthNs : UInt64) :
    Option (Except ChainError UInt64) :=
  let tSynthSecs := tSynthNs / 1000000000
  (checkedAdd maxRadi.toUInt64 1).bind fun tolerance =>
    (if tSynthSecs ≥ medianSecs then checkedSub tSynthSecs medianSecs
      else checkedSub medianSecs tSynthSecs).map fun diff =>
        if diff > tolerance then .error (.TimestampDrift diff) else .ok medianSecs

/-- `verify_chain_against_pot`. -/
def verifyChainAgainstPotChecked (sha256 : Sha256) (chain : RoughtimeChain) (tSynthNs : UInt64)
    (expectedDigest : Vector UInt8 32) : Option (Except ChainError UInt64) :=
  let recomputed := computeChainDigest sha256 chain.attestations
  if recomputed ≠ expectedDigest then some (.error .DigestMismatch)
  else
    match verifyCausalOrdering chain.attestations with
    | .error e => some (.error e)
    | .ok () =>
      match verifySpread chain.attestations with
      | .error e => some (.error e)
      | .ok () =>
        (synthesiseTimestampChecked chain).bind fun s => checkDriftChecked s.1 s.2 tSynthNs

/-! ## Without an overflow -/

theorem synthesiseTimestamp_of_checked {chain : RoughtimeChain} {s : UInt64 × UInt32}
    (h : synthesiseTimestampChecked chain = some s) : chain.synthesiseTimestamp = some s := by
  obtain ⟨m, hm, rfl⟩ := Option.map_eq_some_iff.1 h
  refine Option.map_eq_some_iff.2 ⟨m, ?_, rfl⟩
  change (if (sortedMidps chain.attestations).length % 2 = 0 then _ else _) = _
  split at hm
  · rename_i heven
    rw [if_pos heven]
    split at hm
    · rename_i a b ha hb
      obtain ⟨c, hc, rfl⟩ := Option.map_eq_some_iff.1 hm
      obtain ⟨-, rfl⟩ := checkedAdd_eq_some.1 hc
      rw [show ((chain.attestations.map RoughtimeAttestation.midp).insertionSort (· ≤ ·)) =
        sortedMidps chain.attestations from rfl, ha, hb]
    · cases hm
  · rename_i hodd
    rw [if_neg hodd]
    exact hm

/-- The tolerance never overflows, and the subtractions are guarded. -/
theorem checkDriftChecked_eq (medianSecs : UInt64) (maxRadi : UInt32) (tSynthNs : UInt64) :
    checkDriftChecked medianSecs maxRadi tSynthNs =
      some (checkDrift medianSecs maxRadi tSynthNs) := by
  have htolerance : checkedAdd maxRadi.toUInt64 1 = some (maxRadi.toUInt64 + 1) := by
    have hlt := maxRadi.toNat_lt
    refine checkedAdd_eq_some.2 ⟨?_, rfl⟩
    rw [UInt32.toNat_toUInt64, UInt64.toNat_one]
    omega
  rw [checkDriftChecked, htolerance, Option.bind_some, checkDrift]
  by_cases hle : tSynthNs / 1000000000 ≥ medianSecs
  · rw [if_pos hle, checkedSub_eq_some.2 ⟨hle, rfl⟩, Option.map_some]
    simp only [if_pos hle]
  · have hge := UInt64.le_of_lt (UInt64.not_le.1 hle)
    rw [if_neg hle, checkedSub_eq_some.2 ⟨hge, rfl⟩, Option.map_some]
    simp only [if_neg hle]

/-- **Where nothing overflows** the checked functions are those of the release build. -/
theorem verifyChainAgainstPot_of_checked {sha256 : Sha256} {chain : RoughtimeChain}
    {tSynthNs : UInt64} {expectedDigest : Vector UInt8 32} {r : Except ChainError UInt64}
    (h : verifyChainAgainstPotChecked sha256 chain tSynthNs expectedDigest = some r) :
    verifyChainAgainstPot sha256 chain tSynthNs expectedDigest = some r := by
  simp only [verifyChainAgainstPotChecked] at h
  simp only [verifyChainAgainstPot]
  split at h
  · rename_i hdigest
    rw [if_pos hdigest]
    exact h
  · rename_i hdigest
    rw [if_neg hdigest]
    cases hordered : verifyCausalOrdering chain.attestations with
    | error e =>
      rw [hordered] at h
      exact h
    | ok =>
      rw [hordered] at h
      dsimp only at h ⊢
      cases hspread : verifySpread chain.attestations with
      | error e =>
        rw [hspread] at h
        exact h
      | ok =>
        rw [hspread] at h
        obtain ⟨s, hs, hdrift⟩ := Option.bind_eq_some_iff.1 h
        dsimp only
        rw [synthesiseTimestamp_of_checked hs, Option.map_some, ← checkDriftChecked_eq]
        exact hdrift

theorem chainToTimestampNs_of_checked {chain : RoughtimeChain} {tNs : UInt64}
    (h : chainToTimestampNsChecked chain = some tNs) : chainToTimestampNs chain = some tNs := by
  obtain ⟨s, hs, hmul⟩ := Option.bind_eq_some_iff.1 h
  obtain ⟨-, rfl⟩ := checkedMul_eq_some.1 hmul
  rw [chainToTimestampNs, synthesiseTimestamp_of_checked hs, Option.map_some]

/-! ## The exact range -/

/-- The sum of the two midpoints in the middle; for an odd number of them, twice the one in the
middle. -/
def middleSum (attestations : List RoughtimeAttestation) : ℕ :=
  ((sortedMidps attestations).getD ((attestations.length - 1) / 2) 0).toNat +
    ((sortedMidps attestations).getD (attestations.length / 2) 0).toNat

theorem length_sortedMidps (l : List RoughtimeAttestation) : (sortedMidps l).length = l.length := by
  rw [sortedMidps, List.length_insertionSort, List.length_map]

/-- **The synthesised timestamp** of a chain is the half of that sum, unless the sum overflows where
it is computed. -/
theorem synthesiseTimestampChecked_eq {chain : RoughtimeChain} (hne : chain.attestations ≠ []) :
    synthesiseTimestampChecked chain =
      if chain.attestations.length % 2 = 1 ∨ middleSum chain.attestations < 2 ^ 64 then
        some (UInt64.ofNat (middleSum chain.attestations / 2),
          ((chain.attestations.map RoughtimeAttestation.radi).max?).getD 1)
      else none := by
  have hlen := length_sortedMidps chain.attestations
  have hpos : 0 < chain.attestations.length := List.length_pos_iff.2 hne
  have hget : ∀ i < chain.attestations.length, (sortedMidps chain.attestations)[i]? =
      some ((sortedMidps chain.attestations).getD i 0) := by
    intro i hi
    rw [List.getD_eq_getElem?_getD, List.getElem?_eq_getElem (hlen ▸ hi), Option.getD_some]
  simp only [synthesiseTimestampChecked, hlen]
  rcases Nat.mod_two_eq_zero_or_one chain.attestations.length with heven | hodd
  · have hhalf : (chain.attestations.length - 1) / 2 = chain.attestations.length / 2 - 1 := by omega
    rw [if_pos heven, hget _ (by omega), hget _ (by omega), middleSum, hhalf]
    generalize (sortedMidps chain.attestations).getD (chain.attestations.length / 2 - 1) 0 = a
    generalize (sortedMidps chain.attestations).getD (chain.attestations.length / 2) 0 = b
    dsimp only
    by_cases hsum : a.toNat + b.toNat < 2 ^ 64
    · rw [checkedAdd_eq_some.2 ⟨hsum, rfl⟩, if_pos (Or.inr hsum), ← toNat_mean hsum,
        UInt64.ofNat_toNat]
      rfl
    · rw [checkedAdd, if_neg hsum, if_neg (by omega)]
      rfl
  · have hhalf : (chain.attestations.length - 1) / 2 = chain.attestations.length / 2 := by omega
    rw [if_neg (by omega), hget _ (by omega), if_pos (Or.inl hodd), middleSum, hhalf]
    generalize (sortedMidps chain.attestations).getD (chain.attestations.length / 2) 0 = a
    rw [← two_mul, Nat.mul_div_cancel_left _ two_pos, UInt64.ofNat_toNat]
    rfl

/-- **The timestamp in nanoseconds** does not overflow if and only if the median is at most
18446744073 seconds. -/
theorem chainToTimestampNsChecked_eq {chain : RoughtimeChain} (hne : chain.attestations ≠ []) :
    chainToTimestampNsChecked chain =
      if middleSum chain.attestations < 2 * 18446744074 then
        some (UInt64.ofNat (middleSum chain.attestations / 2) * 1000000000)
      else none := by
  have hbillion : (1000000000 : UInt64).toNat = 1000000000 := rfl
  rw [chainToTimestampNsChecked, synthesiseTimestampChecked_eq hne]
  by_cases hsum : middleSum chain.attestations < 2 * 18446744074
  · have hnat : (UInt64.ofNat (middleSum chain.attestations / 2)).toNat =
        middleSum chain.attestations / 2 := by
      rw [UInt64.toNat_ofNat', Nat.mod_eq_of_lt (by omega)]
    rw [if_pos hsum, if_pos (by omega), Option.bind_some]
    refine checkedMul_eq_some.2 ⟨?_, rfl⟩
    rw [hnat, hbillion]
    omega
  · rw [if_neg hsum]
    split
    · rename_i hmedian
      have hlt : middleSum chain.attestations / 2 < 2 ^ 64 := by
        have ha := ((sortedMidps chain.attestations).getD
          ((chain.attestations.length - 1) / 2) 0).toNat_lt
        have hb := ((sortedMidps chain.attestations).getD
          (chain.attestations.length / 2) 0).toNat_lt
        unfold middleSum
        omega
      rw [Option.bind_some, checkedMul, UInt64.toNat_ofNat', Nat.mod_eq_of_lt hlt, hbillion,
        if_neg (by omega)]
    · rfl

/-- A chain verifies against its own timestamp without an overflow. -/
def VerifiesOwnTimestamp (sha256 : Sha256) (chain : RoughtimeChain) : Prop :=
  ∃ tNs m, chainToTimestampNsChecked chain = some tNs ∧
    verifyChainAgainstPotChecked sha256 chain tNs chain.chainDigest = some (.ok m)

/-- **The chains that verify against their own timestamp**: a chain that is built computes its
timestamp and verifies against it without an overflow if and only if the two midpoints in the middle
add up to less than twice 18446744074 seconds. -/
theorem verifies_own_timestamp_iff (sha512 : Sha512) (sha256 : Sha256)
    (l : List RoughtimeAttestation) (chain : RoughtimeChain)
    (h : buildChain sha512 sha256 l = .ok chain) :
    VerifiesOwnTimestamp sha256 chain ↔ middleSum l < 2 * 18446744074 := by
  obtain ⟨hacc, rfl⟩ := buildChain_ok.1 h
  have hne : l ≠ [] := by
    rintro rfl
    exact absurd hacc.length (by decide)
  have htime : chainToTimestampNsChecked ⟨l, computeChainDigest sha256 l⟩ =
      if middleSum l < 2 * 18446744074 then some (UInt64.ofNat (middleSum l / 2) * 1000000000)
      else none := chainToTimestampNsChecked_eq hne
  constructor
  · rintro ⟨tNs, m, htNs, -⟩
    by_contra hsum
    rw [htime, if_neg hsum] at htNs
    cases htNs
  · intro hsum
    refine ⟨_, UInt64.ofNat (middleSum l / 2), htime.trans (if_pos hsum), ?_⟩
    have hsynth : synthesiseTimestampChecked ⟨l, computeChainDigest sha256 l⟩ = some
        (UInt64.ofNat (middleSum l / 2), ((l.map RoughtimeAttestation.radi).max?).getD 1) :=
      (synthesiseTimestampChecked_eq hne).trans (if_pos (Or.inr (hsum.trans (by decide))))
    have hback : UInt64.ofNat (middleSum l / 2) * 1000000000 / 1000000000 =
        UInt64.ofNat (middleSum l / 2) := by
      have hbillion : (1000000000 : UInt64).toNat = 1000000000 := rfl
      have hnat : (UInt64.ofNat (middleSum l / 2)).toNat = middleSum l / 2 := by
        rw [UInt64.toNat_ofNat', Nat.mod_eq_of_lt (by omega)]
      rw [← UInt64.toNat_inj, UInt64.toNat_div, UInt64.toNat_mul, hnat, hbillion,
        Nat.mod_eq_of_lt (by omega), Nat.mul_div_cancel _ (by omega)]
    rw [verifyChainAgainstPotChecked]
    dsimp only
    rw [if_neg (not_not.2 rfl), verifyCausalOrdering_eq_ok.2 hacc.ordered, hacc.spread, hsynth]
    dsimp only
    rw [Option.bind_some, checkDriftChecked_eq]
    refine congrArg some (checkDrift_ok.2 ⟨rfl, ?_⟩)
    dsimp only
    rw [hback]
    omega

/-! ## A chain out of range -/

/-- Three attestations of one time, linked: all have the same response and blind, and so the same
next nonce. -/
def simultaneous (sha512 : Sha512) (midp : UInt64) : List RoughtimeAttestation :=
  let nonce := (attestation 0 0 (Vector.replicate 32 0)).nextNonce sha512
  [attestation midp 1 (Vector.replicate 32 0), attestation midp 1 nonce, attestation midp 1 nonce]

theorem accepted_simultaneous (sha512 : Sha512) (midp : UInt64)
    (hself : saturatingSub midp 1 ≤ saturatingAdd midp 1) :
    Accepted sha512 (simultaneous sha512 midp) := by
  refine ⟨le_rfl, ?_, ?_, ?_⟩
  · simp [simultaneous, attestation, RoughtimeAttestation.nextNonce]
  · simp only [simultaneous, List.isChain_cons_cons]
    exact ⟨hself, hself, List.isChain_singleton _⟩
  · have hmin : min midp midp = midp := ite_self (c := midp ≤ midp) midp
    have hmax : max midp midp = midp := ite_self (c := midp ≤ midp) midp
    have hmidps : (simultaneous sha512 midp).map RoughtimeAttestation.midp = [midp, midp, midp] :=
      rfl
    unfold verifySpread
    rw [hmidps]
    simp [hmin, hmax, saturatingSub, CHAIN_SPREAD_TOLERANCE_SECS]

/-- Every chain that can be built verifies against its own timestamp. -/
def AllVerifyOwnTimestamp (sha512 : Sha512) (sha256 : Sha256) : Prop :=
  ∀ (l : List RoughtimeAttestation) (chain : RoughtimeChain),
    buildChain sha512 sha256 l = .ok chain → VerifiesOwnTimestamp sha256 chain

/-- **A chain out of range**, whatever the hash functions are: at 18446744074 seconds the timestamp
in nanoseconds overflows. -/
theorem not_allVerifyOwnTimestamp :
    ¬ ∃ (sha512 : Sha512) (sha256 : Sha256), AllVerifyOwnTimestamp sha512 sha256 := by
  rintro ⟨sha512, sha256, h⟩
  have hbuild : buildChain sha512 sha256 (simultaneous sha512 18446744074) = .ok _ :=
    buildChain_ok.2 ⟨accepted_simultaneous sha512 18446744074 (by decide), rfl⟩
  have hsum := (verifies_own_timestamp_iff sha512 sha256 _ _ hbuild).1 (h _ _ hbuild)
  have hmidps : (simultaneous sha512 18446744074).map RoughtimeAttestation.midp =
      [18446744074, 18446744074, 18446744074] := rfl
  have hsorted : sortedMidps (simultaneous sha512 18446744074) =
      [18446744074, 18446744074, 18446744074] := by
    rw [sortedMidps, hmidps]
    decide
  have hlength : (simultaneous sha512 18446744074).length = 3 := rfl
  rw [middleSum, hsorted, hlength] at hsum
  exact absurd hsum (by decide)

/-- The midpoints that run back, as seconds, are in range. -/
theorem verifies_own_timestamp_backwards : VerifiesOwnTimestamp backwardsSha256
    ⟨backwards backwardsSha512, computeChainDigest backwardsSha256 (backwards backwardsSha512)⟩ :=
  (verifies_own_timestamp_iff backwardsSha512 backwardsSha256 (backwards backwardsSha512) _
    (buildChain_ok.2 ⟨accepted_backwards backwardsSha512, rfl⟩)).2 (by decide)

end OpenTTT.Roughtime
