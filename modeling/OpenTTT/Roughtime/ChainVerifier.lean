import OpenTTT.Roughtime.Chain

/-!
# Chains against a timestamp

`verify_chain_against_pot` of `chain.rs` checks a chain that came with a proof of time: its digest,
the order of its intervals, its spread, and the distance of the synthesised timestamp from the
median of the midpoints. It leaves the linkage of the nonces and the number of attestations to
`build_chain`: `buildChain_of_verified` says what is then missing for a chain that could be built.
-/

namespace OpenTTT.Roughtime

/-- The last check of `verify_chain_against_pot`. -/
def checkDrift (medianSecs : UInt64) (maxRadi : UInt32) (tSynthNs : UInt64) :
    Except ChainError UInt64 :=
  let tSynthSecs := tSynthNs / 1000000000
  let tolerance := maxRadi.toUInt64 + 1
  let diff :=
    if tSynthSecs ≥ medianSecs then tSynthSecs - medianSecs else medianSecs - tSynthSecs
  if diff > tolerance then .error (.TimestampDrift diff) else .ok medianSecs

/-- `verify_chain_against_pot`; `none` is the panic of `synthesise_timestamp`. -/
def verifyChainAgainstPot (sha256 : Sha256) (chain : RoughtimeChain) (tSynthNs : UInt64)
    (expectedDigest : Vector UInt8 32) : Option (Except ChainError UInt64) :=
  let recomputed := computeChainDigest sha256 chain.attestations
  if recomputed ≠ expectedDigest then some (.error .DigestMismatch)
  else
    match verifyCausalOrdering chain.attestations with
    | .error e => some (.error e)
    | .ok () =>
      match verifySpread chain.attestations with
      | .error e => some (.error e)
      | .ok () => chain.synthesiseTimestamp.map fun s => checkDrift s.1 s.2 tSynthNs

/-! ## What the verifier accepts -/

theorem checkDrift_ok {medianSecs tSynthNs m : UInt64} {maxRadi : UInt32} :
    checkDrift medianSecs maxRadi tSynthNs = .ok m ↔
      m = medianSecs ∧ (tSynthNs / 1000000000).toNat ≤ medianSecs.toNat + maxRadi.toNat + 1 ∧
        medianSecs.toNat ≤ (tSynthNs / 1000000000).toNat + maxRadi.toNat + 1 := by
  have htol : (maxRadi.toUInt64 + 1).toNat = maxRadi.toNat + 1 := by
    have hlt := maxRadi.toNat_lt
    have hone : (1 : UInt64).toNat = 1 := rfl
    rw [UInt64.toNat_add, UInt32.toNat_toUInt64, hone, Nat.mod_eq_of_lt (by omega)]
  simp only [checkDrift, gt_iff_lt, ge_iff_le, UInt64.lt_iff_toNat_lt, htol]
  generalize tSynthNs / 1000000000 = tSynthSecs
  split_ifs with hle hdiff hdiff
  · rw [UInt64.toNat_sub_of_le _ _ hle] at hdiff
    refine iff_of_false (by simp) fun h => ?_
    omega
  · rw [UInt64.toNat_sub_of_le _ _ hle] at hdiff
    rw [UInt64.le_iff_toNat_le] at hle
    rw [Except.ok.injEq, eq_comm]
    refine (and_iff_left ⟨?_, ?_⟩).symm <;> omega
  · have hge := UInt64.le_of_lt (UInt64.not_le.1 hle)
    rw [UInt64.toNat_sub_of_le _ _ hge] at hdiff
    refine iff_of_false (by simp) fun h => ?_
    omega
  · have hge := UInt64.le_of_lt (UInt64.not_le.1 hle)
    rw [UInt64.toNat_sub_of_le _ _ hge] at hdiff
    rw [UInt64.le_iff_toNat_le] at hge
    rw [Except.ok.injEq, eq_comm]
    refine (and_iff_left ⟨?_, ?_⟩).symm <;> omega

/-- What a chain that is verified satisfies. -/
structure Verified (sha256 : Sha256) (l : List RoughtimeAttestation) (tSynthNs : UInt64)
    (digest : Vector UInt8 32) (medianSecs : UInt64) : Prop where
  digest_eq : computeChainDigest sha256 l = digest
  ordered : l.IsChain fun a b => a.lo ≤ b.hi
  spread : verifySpread l = .ok ()
  median : ∃ maxRadi, RoughtimeChain.synthesiseTimestamp ⟨l, digest⟩ = some (medianSecs, maxRadi) ∧
    (tSynthNs / 1000000000).toNat ≤ medianSecs.toNat + maxRadi.toNat + 1 ∧
    medianSecs.toNat ≤ (tSynthNs / 1000000000).toNat + maxRadi.toNat + 1

/-- The digest that a chain carries plays no role. -/
theorem synthesiseTimestamp_eq (chain : RoughtimeChain) (digest : Vector UInt8 32) :
    chain.synthesiseTimestamp =
      RoughtimeChain.synthesiseTimestamp ⟨chain.attestations, digest⟩ := rfl

/-- **`verify_chain_against_pot` succeeds** exactly on the chains that pass its checks. -/
theorem verifyChainAgainstPot_ok {sha256 : Sha256} {chain : RoughtimeChain} {tSynthNs : UInt64}
    {expectedDigest : Vector UInt8 32} {m : UInt64} :
    verifyChainAgainstPot sha256 chain tSynthNs expectedDigest = some (.ok m) ↔
      Verified sha256 chain.attestations tSynthNs expectedDigest m := by
  simp only [verifyChainAgainstPot]
  constructor
  · intro h
    split at h
    · simp at h
    · rename_i hdigest
      rw [not_not] at hdigest
      split at h
      · simp at h
      · rename_i hordered
        split at h
        · simp at h
        · rename_i hspread
          obtain ⟨⟨medianSecs, maxRadi⟩, hsynth, hdrift⟩ := Option.map_eq_some_iff.1 h
          obtain ⟨rfl, hnear⟩ := checkDrift_ok.1 hdrift
          rw [synthesiseTimestamp_eq chain expectedDigest] at hsynth
          exact ⟨hdigest, verifyCausalOrdering_eq_ok.1 hordered, hspread, maxRadi, hsynth, hnear⟩
  · rintro ⟨hdigest, hordered, hspread, maxRadi, hsynth, hnear⟩
    rw [if_neg (not_not.2 hdigest), verifyCausalOrdering_eq_ok.2 hordered, hspread,
      synthesiseTimestamp_eq chain expectedDigest, hsynth]
    exact congrArg some (checkDrift_ok.2 ⟨rfl, hnear⟩)

/-- The verifier panics on the empty chain, and so accepts none. -/
theorem Verified.ne_nil {sha256 : Sha256} {l : List RoughtimeAttestation} {tSynthNs m : UInt64}
    {digest : Vector UInt8 32} (h : Verified sha256 l tSynthNs digest m) : l ≠ [] := by
  rintro rfl
  obtain ⟨maxRadi, hsynth, -⟩ := h.median
  simp [RoughtimeChain.synthesiseTimestamp] at hsynth

theorem buildChainUnchecked_ok {sha256 : Sha256} {l : List RoughtimeAttestation}
    {chain : RoughtimeChain} : buildChainUnchecked sha256 l = .ok chain ↔
      (MIN_CHAIN_LEN ≤ l.length ∧ (l.IsChain fun a b => a.lo ≤ b.hi) ∧ verifySpread l = .ok ()) ∧
        chain = ⟨l, computeChainDigest sha256 l⟩ := by
  unfold buildChainUnchecked
  by_cases hlen : l.length < MIN_CHAIN_LEN
  · rw [if_pos hlen]
    exact iff_of_false (by simp) fun h => absurd h.1.1 (not_le.2 hlen)
  · rw [if_neg hlen]
    simp only [bind_eq_ok]
    constructor
    · rintro ⟨⟨⟩, hordered, ⟨⟩, hspread, hchain⟩
      exact ⟨⟨not_lt.1 hlen, verifyCausalOrdering_eq_ok.1 hordered, hspread⟩,
        (Except.ok.inj hchain).symm⟩
    · rintro ⟨⟨-, hordered, hspread⟩, rfl⟩
      exact ⟨(), verifyCausalOrdering_eq_ok.2 hordered, (), hspread, rfl⟩

/-- **What a verified chain lacks**: it is not empty, it has the digest, and building it fails only
for its length or, in `build_chain`, for its nonces. -/
theorem buildChain_of_verified (sha512 : Sha512) (sha256 : Sha256) (chain : RoughtimeChain)
    (tSynthNs : UInt64) (expectedDigest : Vector UInt8 32) (m : UInt64)
    (h : verifyChainAgainstPot sha256 chain tSynthNs expectedDigest = some (.ok m)) :
    chain.attestations ≠ [] ∧
    (buildChain sha512 sha256 chain.attestations = .ok ⟨chain.attestations, expectedDigest⟩ ↔
      MIN_CHAIN_LEN ≤ chain.attestations.length ∧
        chain.attestations.IsChain fun a b => b.nonce = a.nextNonce sha512) ∧
    (buildChainUnchecked sha256 chain.attestations = .ok ⟨chain.attestations, expectedDigest⟩ ↔
      MIN_CHAIN_LEN ≤ chain.attestations.length) := by
  have hver := verifyChainAgainstPot_ok.1 h
  have hchain : (⟨chain.attestations, expectedDigest⟩ : RoughtimeChain) =
      ⟨chain.attestations, computeChainDigest sha256 chain.attestations⟩ := by
    rw [hver.digest_eq]
  refine ⟨hver.ne_nil, ?_, ?_⟩
  · rw [buildChain_ok]
    constructor
    · rintro ⟨hacc, -⟩
      exact ⟨hacc.length, hacc.linked⟩
    · rintro ⟨hlen, hlinked⟩
      exact ⟨⟨hlen, hlinked, hver.ordered, hver.spread⟩, hchain⟩
  · rw [buildChainUnchecked_ok]
    constructor
    · rintro ⟨⟨hlen, -⟩, -⟩
      exact hlen
    · intro hlen
      exact ⟨⟨hlen, hver.ordered, hver.spread⟩, hchain⟩

theorem verified_backwards (sha512 : Sha512) (sha256 : Sha256) :
    Verified sha256 (backwards sha512) 11000000000
      (computeChainDigest sha256 (backwards sha512)) 11 :=
  ⟨rfl, (accepted_backwards sha512).ordered, (accepted_backwards sha512).spread, 1, by
    simp [RoughtimeChain.synthesiseTimestamp, backwards, attestation]
    decide, by decide, by decide⟩

/-- A chain that is verified and can be built. -/
theorem buildChain_of_verified_backwards :
    buildChain backwardsSha512 backwardsSha256 (backwards backwardsSha512) =
      .ok ⟨backwards backwardsSha512, backwardsSha256 (digestInput (backwards backwardsSha512))⟩ :=
  ((buildChain_of_verified backwardsSha512 backwardsSha256 ⟨backwards backwardsSha512,
    backwardsSha256 (digestInput (backwards backwardsSha512))⟩ 11000000000 _ 11
    (verifyChainAgainstPot_ok.2 (verified_backwards backwardsSha512 backwardsSha256))).2.1).2
    ⟨le_rfl, (accepted_backwards backwardsSha512).linked⟩

/-! ## Verified chains that could not be built -/

/-- Among the chains with `P`, the verifier accepts only those that `build_chain` accepts. -/
def AcceptsOnlyBuildable (sha512 : Sha512) (sha256 : Sha256)
    (P : List RoughtimeAttestation → Prop) : Prop :=
  ∀ (chain : RoughtimeChain) (tSynthNs : UInt64) (expectedDigest : Vector UInt8 32) (m : UInt64),
    P chain.attestations →
    verifyChainAgainstPot sha256 chain tSynthNs expectedDigest = some (.ok m) →
    ∃ built, buildChain sha512 sha256 chain.attestations = .ok built

/-- Attestations at one time, all with the same nonce. -/
def sameNonce (n : ℕ) (nonce : Vector UInt8 32) : List RoughtimeAttestation :=
  List.replicate n (attestation 10 1 nonce)

theorem verified_sameNonce (sha256 : Sha256) (nonce : Vector UInt8 32) {n : ℕ}
    (hn : n = 1 ∨ n = 3) : Verified sha256 (sameNonce n nonce) 10000000000
      (computeChainDigest sha256 (sameNonce n nonce)) 10 := by
  have hmidps : (sameNonce n nonce).map RoughtimeAttestation.midp = List.replicate n 10 := by
    rw [sameNonce, List.map_replicate]
    rfl
  have hradis : (sameNonce n nonce).map RoughtimeAttestation.radi = List.replicate n 1 := by
    rw [sameNonce, List.map_replicate]
    rfl
  have hsynth : RoughtimeChain.synthesiseTimestamp
      ⟨sameNonce n nonce, computeChainDigest sha256 (sameNonce n nonce)⟩ = some (10, 1) := by
    unfold RoughtimeChain.synthesiseTimestamp
    rw [hmidps, hradis]
    rcases hn with rfl | rfl <;> decide
  refine ⟨rfl, List.isChain_replicate_of_rel n ?_, ?_, 1, hsynth, by decide, by decide⟩
  · show saturatingSub 10 1 ≤ saturatingAdd 10 1
    decide
  · unfold verifySpread
    rw [hmidps]
    rcases hn with rfl | rfl <;> decide

/-- A nonce other than the next nonce of an attestation of `sameNonce`. -/
def otherNonce (sha512 : Sha512) : Vector UInt8 32 :=
  ((attestation 0 0 (Vector.replicate 32 0)).nextNonce sha512).map (· + 1)

theorem otherNonce_ne (sha512 : Sha512) : otherNonce sha512 ≠
    (attestation 0 0 (Vector.replicate 32 0)).nextNonce sha512 := by
  intro h
  have hbyte := congrArg (fun v : Vector UInt8 32 => v[0]) h
  rw [otherNonce] at hbyte
  simp at hbyte

/-- **Verified chains that could not be built**, whatever the hash functions are: one that is too
short, although linked, and one that is long enough and not linked. -/
theorem not_acceptsOnlyBuildable :
    (¬ ∃ (sha512 : Sha512) (sha256 : Sha256),
      AcceptsOnlyBuildable sha512 sha256 fun _ => True) ∧
    (¬ ∃ (sha512 : Sha512) (sha256 : Sha256),
      AcceptsOnlyBuildable sha512 sha256 fun l =>
        l.IsChain fun a b => b.nonce = a.nextNonce sha512) ∧
    ¬ ∃ (sha512 : Sha512) (sha256 : Sha256),
      AcceptsOnlyBuildable sha512 sha256 fun l => MIN_CHAIN_LEN ≤ l.length := by
  have hshort : ∀ (sha512 : Sha512) (sha256 : Sha256) (P : List RoughtimeAttestation → Prop),
      P (sameNonce 1 (otherNonce sha512)) → ¬ AcceptsOnlyBuildable sha512 sha256 P := by
    intro sha512 sha256 P hP h
    obtain ⟨built, hbuilt⟩ := h ⟨sameNonce 1 (otherNonce sha512),
      computeChainDigest sha256 (sameNonce 1 (otherNonce sha512))⟩ _ _ _ hP
      (verifyChainAgainstPot_ok.2 (verified_sameNonce sha256 _ (Or.inl rfl)))
    exact absurd (buildChain_ok.1 hbuilt).1.length (by simp [sameNonce, MIN_CHAIN_LEN])
  refine ⟨?_, ?_, ?_⟩
  · rintro ⟨sha512, sha256, h⟩
    exact hshort sha512 sha256 _ trivial h
  · rintro ⟨sha512, sha256, h⟩
    exact hshort sha512 sha256 _ (List.isChain_singleton _) h
  · rintro ⟨sha512, sha256, h⟩
    obtain ⟨built, hbuilt⟩ := h ⟨sameNonce 3 (otherNonce sha512),
      computeChainDigest sha256 (sameNonce 3 (otherNonce sha512))⟩ _ _ _ le_rfl
      (verifyChainAgainstPot_ok.2 (verified_sameNonce sha256 _ (Or.inr rfl)))
    have hlinked := (buildChain_ok.1 hbuilt).1.linked
    exact otherNonce_ne sha512 (List.isChain_cons_cons.1 hlinked).1

end OpenTTT.Roughtime
