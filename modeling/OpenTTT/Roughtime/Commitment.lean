import OpenTTT.Pot.Payload
import OpenTTT.Roughtime.Chain

/-!
# What a commitment is about

The bytes that are hashed and committed to: the input of the chain digest (`chain.rs`) and the
input of GRG (`grg_bridge.rs`), with a chain digest behind the payload or without one.

Both are unambiguous. The length in front of the attestations is a single byte, so it does not tell
256 of them from none; the attestations are told apart by the fixed width of what is hashed of each
(`digestInput_eq_iff`). The length in front of a payload has four bytes, which are enough for
payloads below `2 ^ 32` bytes, and with it the digest cannot be taken for a part of the payload
(`grgInput_unambiguous`).
-/

namespace OpenTTT.Roughtime

/-! ## The chain digest -/

/-- What is hashed of an attestation. -/
def digestRecord (a : RoughtimeAttestation) : Buffer :=
  toBeBytes 8 a.midp.toNat ++ toBeBytes 4 a.radi.toNat ++ a.root.toList ++ a.nonce.toList

theorem digestInput_eq (attestations : List RoughtimeAttestation) : digestInput attestations =
    UInt8.ofNat attestations.length :: attestations.flatMap digestRecord := rfl

/-- Two attestations with the same midpoint, radius, root and nonce. -/
structure SameRecord (a b : RoughtimeAttestation) : Prop where
  midp : a.midp = b.midp
  radi : a.radi = b.radi
  root : a.root = b.root
  nonce : a.nonce = b.nonce

theorem SameRecord.digestRecord_eq {a b : RoughtimeAttestation} (h : SameRecord a b) :
    digestRecord a = digestRecord b := by
  rw [digestRecord, digestRecord, h.midp, h.radi, h.root, h.nonce]

/-- A number of an attestation, in its width. -/
theorem selfDelimiting_field (width : ℕ) {field : RoughtimeAttestation → ℕ}
    (hlt : ∀ a, field a < 256 ^ width) :
    SelfDelimiting Set.univ (fun a b => field a = field b) fun a => toBeBytes width (field a) :=
  fun a _ b _ => Buffer.selfDelimiting_toBeBytes width (field a) (hlt a) (field b) (hlt b)

/-- A hash of an attestation. -/
theorem selfDelimiting_hash (hash : RoughtimeAttestation → Vector UInt8 32) :
    SelfDelimiting Set.univ (fun a b => hash a = hash b) fun a => (hash a).toList :=
  .of_length (fun _ _ => Vector.length_toList) fun _ _ _ _ h => Vector.toList_inj.1 h

theorem selfDelimiting_digestRecord : SelfDelimiting Set.univ SameRecord digestRecord := by
  intro a ha b hb s t h
  have hrecord := (((selfDelimiting_field 8 fun a => a.midp.toNat_lt).append
    (selfDelimiting_field 4 fun a => a.radi.toNat_lt)).append
      (selfDelimiting_hash RoughtimeAttestation.root)).append
        (selfDelimiting_hash RoughtimeAttestation.nonce)
  obtain ⟨⟨⟨⟨hmidp, hradi⟩, hroot⟩, hnonce⟩, hrest⟩ := hrecord a ha b hb s t h
  exact ⟨⟨UInt64.toNat_inj.1 hmidp, UInt32.toNat_inj.1 hradi, hroot, hnonce⟩, hrest⟩

/-- Two lists of attestations have the same input of the chain digest if and only if they agree,
position by position, in what is hashed. -/
theorem digestInput_eq_iff {l l' : List RoughtimeAttestation} :
    digestInput l = digestInput l' ↔ List.Forall₂ SameRecord l l' := by
  rw [digestInput_eq, digestInput_eq]
  constructor
  · intro h
    -- the length in front says nothing beyond 255
    have hrecords := List.tail_eq_of_cons_eq h
    refine selfDelimiting_digestRecord.forall₂_of_flatMap (fun a _ => ?_) (fun _ _ => trivial)
      (fun _ _ => trivial) hrecords
    rw [← List.length_pos_iff, digestRecord]
    simp
  · intro h
    have hrecords : l.flatMap digestRecord = l'.flatMap digestRecord := by
      induction h with
      | nil => rfl
      | cons hab _ ih => rw [List.flatMap_cons, List.flatMap_cons, hab.digestRecord_eq, ih]
    rw [h.length_eq, hrecords]

/-- **The input of the chain digest is unambiguous**: it determines the number of the attestations
and, position by position, their midpoints, radii, roots and nonces. -/
theorem digestInput_unambiguous (l l' : List RoughtimeAttestation)
    (h : digestInput l = digestInput l') : l.length = l'.length ∧
      ∀ (i : ℕ) (a b : RoughtimeAttestation), l[i]? = some a → l'[i]? = some b →
        a.midp = b.midp ∧ a.radi = b.radi ∧ a.root = b.root ∧ a.nonce = b.nonce := by
  have hrecords := digestInput_eq_iff.1 h
  refine ⟨hrecords.length_eq, fun i a b ha hb => ?_⟩
  obtain ⟨hi, rfl⟩ := List.getElem?_eq_some_iff.1 ha
  obtain ⟨hi', rfl⟩ := List.getElem?_eq_some_iff.1 hb
  have hsame := hrecords.get hi hi'
  exact ⟨hsame.midp, hsame.radi, hsame.root, hsame.nonce⟩

/-- Two attestations. -/
def samplePair : List RoughtimeAttestation :=
  [attestation 12 1 (Vector.replicate 32 0), attestation 14 2 (Vector.replicate 32 1)]

/-- Attestations with other responses have the same records, and not those in the other order. -/
theorem digestInput_unambiguous_attestation :
    (samplePair.length = (samplePair.map fun a => { a with rawResponse := [1] }).length ∧
      ∀ (i : ℕ) (a b : RoughtimeAttestation), samplePair[i]? = some a →
        (samplePair.map fun a => { a with rawResponse := [1] })[i]? = some b →
          a.midp = b.midp ∧ a.radi = b.radi ∧ a.root = b.root ∧ a.nonce = b.nonce) ∧
    digestInput samplePair ≠ digestInput samplePair.reverse := by
  refine ⟨digestInput_unambiguous _ _ rfl, fun h => ?_⟩
  have hmidp := ((digestInput_unambiguous _ _ h).2 0 _ _ rfl rfl).1
  exact absurd hmidp (by decide)

/-! ## The input of GRG -/

/-- `build_grg_input`. The length is cast to 32 bits. -/
def buildGrgInput (payload : Buffer) (chainDigest : Vector UInt8 32) : Buffer :=
  toBeBytes 4 (UInt32.ofNat payload.length).toNat ++ payload ++ chainDigest.toList

/-- `build_grg_input_basic`. -/
def buildGrgInputBasic (payload : Buffer) : Buffer :=
  toBeBytes 4 (UInt32.ofNat payload.length).toNat ++ payload

/-- `prepare_grg_input_with_chain`. -/
def prepareGrgInputWithChain (timestampNs : UInt64) (tier sourceCnt : UInt8)
    (nonce : Vector UInt8 32) (confidencePpm : UInt32) (chain : RoughtimeChain) :
    Buffer × Vector UInt8 32 :=
  let payload := assemblePotPayload 1 tier sourceCnt true timestampNs confidencePpm nonce
  (buildGrgInput payload chain.chainDigest, chain.chainDigest)

/-- The lengths that are not changed by the cast. -/
theorem selfDelimiting_castLength :
    SelfDelimiting {n | n < 2 ^ 32} (· = ·) fun n => toBeBytes 4 (UInt32.ofNat n).toNat := by
  intro n hn m hm s t h
  have hcast {k : ℕ} (hk : k < 2 ^ 32) : (UInt32.ofNat k).toNat = k := by
    rw [UInt32.toNat_ofNat']
    exact Nat.mod_eq_of_lt hk
  simp only [hcast hn, hcast hm] at h
  exact Buffer.selfDelimiting_toBeBytes 4 n hn m hm s t h

/-- A payload behind its length, with anything behind it. -/
theorem selfDelimiting_payload : SelfDelimiting {p : Buffer | p.length < 2 ^ 32} (· = ·)
    buildGrgInputBasic :=
  selfDelimiting_castLength.lengthPrefixed

theorem buildGrgInput_eq (payload : Buffer) (chainDigest : Vector UInt8 32) :
    buildGrgInput payload chainDigest = buildGrgInputBasic payload ++ chainDigest.toList := rfl

/-- **The input of GRG is unambiguous**: it determines the payload, the chain digest, and whether
there is one. -/
theorem grgInput_unambiguous (p q : Buffer) (hp : p.length < 2 ^ 32) (hq : q.length < 2 ^ 32) :
    (∀ c d : Vector UInt8 32, buildGrgInput p c = buildGrgInput q d → p = q ∧ c = d) ∧
    (buildGrgInputBasic p = buildGrgInputBasic q → p = q) ∧
    ∀ c : Vector UInt8 32, buildGrgInput p c ≠ buildGrgInputBasic q := by
  refine ⟨fun c d h => ?_, fun h => ?_, fun c h => ?_⟩
  · obtain ⟨hpayload, hdigest⟩ := selfDelimiting_payload p hp q hq _ _ h
    exact ⟨hpayload, Vector.toList_inj.1 hdigest⟩
  · exact (selfDelimiting_payload p hp q hq [] [] (by rw [h])).1
  · -- the digest would be behind the end of the input
    have hrest := (selfDelimiting_payload p hp q hq c.toList [] (by
      rw [← buildGrgInput_eq, h, List.append_nil])).2
    have hlength := congrArg List.length hrest
    rw [Vector.length_toList] at hlength
    exact absurd hlength (by decide)

/-- Payloads of different lengths, of which the longer one ends with what the other has as its
digest. -/
theorem grgInput_unambiguous_samples :
    (∀ c d : Vector UInt8 32, buildGrgInput [1, 2] c =
      buildGrgInput ([1, 2] ++ List.replicate 32 0) d →
        [1, 2] = ([1, 2] ++ List.replicate 32 0 : Buffer) ∧ c = d) ∧
    (buildGrgInputBasic [1, 2] = buildGrgInputBasic ([1, 2] ++ List.replicate 32 0) →
      [1, 2] = ([1, 2] ++ List.replicate 32 0 : Buffer)) ∧
    ∀ c : Vector UInt8 32,
      buildGrgInput [1, 2] c ≠ buildGrgInputBasic ([1, 2] ++ List.replicate 32 0) :=
  grgInput_unambiguous _ _ (by decide) (by decide)

theorem length_assemblePotPayload (version tier sourceCnt : UInt8) (rFlag : Bool)
    (timestampNs : UInt64) (confidencePpm : UInt32) (nonce : Vector UInt8 32) :
    (assemblePotPayload version tier sourceCnt rFlag timestampNs confidencePpm nonce).length =
      47 := by
  simp [assemblePotPayload]

/-- **What an input with a chain binds**: two of them that are equal are about the same payload and,
unless the inputs of their digests collide, about attestations with the same records. -/
theorem prepareGrgInputWithChain_binds {sha256 : Sha256} {timestampNs timestampNs' : UInt64}
    {tier tier' sourceCnt sourceCnt' : UInt8} {nonce nonce' : Vector UInt8 32}
    {confidencePpm confidencePpm' : UInt32} {l l' : List RoughtimeAttestation}
    (h : (prepareGrgInputWithChain timestampNs tier sourceCnt nonce confidencePpm
        ⟨l, computeChainDigest sha256 l⟩).1 =
      (prepareGrgInputWithChain timestampNs' tier' sourceCnt' nonce' confidencePpm'
        ⟨l', computeChainDigest sha256 l'⟩).1)
    (hideal : sha256 (digestInput l) = sha256 (digestInput l') → digestInput l = digestInput l') :
    assemblePotPayload 1 tier sourceCnt true timestampNs confidencePpm nonce =
        assemblePotPayload 1 tier' sourceCnt' true timestampNs' confidencePpm' nonce' ∧
      List.Forall₂ SameRecord l l' := by
  have hshort (p : Buffer) (hp : p.length = 47) : p.length < 2 ^ 32 := by omega
  obtain ⟨hpayload, hdigest⟩ := selfDelimiting_payload _ (hshort _ (length_assemblePotPayload ..))
    _ (hshort _ (length_assemblePotPayload ..)) _ _ h
  exact ⟨hpayload, digestInput_eq_iff.1 (hideal (Vector.toList_inj.1 hdigest))⟩

end OpenTTT.Roughtime
