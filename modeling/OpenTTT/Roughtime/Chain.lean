import OpenTTT.Runtime.Buffer
import OpenTTT.Runtime.Words
import Mathlib.Data.List.Chain
import Mathlib.Data.List.Sort

/-!
# Chains of attestations

`types.rs` and `chain.rs`: attestations of several Roughtime servers, linked by their nonces, and
the checks with which a chain is built: the linkage of neighbours, the order of their time
intervals, and the spread of all midpoints. The two SHA-2 functions are parameters.

`buildChain_ok` says what an accepted chain satisfies. The order of the intervals is checked for
neighbours only; `causal_of_accepted` says what follows for any two positions: the intervals are
in order up to what the radii leave of the spread tolerance.
-/

namespace OpenTTT.Roughtime

/-- SHA-512, from the bytes fed to it. -/
abbrev Sha512 := Buffer → Vector UInt8 64

/-- SHA-256, from the bytes fed to it. -/
abbrev Sha256 := Buffer → Vector UInt8 32

structure RoughtimeAttestation where
  serverPubkey : Vector UInt8 32
  serverName : String
  midp : UInt64
  radi : UInt32
  sig : Vector UInt8 64
  root : Vector UInt8 32
  nonce : Vector UInt8 32
  blind : Vector UInt8 32
  indx : UInt32
  path : List (Vector UInt8 32)
  rawResponse : Buffer
  deriving DecidableEq

namespace RoughtimeAttestation

/-- The lower end of the time interval: `midp.saturating_sub(radi as u64)`. -/
def lo (a : RoughtimeAttestation) : UInt64 := saturatingSub a.midp a.radi.toUInt64

/-- The upper end of the time interval: `midp.saturating_add(radi as u64)`. -/
def hi (a : RoughtimeAttestation) : UInt64 := saturatingAdd a.midp a.radi.toUInt64

def timeIntervalSecs (a : RoughtimeAttestation) : UInt64 × UInt64 := (a.lo, a.hi)

/-- The nonce of the next attestation: the first 32 bytes of the hash of the response and the
blind. -/
def nextNonce (sha512 : Sha512) (a : RoughtimeAttestation) : Vector UInt8 32 :=
  Buffer.first32 (sha512 (a.rawResponse ++ a.blind.toList))

theorem toNat_lo (a : RoughtimeAttestation) : a.lo.toNat = a.midp.toNat - a.radi.toNat := by
  rw [lo, toNat_saturatingSub, UInt32.toNat_toUInt64]

theorem toNat_hi (a : RoughtimeAttestation) :
    a.hi.toNat = min (a.midp.toNat + a.radi.toNat) (2 ^ 64 - 1) := by
  rw [hi, toNat_saturatingAdd, UInt32.toNat_toUInt64]

end RoughtimeAttestation

structure RoughtimeChain where
  attestations : List RoughtimeAttestation
  chainDigest : Vector UInt8 32
  deriving DecidableEq

/-- `synthesise_timestamp`: the median of the midpoints and the largest radius. It panics on the
empty chain. -/
def RoughtimeChain.synthesiseTimestamp (chain : RoughtimeChain) : Option (UInt64 × UInt32) :=
  let midps := (chain.attestations.map RoughtimeAttestation.midp).insertionSort (· ≤ ·)
  let median := if midps.length % 2 = 0 then
      match midps[midps.length / 2 - 1]?, midps[midps.length / 2]? with
      | some a, some b => some ((a + b) / 2)
      | _, _ => none
    else midps[midps.length / 2]?
  median.map fun m => (m, ((chain.attestations.map RoughtimeAttestation.radi).max?).getD 1)

/-! ## The checks -/

def CHAIN_SPREAD_TOLERANCE_SECS : UInt64 := 2

def MIN_CHAIN_LEN : ℕ := 3

inductive ChainError
  | TooShort (got min : ℕ)
  | NonceMismatch (pos : ℕ)
  | OrderingViolated (pos : ℕ)
  | SpreadExceeded (spreadSecs : UInt64)
  | SignatureInvalid (pos : ℕ)
  | MerkleInvalid (pos : ℕ)
  | DigestMismatch
  | TimestampDrift (diffSecs : UInt64)
  deriving DecidableEq

/-- A loop over the neighbours of a list, which returns the error of the first pair that fails a
check. The counter starts at `i`. -/
def checkNeighbours {α : Type*} (check : α → α → Bool) (error : ℕ → ChainError) (i : ℕ) :
    List α → Except ChainError Unit
  | a :: b :: rest =>
    if check a b then checkNeighbours check error (i + 1) (b :: rest) else .error (error i)
  | _ => .ok ()

/-- `verify_nonce_chain`. -/
def verifyNonceChain (sha512 : Sha512) (attestations : List RoughtimeAttestation) :
    Except ChainError Unit :=
  checkNeighbours (fun a b => decide (b.nonce = a.nextNonce sha512)) .NonceMismatch 1 attestations

/-- `verify_causal_ordering`. -/
def verifyCausalOrdering (attestations : List RoughtimeAttestation) : Except ChainError Unit :=
  checkNeighbours (fun a b => !decide (a.lo > b.hi)) .OrderingViolated 0 attestations

/-- `verify_spread`. -/
def verifySpread (attestations : List RoughtimeAttestation) : Except ChainError Unit :=
  let minM := ((attestations.map RoughtimeAttestation.midp).min?).getD 0
  let maxM := ((attestations.map RoughtimeAttestation.midp).max?).getD 0
  let spread := saturatingSub maxM minM
  if spread > CHAIN_SPREAD_TOLERANCE_SECS then .error (.SpreadExceeded spread) else .ok ()

/-- What `compute_chain_digest` hashes. -/
def digestInput (attestations : List RoughtimeAttestation) : Buffer :=
  UInt8.ofNat attestations.length :: attestations.flatMap fun a =>
    toBeBytes 8 a.midp.toNat ++ toBeBytes 4 a.radi.toNat ++ a.root.toList ++ a.nonce.toList

def computeChainDigest (sha256 : Sha256) (attestations : List RoughtimeAttestation) :
    Vector UInt8 32 :=
  sha256 (digestInput attestations)

/-- `build_chain`. -/
def buildChain (sha512 : Sha512) (sha256 : Sha256) (attestations : List RoughtimeAttestation) :
    Except ChainError RoughtimeChain :=
  if attestations.length < MIN_CHAIN_LEN then
    .error (.TooShort attestations.length MIN_CHAIN_LEN)
  else do
    verifyNonceChain sha512 attestations
    verifyCausalOrdering attestations
    verifySpread attestations
    return ⟨attestations, computeChainDigest sha256 attestations⟩

/-- `build_chain_unchecked`: without the linkage. -/
def buildChainUnchecked (sha256 : Sha256) (attestations : List RoughtimeAttestation) :
    Except ChainError RoughtimeChain :=
  if attestations.length < MIN_CHAIN_LEN then
    .error (.TooShort attestations.length MIN_CHAIN_LEN)
  else do
    verifyCausalOrdering attestations
    verifySpread attestations
    return ⟨attestations, computeChainDigest sha256 attestations⟩

/-! ## What the checks accept -/

/-- The loop accepts a list if and only if all neighbours pass the check. -/
theorem checkNeighbours_eq_ok {α : Type*} {check : α → α → Bool} {error : ℕ → ChainError} {i : ℕ}
    {l : List α} : checkNeighbours check error i l = .ok () ↔
      l.IsChain fun a b => check a b = true := by
  induction l generalizing i with
  | nil => simp [checkNeighbours]
  | cons a l ih =>
    cases l with
    | nil => simp [checkNeighbours]
    | cons b rest =>
      rw [checkNeighbours, List.isChain_cons_cons]
      by_cases hab : check a b = true
      · rw [if_pos hab, ih]
        exact (and_iff_right hab).symm
      · rw [if_neg hab]
        exact iff_of_false (by simp) fun h => hab h.1

theorem verifyNonceChain_eq_ok {sha512 : Sha512} {l : List RoughtimeAttestation} :
    verifyNonceChain sha512 l = .ok () ↔ l.IsChain fun a b => b.nonce = a.nextNonce sha512 := by
  simp only [verifyNonceChain, checkNeighbours_eq_ok, decide_eq_true_eq]

theorem verifyCausalOrdering_eq_ok {l : List RoughtimeAttestation} :
    verifyCausalOrdering l = .ok () ↔ l.IsChain fun a b => a.lo ≤ b.hi := by
  simp only [verifyCausalOrdering, checkNeighbours_eq_ok, Bool.not_eq_true',
    decide_eq_false_iff_not, gt_iff_lt, UInt64.not_lt]

/-- A spread that is accepted bounds the distance of any two midpoints. -/
theorem midp_le_of_verifySpread {l : List RoughtimeAttestation} (h : verifySpread l = .ok ())
    {a b : RoughtimeAttestation} (ha : a ∈ l) (hb : b ∈ l) :
    a.midp.toNat ≤ b.midp.toNat + 2 := by
  have hmin := min?_getD_le (List.mem_map_of_mem (f := RoughtimeAttestation.midp) hb) 0
  have hmax := le_max?_getD (List.mem_map_of_mem (f := RoughtimeAttestation.midp) ha) 0
  have hspread : ¬ saturatingSub ((l.map RoughtimeAttestation.midp).max?.getD 0)
      ((l.map RoughtimeAttestation.midp).min?.getD 0) > CHAIN_SPREAD_TOLERANCE_SECS := by
    intro hgt
    simp only [verifySpread] at h
    rw [if_pos hgt] at h
    simp at h
  rw [gt_iff_lt, UInt64.lt_iff_toNat_lt, toNat_saturatingSub] at hspread
  have htwo : CHAIN_SPREAD_TOLERANCE_SECS.toNat = 2 := rfl
  omega

/-- What a chain that is built satisfies. -/
structure Accepted (sha512 : Sha512) (l : List RoughtimeAttestation) : Prop where
  length : MIN_CHAIN_LEN ≤ l.length
  linked : l.IsChain fun a b => b.nonce = a.nextNonce sha512
  ordered : l.IsChain fun a b => a.lo ≤ b.hi
  spread : verifySpread l = .ok ()

/-- **`build_chain` succeeds** exactly on the lists that pass all checks, and returns them with
their digest. -/
theorem buildChain_ok {sha512 : Sha512} {sha256 : Sha256} {l : List RoughtimeAttestation}
    {chain : RoughtimeChain} : buildChain sha512 sha256 l = .ok chain ↔
      Accepted sha512 l ∧ chain = ⟨l, computeChainDigest sha256 l⟩ := by
  unfold buildChain
  by_cases hlen : l.length < MIN_CHAIN_LEN
  · rw [if_pos hlen]
    exact iff_of_false (by simp) fun h => absurd h.1.length (not_le.2 hlen)
  · rw [if_neg hlen]
    simp only [bind_eq_ok]
    constructor
    · rintro ⟨⟨⟩, hlinked, ⟨⟩, hordered, ⟨⟩, hspread, hchain⟩
      refine ⟨⟨not_lt.1 hlen, ?_, ?_, hspread⟩, (Except.ok.inj hchain).symm⟩
      · exact verifyNonceChain_eq_ok.1 hlinked
      · exact verifyCausalOrdering_eq_ok.1 hordered
    · rintro ⟨h, rfl⟩
      exact ⟨(), verifyNonceChain_eq_ok.2 h.linked, (), verifyCausalOrdering_eq_ok.2 h.ordered, (),
        h.spread, rfl⟩

/-! ## The order of the intervals -/

/-- **The intervals of an accepted chain are in order** up to the part of the spread tolerance that
the two radii do not cover. -/
theorem Accepted.lo_le {sha512 : Sha512} {l : List RoughtimeAttestation} (h : Accepted sha512 l)
    {a b : RoughtimeAttestation} (ha : a ∈ l) (hb : b ∈ l) :
    a.lo.toNat ≤ b.hi.toNat + (2 - (a.radi.toNat + b.radi.toNat)) := by
  have hmidp := midp_le_of_verifySpread h.spread ha hb
  have hbound := a.midp.toNat_lt
  rw [RoughtimeAttestation.toNat_lo, RoughtimeAttestation.toNat_hi]
  omega

/-- Where the radii cover the spread tolerance, the intervals are in order. -/
theorem Accepted.lo_le_hi {sha512 : Sha512} {l : List RoughtimeAttestation} (h : Accepted sha512 l)
    {a b : RoughtimeAttestation} (ha : a ∈ l) (hb : b ∈ l)
    (hradi : 2 ≤ a.radi.toNat + b.radi.toNat) : a.lo ≤ b.hi := by
  have hle := h.lo_le ha hb
  rw [UInt64.le_iff_toNat_le]
  omega

/-- An attestation with the given midpoint, radius and nonce. -/
def attestation (midp : UInt64) (radi : UInt32) (nonce : Vector UInt8 32) :
    RoughtimeAttestation where
  serverPubkey := Vector.replicate 32 0
  serverName := "test"
  midp := midp
  radi := radi
  sig := Vector.replicate 64 0
  root := Vector.replicate 32 0
  nonce := nonce
  blind := Vector.replicate 32 0
  indx := 0
  path := []
  rawResponse := []

/-- Midpoints that run back second by second, with a radius in the middle only. All three have the
same response and blind, and so lead to the same next nonce. -/
def backwards (sha512 : Sha512) : List RoughtimeAttestation :=
  let nonce := (attestation 0 0 (Vector.replicate 32 0)).nextNonce sha512
  [attestation 12 0 (Vector.replicate 32 0), attestation 11 1 nonce, attestation 10 0 nonce]

theorem accepted_backwards (sha512 : Sha512) : Accepted sha512 (backwards sha512) := by
  refine ⟨le_rfl, ?_, ?_, ?_⟩
  · simp [backwards, attestation, RoughtimeAttestation.nextNonce]
  · simp only [backwards, List.isChain_cons_cons]
    refine ⟨?_, ?_, List.isChain_singleton _⟩
    · show saturatingSub 12 0 ≤ saturatingAdd 11 1
      decide
    · show saturatingSub 11 1 ≤ saturatingAdd 10 0
      decide
  · have hmidps : (backwards sha512).map RoughtimeAttestation.midp = [12, 11, 10] := rfl
    unfold verifySpread
    rw [hmidps]
    decide

/-- **Causal consistency of the chains that `build_chain` accepts**: the intervals of neighbours
are in order; so are those of any two positions whose radii add up to the spread tolerance; and in
general the interval of the later one falls short by at most what the radii leave of it. -/
theorem causal_of_accepted (sha512 : Sha512) (sha256 : Sha256) (l : List RoughtimeAttestation)
    (chain : RoughtimeChain) (h : buildChain sha512 sha256 l = .ok chain) (i j : ℕ)
    (a b : RoughtimeAttestation) (hij : i < j) (hi : l[i]? = some a) (hj : l[j]? = some b) :
    (j = i + 1 → a.lo ≤ b.hi) ∧
    (CHAIN_SPREAD_TOLERANCE_SECS.toNat ≤ a.radi.toNat + b.radi.toNat → a.lo ≤ b.hi) ∧
    a.lo.toNat ≤ b.hi.toNat +
      (CHAIN_SPREAD_TOLERANCE_SECS.toNat - (a.radi.toNat + b.radi.toNat)) := by
  obtain ⟨hacc, -⟩ := buildChain_ok.1 h
  have ha := List.mem_of_getElem? hi
  have hb := List.mem_of_getElem? hj
  refine ⟨?_, hacc.lo_le_hi ha hb, hacc.lo_le ha hb⟩
  rintro rfl
  obtain ⟨hlt, rfl⟩ := List.getElem?_eq_some_iff.1 hj
  obtain ⟨-, rfl⟩ := List.getElem?_eq_some_iff.1 hi
  exact List.isChain_iff_getElem.1 hacc.ordered i hlt

/-- The SHA-512 hash of the responses and blinds of `backwards`. -/
def backwardsSha512 : Sha512 := fun _ =>
  #v[80, 70, 173, 193, 219, 168, 56, 134, 123, 43, 187, 253, 208, 195, 66, 62, 88, 181, 121, 112,
    181, 38, 122, 144, 245, 121, 96, 146, 74, 135, 241, 150, 10, 106, 133, 234, 166, 66, 218, 200,
    53, 66, 75, 93, 124, 141, 99, 124, 0, 64, 140, 122, 115, 218, 103, 43, 127, 73, 133, 33, 66, 11,
    109, 211]

/-- The SHA-256 hash of the digest input of `backwards`. -/
def backwardsSha256 : Sha256 := fun _ =>
  #v[27, 132, 201, 102, 239, 200, 78, 145, 176, 185, 16, 175, 212, 210, 193, 198, 66, 93, 132, 226,
    196, 188, 61, 129, 116, 56, 60, 154, 97, 121, 202, 191]

/-- The first and the last of the midpoints that run back. -/
theorem causal_of_accepted_backwards :
    (attestation 12 0 (Vector.replicate 32 0)).lo.toNat ≤
      (attestation 10 0 ((attestation 0 0 (Vector.replicate 32 0)).nextNonce
        backwardsSha512)).hi.toNat + 2 :=
  (causal_of_accepted backwardsSha512 backwardsSha256 (backwards backwardsSha512) _
    (buildChain_ok.2 ⟨accepted_backwards backwardsSha512, rfl⟩) 0 2 _ _ (by decide) rfl rfl).2.2

/-- Causal consistency for all pairs of positions. -/
def CausallyConsistent (sha512 : Sha512) (sha256 : Sha256) : Prop :=
  ∀ (l : List RoughtimeAttestation) (chain : RoughtimeChain),
    buildChain sha512 sha256 l = .ok chain →
    ∀ (i j : ℕ) (a b : RoughtimeAttestation), i < j → l[i]? = some a → l[j]? = some b → a.lo ≤ b.hi

/-- Whatever the hash functions are, neighbours that are in order do not make all pairs so. -/
theorem not_causallyConsistent :
    ¬ ∃ (sha512 : Sha512) (sha256 : Sha256), CausallyConsistent sha512 sha256 := by
  rintro ⟨sha512, sha256, h⟩
  have hbuild : buildChain sha512 sha256 (backwards sha512) = .ok _ :=
    buildChain_ok.2 ⟨accepted_backwards sha512, rfl⟩
  have hle : saturatingSub 12 0 ≤ saturatingAdd 10 0 :=
    h _ _ hbuild 0 2 _ _ (by omega) rfl rfl
  exact absurd hle (by decide)

end OpenTTT.Roughtime
