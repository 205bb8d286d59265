import OpenTTT.Contracts.AbiCoder
import OpenTTT.Time.Generation
import OpenTTT.Time.PotSigner

/-!
# The hash of a proof

`TimeSynthesis.getOnChainHash` hashes five numbers of a proof of time, as the encoder of the library
writes them; the uncertainty and the confidence are scaled and rounded before. The encoder and the
hash are parameters.

`data_eq_iff` says when the same is hashed of two proofs: nothing else of a proof is in it, not its
readings, its nonce or the time at which it expires. So a signature of the hash is one of the five
numbers, `signature_covers_iff`.
-/

namespace OpenTTT

namespace TimeSynthesis

/-- The types of the values that are encoded. -/
def onChainTypes : List String := ["uint64", "uint64", "uint8", "uint8", "uint32"]

/-- The uncertainty in nanoseconds. -/
def scaledUncertainty (pot : ProofOfTime) : Binary64 :=
  (pot.uncertainty.mul (.finite 1000000)).roundHalfUp

/-- The confidence in parts per million. -/
def scaledConfidence (pot : ProofOfTime) : Binary64 :=
  (pot.confidence.mul (.finite 1000000)).roundHalfUp

/-- The values that are encoded. -/
def onChainValues (pot : ProofOfTime) : List JsValue :=
  [.bigint pot.timestamp, .number (scaledUncertainty pot), .number pot.sources,
    .number pot.stratum, .number (scaledConfidence pot)]

def getOnChainHash (encode : AbiEncoder) (keccak256 : Buffer → Bytes32) (pot : ProofOfTime) :
    Except Thrown String := do
  let data ← encode onChainTypes (onChainValues pot)
  .ok ("0x" ++ Buffer.toHex (keccak256 data).toList)

/-! ## What is encoded -/

/-- The proofs agree in what is hashed of them. -/
structure SameOnChain (a b : ProofOfTime) : Prop where
  timestamp : a.timestamp = b.timestamp
  uncertainty : scaledUncertainty a = scaledUncertainty b
  sources : a.sources = b.sources
  stratum : a.stratum = b.stratum
  confidence : scaledConfidence a = scaledConfidence b

theorem onChainValues_eq {a b : ProofOfTime} (h : SameOnChain a b) :
    onChainValues a = onChainValues b := by
  rw [onChainValues, h.timestamp, h.uncertainty, h.sources, h.stratum, h.confidence, onChainValues]

theorem isSome_uintBits : ∀ type ∈ onChainTypes, (uintBits type).isSome := by decide

theorem isNumeric_onChainValues (pot : ProofOfTime) :
    ∀ value ∈ onChainValues pot, value.IsNumeric := by
  simp [onChainValues, JsValue.IsNumeric]

/-- The encoding is that of words. -/
theorem exists_words {encode : AbiEncoder} {address : String → Option Address}
    (hpads : encode.PadsStatic address) (hchecks : encode.ChecksUints) {pot : ProofOfTime}
    {data : Buffer} (h : encode onChainTypes (onChainValues pot) = .ok data) : ∃ words,
    staticWords address onChainTypes (onChainValues pot) = some words ∧
      data = Solidity.words words :=
  AbiEncoder.words_of_encode hpads hchecks rfl isSome_uintBits (isNumeric_onChainValues pot) h

/-- Proofs with the same words agree: what is encoded for a number is the number. -/
theorem sameOnChain_of_words {address : String → Option Address} {a b : ProofOfTime}
    {words words' : List ℕ} (ha : staticWords address onChainTypes (onChainValues a) = some words)
    (hb : staticWords address onChainTypes (onChainValues b) = some words')
    (h : Solidity.words words = Solidity.words words') : SameOnChain a b := by
  have hnumbers : ∀ x y : Binary64, (bigNumberish (.number x)).isSome →
      bigNumberish (.number x) = bigNumberish (.number y) → x = y := by
    intro x y hsome heq
    obtain ⟨z, hz⟩ := Option.isSome_iff_exists.1 hsome
    rw [eq_finite_of_bigNumberish hz, eq_finite_of_bigNumberish (heq.symm.trans hz)]
  have hsome : ∀ value ∈ onChainValues a, (bigNumberish value).isSome := by
    intro value hmem
    have hmap := List.mem_map_of_mem (f := bigNumberish) hmem
    rw [(map_bigNumberish isSome_uintBits ha).1] at hmap
    obtain ⟨n, -, hn⟩ := List.mem_map.1 hmap
    rw [← hn, Option.isSome_some]
  have hvalues := map_bigNumberish_eq_of_words isSome_uintBits ha hb h
  simp only [onChainValues, List.forall_mem_cons] at hsome
  simp only [onChainValues, List.map_cons, List.map_nil, List.cons.injEq, and_true] at hvalues
  obtain ⟨-, huncertainty, hsources, hstratum, hconfidence, -⟩ := hsome
  exact ⟨Option.some.inj hvalues.1, hnumbers _ _ huncertainty hvalues.2.1,
    hnumbers _ _ hsources hvalues.2.2.1, hnumbers _ _ hstratum hvalues.2.2.2.1,
    hnumbers _ _ hconfidence hvalues.2.2.2.2⟩

/-- **What is hashed of a proof** determines five numbers and nothing else. -/
theorem data_eq_iff {encode : AbiEncoder} {address : String → Option Address}
    (hpads : encode.PadsStatic address) (hchecks : encode.ChecksUints) {a b : ProofOfTime}
    {data data' : Buffer} (ha : encode onChainTypes (onChainValues a) = .ok data)
    (hb : encode onChainTypes (onChainValues b) = .ok data') :
    data = data' ↔ SameOnChain a b := by
  constructor
  · intro hdata
    obtain ⟨words, hwords, rfl⟩ := exists_words hpads hchecks ha
    obtain ⟨words', hwords', rfl⟩ := exists_words hpads hchecks hb
    exact sameOnChain_of_words hwords hwords' hdata
  · intro hsame
    rw [onChainValues_eq hsame] at ha
    exact Except.ok.inj (ha.symm.trans hb)

/-! ## What a signature covers -/

/-- The hash of a digest, as a text. -/
theorem dataOf_hash (digest : Buffer) :
    PotSigner.dataOf ("0x" ++ Buffer.toHex digest) = digest := by
  have hdigits : PotSigner.digitsOf ("0x" ++ Buffer.toHex digest) =
      (Buffer.toHex digest).toList := by
    rw [PotSigner.digitsOf, String.toList_append]
    rfl
  rw [PotSigner.dataOf, hdigits]
  exact Buffer.fromHex_toHex digest

/-- A signature of the hash of a digest verifies for that of the same digest. -/
theorem verify_signPot_digest {ed25519 : Ed25519} (signer : PotSigner ed25519)
    {digest digest' : Buffer} (hideal : ed25519.Ideal {digest, digest'}) (now : ℤ) :
    PotSigner.verifyPotSignature ed25519 ("0x" ++ Buffer.toHex digest')
        (signer.signPot ("0x" ++ Buffer.toHex digest) now) = true ↔ digest' = digest := by
  rw [PotSigner.verifyPotSignature_signPot signer (by rwa [dataOf_hash, dataOf_hash]), dataOf_hash,
    dataOf_hash, decide_eq_true_iff]

/-- **What a signature of a hash covers.** The signature of the hash of one proof verifies for the
hash of another one if they agree in the five numbers, and only then. -/
theorem signature_covers_iff {ed25519 : Ed25519} (signer : PotSigner ed25519)
    {encode : AbiEncoder} {address : String → Option Address}
    (hpads : encode.PadsStatic address) (hchecks : encode.ChecksUints)
    {keccak256 : Buffer → Bytes32} {a b : ProofOfTime} {data data' : Buffer}
    (ha : encode onChainTypes (onChainValues a) = .ok data)
    (hb : encode onChainTypes (onChainValues b) = .ok data')
    (hinj : Set.InjOn keccak256 {data, data'})
    (hideal : ed25519.Ideal {(keccak256 data).toList, (keccak256 data').toList}) (now : ℤ) :
    (∃ hash hash', getOnChainHash encode keccak256 a = .ok hash ∧
        getOnChainHash encode keccak256 b = .ok hash' ∧
        PotSigner.verifyPotSignature ed25519 hash' (signer.signPot hash now) = true) ↔
      SameOnChain a b := by
  have hhash : getOnChainHash encode keccak256 a =
      .ok ("0x" ++ Buffer.toHex (keccak256 data).toList) := by
    rw [getOnChainHash, ha, ok_bind]
  have hhash' : getOnChainHash encode keccak256 b =
      .ok ("0x" ++ Buffer.toHex (keccak256 data').toList) := by
    rw [getOnChainHash, hb, ok_bind]
  have hverify := verify_signPot_digest signer hideal now
  rw [Vector.toList_inj, hinj.eq_iff (Set.mem_insert_of_mem _ rfl) (Set.mem_insert _ _)] at hverify
  rw [← data_eq_iff hpads hchecks ha hb, eq_comm, ← hverify]
  constructor
  · rintro ⟨hash, hash', hsome, hsome', htrue⟩
    rw [hhash, Except.ok.injEq] at hsome
    rw [hhash', Except.ok.injEq] at hsome'
    rwa [← hsome, ← hsome'] at htrue
  · intro htrue
    exact ⟨_, _, hhash, hhash', htrue⟩

namespace OnChainHash.Sample

/-- The proof of one reading, with a smaller uncertainty. -/
def finerProof : ProofOfTime := { oneProof with uncertainty := .finite 30 }

/-- The proof of one reading with another nonce, which expires a minute later. -/
def laterProof : ProofOfTime := { oneProof with nonce := "a07b", expiresAt := 1700000120000 }

/-- The encoder, which reads no addresses. -/
def encode : AbiEncoder := AbiEncoder.static fun _ => none

theorem padsStatic : encode.PadsStatic fun _ => none := AbiEncoder.padsStatic_static _

theorem checksUints : encode.ChecksUints := AbiEncoder.checksUints_static _

/-- The five numbers of the one reading. -/
def data : Buffer := Solidity.words [1700000000000000000, 50000000, 1, 1, 1000000]

def finerData : Buffer := Solidity.words [1700000000000000000, 30000000, 1, 1, 1000000]

def digest : Bytes32 :=
  #v[188, 214, 235, 139, 154, 55, 119, 90, 152, 128, 68, 1, 117, 71, 105, 15, 90, 166, 43, 14, 171,
    237, 225, 194, 253, 235, 69, 188, 144, 204, 11, 104]

def finerDigest : Bytes32 :=
  #v[20, 220, 61, 38, 100, 251, 61, 244, 120, 181, 64, 29, 134, 135, 185, 119, 191, 132, 189, 170,
    195, 242, 152, 217, 116, 192, 254, 89, 215, 242, 208, 209]

/-- The hash, of the two encodings. -/
def keccak256 (bytes : Buffer) : Bytes32 := if bytes = data then digest else finerDigest

/-- The signature of the digest. -/
def signature : Buffer :=
  Buffer.fromHex ("d4b724de42b5816e665f0796b93b3af7d254d74be9185581500a9f07d6c8dc79" ++
    "99e1bbaaaeb8399bcad2b86531d06eddbda30278f691ec79b9f6ab3a51b8f205")

def finerSignature : Buffer :=
  Buffer.fromHex ("725065eae7372e8c819b4205821c1079d3100a0ccb31fa2df8fddc4eaf708c1c" ++
    "f3e9116508b5e4a6199caba3a1adeb53c8817ce76394ca81c68df1523258c400")

/-- One key pair, and its signatures of the two digests. -/
def onePair : Ed25519 where
  PrivateKey := Unit
  PublicKey := Unit
  createPrivateKey _ := .error .typeError
  publicKeyOf _ := ()
  createPublicKey der := if der = PotSigner.Sample.spki then .ok () else .error .typeError
  exportSpki _ := PotSigner.Sample.spki
  sign message _ :=
    if message = digest.toList then signature
    else if message = finerDigest.toList then finerSignature
    else []
  verify message _ sig := .ok (decide (message = digest.toList ∧ sig = signature ∨
    message = finerDigest.toList ∧ sig = finerSignature))

theorem ideal : onePair.Ideal {digest.toList, finerDigest.toList} where
  createPublicKey_exportSpki key := by
    simp only [onePair, if_true]
    rfl
  verify_sign key message message' hmessage hmessage' := by
    have hdigest : finerDigest.toList ≠ digest.toList := by decide +kernel
    have hsignature : finerSignature ≠ signature := by decide +kernel
    rcases hmessage with rfl | rfl <;> rcases hmessage' with rfl | rfl
    all_goals simp [onePair, hdigest, hdigest.symm, hsignature, hsignature.symm]

end OnChainHash.Sample

open OnChainHash.Sample in
/-- The signature of a proof verifies for one with another nonce and another expiry, and not for one
with another uncertainty. -/
theorem signature_covers_laterProof :
    (∃ hash hash', getOnChainHash encode keccak256 oneProof = .ok hash ∧
        getOnChainHash encode keccak256 laterProof = .ok hash' ∧
        PotSigner.verifyPotSignature onePair hash'
          ((PotSigner.ofPrivateKey onePair ()).signPot hash 1700000000000) = true) ∧
    ¬ ∃ hash hash', getOnChainHash encode keccak256 oneProof = .ok hash ∧
        getOnChainHash encode keccak256 finerProof = .ok hash' ∧
        PotSigner.verifyPotSignature onePair hash'
          ((PotSigner.ofPrivateKey onePair ()).signPot hash 1700000000000) = true := by
  have hone : encode onChainTypes (onChainValues oneProof) = .ok data := by decide +kernel
  have hfiner : encode onChainTypes (onChainValues finerProof) = .ok finerData := by
    decide +kernel
  have hdata : finerData ≠ data := by decide +kernel
  have hdigest : keccak256 data = digest := if_pos rfl
  have hfinerDigest : keccak256 finerData = finerDigest := if_neg hdata
  constructor
  · refine (signature_covers_iff (PotSigner.ofPrivateKey onePair ()) padsStatic checksUints hone
      hone ?_ ?_ 1700000000000).2 ⟨rfl, rfl, rfl, rfl, rfl⟩
    · rw [Set.pair_eq_singleton]
      exact Set.injOn_singleton _ _
    · rw [hdigest]
      exact ⟨ideal.1, fun key _ _ h h' => ideal.2 key (by simp_all) (by simp_all)⟩
  · rw [signature_covers_iff (PotSigner.ofPrivateKey onePair ()) padsStatic checksUints hone hfiner
      ?_ (by rw [hdigest, hfinerDigest]; exact ideal) 1700000000000]
    · intro hsame
      exact absurd hsame.uncertainty (by decide +kernel)
    · rw [Set.injOn_pair, hdigest, hfinerDigest]
      intro h
      exact absurd h (by decide +kernel)

end TimeSynthesis

end OpenTTT
