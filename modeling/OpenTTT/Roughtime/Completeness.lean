import OpenTTT.Roughtime.Authenticity

/-!
# Completeness of the Merkle step

An honest server answers a request that is a leaf of its tree with the siblings of the leaf and its
number. The loop recomputes the root from them as long as the number has 31 bits. In a tree of depth
32 there are leaves with larger numbers; the bit operators take their numbers for negative ones,
which the loop does not bring to zero, and the honest response is rejected: `merkle_complete_iff`.
-/

namespace OpenTTT

namespace RoughtimeSource

/-! ## The honest path -/

/-- The path that an honest server sends for the leaf of a number. -/
def honestPath (crypto : Crypto) {d : ℕ} (t : Merkle.Tree Buffer d) (number : ℕ) : Buffer :=
  ((t.siblings (treeHash crypto) number).map Vector.toList).flatten

theorem pathNodes_append {node : Buffer} (h : node.length = 32) (rest : Buffer) :
    pathNodes (node ++ rest) = node :: pathNodes rest := by
  have hcount : (node ++ rest).length / 32 = rest.length / 32 + 1 := by
    rw [List.length_append, h]
    omega
  have hfirst : (node ++ rest).subarray (32 * 0) (32 * 0 + 32) = node := by
    rw [Buffer.subarray, List.take_left' (by omega), Nat.mul_zero, List.drop_zero]
  have hlater : ∀ i, (node ++ rest).subarray (32 * (i + 1)) (32 * (i + 1) + 32) =
      rest.subarray (32 * i) (32 * i + 32) := by
    intro i
    rw [Buffer.subarray, Buffer.subarray, show 32 * (i + 1) = node.length + 32 * i by omega,
      Nat.add_assoc, List.take_length_add_append, List.drop_length_add_append]
  rw [pathNodes, hcount, List.range_succ_eq_map, List.map_cons, List.map_map, hfirst, pathNodes]
  exact congrArg _ (List.map_congr_left fun i _ => hlater i)

/-- The loop cuts a path into the digests that it was put together from. -/
theorem pathDigests_flatten (digests : List (Vector UInt8 32)) :
    pathDigests ((digests.map Vector.toList).flatten) = digests := by
  induction digests with
  | nil => rfl
  | cons digest digests ih =>
    have hlen : digest.toList.length = 32 := Vector.length_toList
    rw [pathDigests] at ih
    rw [List.map_cons, List.flatten_cons, pathDigests, pathNodes_append hlen, List.map_cons, ih,
      Vector.toList_inj.1 (toList_toDigest hlen)]

variable {crypto : Crypto}

/-- **The Merkle step** accepts the honest path of a leaf if and only if its number has 31 bits. -/
theorem checkPath_honest_iff {d : ℕ} {t : Merkle.Tree Buffer d} {request : Buffer} {top : Response}
    {sourceName : String} (hindx : top.indx < 2 ^ 32)
    (hleaf : t.leaves[top.indx]? = some request) (hpath : top.path = honestPath crypto t top.indx) :
    checkPath crypto request top (t.root (treeHash crypto)).toList sourceName = .ok () ↔
      top.indx < 2 ^ 31 := by
  rw [checkPath_ok]
  constructor
  · rintro ⟨hidx, -⟩
    exact lt_of_walkPath crypto hindx hidx
  · intro hlt
    have hdigests : (pathNodes top.path).map toDigest = t.siblings (treeHash crypto) top.indx := by
      rw [hpath]
      exact pathDigests_flatten _
    rw [rtHash_leaf, walkPath_eq crypto (fun _ => length_of_mem_pathNodes) _ hlt, hdigests,
      Merkle.walk_complete (treeHash crypto) hleaf]
    exact ⟨rfl, rfl⟩

/-! ## The response of an honest server -/

/-- A response that passes all checks but the last one, the Merkle step. -/
structure ValidOtherwise (crypto : Crypto) (packet serverPubkey nonce : Buffer)
    (sourceName : String) (top : Response) (cert : Certificate) (report : Report) : Prop where
  readTop : readResponse packet nonce sourceName = .ok top
  readCert : readCertificate top.cert sourceName = .ok cert
  certSig : checkCertSig crypto serverPubkey cert sourceName = .ok ()
  srepSig : checkSrepSig crypto cert.pubk top sourceName = .ok ()
  readSrep : readReport top.srep sourceName = .ok report
  window : checkWindow cert report sourceName = .ok ()

/-- Such a response is validated if it passes the Merkle step. -/
theorem ValidOtherwise.validate {packet serverPubkey nonce : Buffer} {sourceName : String}
    {top : Response} {cert : Certificate} {report : Report}
    (h : ValidOtherwise crypto packet serverPubkey nonce sourceName top cert report)
    (request : Buffer) :
    validateRoughtimeResponse crypto request packet serverPubkey nonce sourceName = (do
      checkPath crypto request top report.root sourceName
      .ok ⟨report.midp, report.radi⟩) := by
  unfold validateRoughtimeResponse
  rw [h.readTop, ok_bind, h.readCert, ok_bind, h.certSig, ok_bind, h.srepSig, ok_bind,
    h.readSrep, ok_bind, h.window, ok_bind]

/-- A response carries the proof of a leaf: its number, its honest path and the root. -/
structure Proves (crypto : Crypto) {d : ℕ} (t : Merkle.Tree Buffer d) (request : Buffer)
    (top : Response) (root : Buffer) : Prop where
  leaf : t.leaves[top.indx]? = some request
  path : top.path = honestPath crypto t top.indx
  root : root = (t.root (treeHash crypto)).toList

/-- **When the Merkle step is complete**: the honest proof of a leaf in a response that is otherwise
valid passes the Merkle step, and the response is validated, if and only if the number of the leaf
is below `2 ^ 31`. -/
theorem merkle_complete_iff (crypto : Crypto) {d : ℕ} (t : Merkle.Tree Buffer d)
    (request packet serverPubkey nonce : Buffer) (sourceName : String) (top : Response)
    (cert : Certificate) (report : Report)
    (hvalid : ValidOtherwise crypto packet serverPubkey nonce sourceName top cert report)
    (hproof : Proves crypto t request top report.root) :
    (checkPath crypto request top report.root sourceName = .ok () ↔ top.indx < 2 ^ 31) ∧
    (validateRoughtimeResponse crypto request packet serverPubkey nonce sourceName =
      .ok ⟨report.midp, report.radi⟩ ↔ top.indx < 2 ^ 31) := by
  have hindx : top.indx < 2 ^ 32 := by
    obtain ⟨message, -, hresponse⟩ := readResponse_ok hvalid.readTop
    obtain ⟨indxBuf, -, hread⟩ := hresponse.indx
    exact Buffer.lt_of_readUInt32LE hread
  have hstep : checkPath crypto request top report.root sourceName = .ok () ↔
      top.indx < 2 ^ 31 := by
    rw [hproof.root]
    exact checkPath_honest_iff hindx hproof.leaf hproof.path
  refine ⟨hstep, ?_⟩
  rw [hvalid.validate, ← hstep]
  constructor
  · intro h
    obtain ⟨⟨⟩, hok, -⟩ := bind_eq_ok.1 h
    exact hok
  · intro hok
    rw [hok, ok_bind]

/-- The response of the sample, with the number 1. -/
theorem merkle_complete_sample :
    (checkPath sampleCrypto sampleRequest
        ⟨srepSig, otherDigest.take 32, sampleSrep, sampleCert, 1⟩ (rootDigest.take 32)
        "roughtime-se" = .ok () ↔ 1 < 2 ^ 31) ∧
    (validateRoughtimeResponse sampleCrypto sampleRequest samplePacket longTermKey sampleNonce
      "roughtime-se" = .ok ⟨1785562297, 5⟩ ↔ 1 < 2 ^ 31) :=
  merkle_complete_iff sampleCrypto sampleTree sampleRequest samplePacket longTermKey sampleNonce
    "roughtime-se" ⟨srepSig, otherDigest.take 32, sampleSrep, sampleCert, 1⟩
    ⟨certSig, sampleDele, delegatedKey, 1785558697, 1785565897⟩
    ⟨5, 1785562297, rootDigest.take 32⟩
    { readTop := by decide +kernel
      readCert := by decide +kernel
      certSig := by decide +kernel
      srepSig := by decide +kernel
      readSrep := by decide +kernel
      window := by decide +kernel }
    { leaf := rfl
      path := by decide +kernel
      root := root_sampleTree.symm }

/-! ## A leaf in the right half of a tree of depth 32 -/

/-- A module in which every digest is zero and every signature verifies. -/
def zeroCrypto : Crypto where
  KeyObject := Buffer
  sha512 _ := Vector.replicate 64 0
  createPublicKey der := .ok der
  verify _ _ _ := .ok true

def zeroSrep : Buffer :=
  Buffer.leBytes 4 3 ++ Buffer.leBytes 4 4 ++ Buffer.leBytes 4 12 ++
    tagU32 "RADI" ++ tagU32 "MIDP" ++ tagU32 "ROOT" ++
    Buffer.leBytes 4 5 ++ Buffer.leBytes 8 1785562297 ++ List.replicate 32 0

/-- The parts of the response, with the first number of the right half. -/
def deepTop : Response where
  sig := srepSig
  path := List.replicate 1024 0
  srep := zeroSrep
  cert := sampleCert
  indx := 2 ^ 31

def deepPacket : Buffer :=
  List.replicate 8 0 ++ Buffer.leBytes 4 1404 ++ Buffer.leBytes 4 7 ++
    [64, 96, 100, 1124, 1192, 1344].flatMap (Buffer.leBytes 4) ++
    ["SIG", "NONC", "TYPE", "PATH", "SREP", "CERT", "INDX"].flatMap tagU32 ++
    (srepSig ++ sampleNonce ++ Buffer.leBytes 4 1 ++ deepTop.path ++ zeroSrep ++ sampleCert ++
      Buffer.leBytes 4 (2 ^ 31))

theorem validOtherwise_deepPacket : ValidOtherwise zeroCrypto deepPacket longTermKey sampleNonce
    "roughtime" deepTop ⟨certSig, sampleDele, delegatedKey, 1785558697, 1785565897⟩
    ⟨5, 1785562297, List.replicate 32 0⟩ where
  readTop := by decide +kernel
  readCert := by decide +kernel
  certSig := by decide +kernel
  srepSig := by decide +kernel
  readSrep := by decide +kernel
  window := by decide +kernel

theorem proves_deepTop : Proves zeroCrypto (Merkle.Tree.constant ([] : Buffer) 32) [] deepTop
    (List.replicate 32 0) := by
  have hzero : Buffer.first32 (Vector.replicate 64 0) = Vector.replicate 32 0 := by decide +kernel
  have hconst : ∀ input, treeHash zeroCrypto input = Vector.replicate 32 0 := fun _ => hzero
  constructor
  · have hlt : deepTop.indx < 2 ^ 32 := by decide
    rw [Merkle.Tree.leaves_constant, List.getElem?_replicate, if_pos hlt]
  · rw [honestPath, Merkle.Tree.siblings_of_const hconst]
    decide +kernel
  · rw [Merkle.Tree.root_of_const hconst, Vector.toList_replicate]

/-- The Merkle step is complete for trees of depth 0 to 32. -/
def MerkleComplete : Prop :=
  ∀ (crypto : Crypto) (d : ℕ) (t : Merkle.Tree Buffer d)
    (request packet serverPubkey nonce : Buffer) (sourceName : String) (top : Response)
    (cert : Certificate) (report : Report), d ≤ 32 → top.indx < 2 ^ d →
    ValidOtherwise crypto packet serverPubkey nonce sourceName top cert report →
    Proves crypto t request top report.root →
    checkPath crypto request top report.root sourceName = .ok ()

/-- **An honest response is rejected.** -/
theorem not_merkleComplete : ¬ MerkleComplete := by
  intro h
  have hindx : deepTop.indx < 2 ^ 32 := by decide
  have hok := h zeroCrypto 32 (Merkle.Tree.constant [] 32) [] deepPacket longTermKey sampleNonce
    "roughtime" deepTop ⟨certSig, sampleDele, delegatedKey, 1785558697, 1785565897⟩
    ⟨5, 1785562297, List.replicate 32 0⟩ le_rfl hindx validOtherwise_deepPacket proves_deepTop
  have hlt := lt_of_walkPath zeroCrypto hindx (checkPath_ok.1 hok).1
  exact absurd hlt (by decide)

end RoughtimeSource

end OpenTTT
