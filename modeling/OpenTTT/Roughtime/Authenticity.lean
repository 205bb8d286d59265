import OpenTTT.Foundations.Merkle
import OpenTTT.Roughtime.Validate
import Mathlib.Data.List.GetD
import Mathlib.Tactic.NormNum

/-!
# Authenticity of a validated response

The loop over the nodes of a path is the walk of a Merkle proof (`walkPath_eq`), as long as the
number of the leaf has 31 bits; a number of 32 bits turns negative in the loop and is rejected
(`lt_of_walkPath`). What is hashed for a leaf starts with another byte than what is hashed for a
node, so that a hash without collisions keeps the two apart.

`validate_authentic` is the result: a validated response carries a delegation that the holder of
the long-term key has signed, whose window contains the time, a report with the time and the radius
that the holder of the delegated key has signed, and a proof that the request is the leaf of the
given number in every perfect tree with the root of the report.
-/

namespace OpenTTT

namespace RoughtimeSource

/-! ## The path as a Merkle proof -/

/-- The bytes that are hashed for a leaf or a node. -/
def encode : Merkle.Input Buffer (Vector UInt8 32) → Buffer
  | .leaf packet => 0x00 :: packet
  | .node left right => 0x01 :: (left.toList ++ right.toList)

theorem encode_injective : Function.Injective encode := by
  rintro (packet | ⟨left, right⟩) (packet' | ⟨left', right'⟩) h
  · simpa [encode] using h
  · simp [encode] at h
  · simp [encode] at h
  · rw [encode, encode, List.cons.injEq] at h
    obtain ⟨hleft, hright⟩ := List.append_inj h.2 (by simp)
    rw [Vector.toList_inj.1 hleft, Vector.toList_inj.1 hright]

/-- The digest in 32 bytes. -/
def toDigest (node : Buffer) : Vector UInt8 32 := Vector.ofFn fun i => node.getD i 0

theorem toList_toDigest {node : Buffer} (h : node.length = 32) : (toDigest node).toList = node := by
  rw [toDigest, Vector.toList_ofFn]
  apply List.ext_getElem
  · simp [h]
  · intro i hi hi'
    rw [List.getElem_ofFn, List.getD_eq_getElem _ _ hi']

theorem length_of_mem_pathNodes {path node : Buffer} (h : node ∈ pathNodes path) :
    node.length = 32 := by
  obtain ⟨i, hi, rfl⟩ := List.mem_map.1 h
  rw [List.mem_range] at hi
  simp only [Buffer.subarray, List.length_drop, List.length_take]
  omega

/-- The siblings in a path. -/
def pathDigests (path : Buffer) : List (Vector UInt8 32) := (pathNodes path).map toDigest

variable (crypto : Crypto)

/-- The hash of leaves and nodes. -/
def treeHash (input : Merkle.Input Buffer (Vector UInt8 32)) : Vector UInt8 32 :=
  rtHash crypto [encode input]

theorem rtHash_leaf (packet : Buffer) :
    rtHash crypto [[0x00], packet] = treeHash crypto (.leaf packet) := by
  simp [treeHash, rtHash, encode]

theorem rtHash_node (left right : Vector UInt8 32) :
    rtHash crypto [[0x01], left.toList, right.toList] = treeHash crypto (.node left right) := by
  simp [treeHash, rtHash, encode]

/-- The bytes that are hashed for the path of a response and for a tree. -/
def hashedBytes (request : Buffer) (top : Response) {d : ℕ} (t : Merkle.Tree Buffer d) :
    Set Buffer :=
  encode '' (Merkle.proofInputs (treeHash crypto) request top.indx (pathDigests top.path) ∪
    t.inputs (treeHash crypto))

theorem toInt32_of_lt {n : ℕ} (h : n < 2 ^ 31) : toInt32 n = n := by
  unfold toInt32
  apply Int.bmod_eq_of_le_mul_two <;> push_cast <;> omega

/-- With a number of 31 bits, the loop is the walk of a Merkle proof. -/
theorem walkPath_eq {nodes : List Buffer} (hnodes : ∀ node ∈ nodes, node.length = 32)
    (cur : Vector UInt8 32) {n : ℕ} (hn : n < 2 ^ 31) :
    walkPath crypto cur n nodes =
      ((Merkle.walk (treeHash crypto) cur n (nodes.map toDigest)).1,
        ((Merkle.walk (treeHash crypto) cur n (nodes.map toDigest)).2 : ℤ)) := by
  induction nodes generalizing cur n with
  | nil => rfl
  | cons node nodes ih =>
    have hnode := toList_toDigest (hnodes node List.mem_cons_self)
    have hrest : ∀ node' ∈ nodes, node'.length = 32 := fun node' h =>
      hnodes node' (List.mem_cons_of_mem node h)
    have hshift : toInt32 n >>> (1 : ℕ) = ((n / 2 : ℕ) : ℤ) := by
      rw [toInt32_of_lt hn, Int.shiftRight_eq_div_pow]
      simp
    have heven : toInt32 n % 2 = 0 ↔ n % 2 = 0 := by
      rw [toInt32_of_lt hn]
      omega
    rw [walkPath, hshift, ih hrest _ (by omega), List.map_cons, Merkle.walk]
    simp only [heven, ← rtHash_node, hnode]

/-- A negative number stays negative in the loop. -/
theorem walkPath_neg {nodes : List Buffer} (cur : Vector UInt8 32) {idx : ℤ}
    (hlow : -2 ^ 31 ≤ idx) (hneg : idx < 0) : (walkPath crypto cur idx nodes).2 < 0 := by
  induction nodes generalizing cur idx with
  | nil => exact hneg
  | cons node nodes ih =>
    have hword : toInt32 idx = idx := by
      unfold toInt32
      apply Int.bmod_eq_of_le_mul_two <;> push_cast <;> omega
    rw [walkPath, hword, Int.shiftRight_eq_div_pow]
    apply ih <;> norm_num <;> omega

/-- The loop gets to zero from numbers of 31 bits only. -/
theorem lt_of_walkPath {nodes : List Buffer} {cur : Vector UInt8 32} {n : ℕ} (hn : n < 2 ^ 32)
    (h : (walkPath crypto cur n nodes).2 = 0) : n < 2 ^ 31 := by
  by_contra hge
  rcases nodes with - | ⟨node, nodes⟩
  · have hzero : (n : ℤ) = 0 := h
    omega
  · have hword : toInt32 n = n - 2 ^ 32 := by
      rw [toInt32, Int.bmod_eq_iff (by norm_num)]
      refine ⟨by norm_num; omega, by norm_num; omega, -1, by norm_num⟩
    have hneg : (walkPath crypto cur n (node :: nodes)).2 < 0 := by
      rw [walkPath, hword, Int.shiftRight_eq_div_pow]
      apply walkPath_neg <;> norm_num <;> omega
    omega

/-- **The path of a validated response proves the request to be a leaf.** -/
theorem checkPath_sound {request root : Buffer} {top : Response} {sourceName : String}
    (h : checkPath crypto request top root sourceName = .ok ()) (hindx : top.indx < 2 ^ 32)
    {d : ℕ} {t : Merkle.Tree Buffer d} (hroot : (t.root (treeHash crypto)).toList = root)
    (hinj : Set.InjOn (fun bytes => rtHash crypto [bytes]) (hashedBytes crypto request top t)) :
    (pathNodes top.path).length = d ∧ t.leaves[top.indx]? = some request := by
  obtain ⟨hidx, hcur⟩ := checkPath_ok.1 h
  have hlt := lt_of_walkPath crypto hindx hidx
  rw [rtHash_leaf, walkPath_eq crypto (fun _ => length_of_mem_pathNodes) _ hlt] at hidx hcur
  have hwalk : Merkle.walk (treeHash crypto) (treeHash crypto (.leaf request)) top.indx
      (pathDigests top.path) = (t.root (treeHash crypto), 0) := by
    rw [← hroot, Vector.toList_inj] at hcur
    exact Prod.ext hcur (Int.natCast_eq_zero.1 hidx)
  have hinputs : Set.InjOn (treeHash crypto) (Merkle.proofInputs (treeHash crypto) request top.indx
      (pathDigests top.path) ∪ t.inputs (treeHash crypto)) :=
    hinj.comp encode_injective.injOn (Set.mapsTo_image _ _)
  rw [← List.length_map (f := toDigest)]
  exact Merkle.walk_sound hwalk hinputs

/-! ## The signatures -/

variable {crypto}

/-- Verification with the key object of a raw key succeeds only on what the holder of the key has
signed. -/
def VerifiesOnlySigned (crypto : Crypto) (Signed : Buffer → Buffer → Prop) : Prop :=
  ∀ raw key data signature, rebuildEd25519PublicKey crypto raw = .ok key →
    crypto.verify data key signature = .ok true → Signed raw data

variable {Signed : Buffer → Buffer → Prop}

theorem signed_of_checkSignature (hverify : VerifiesOnlySigned crypto Signed)
    {badKey invalid : String} {raw32 data signature : Buffer} {sourceName : String}
    (h : checkSignature crypto badKey invalid raw32 data signature sourceName = .ok ()) :
    Signed raw32 data := by
  obtain ⟨key, hkey, hok⟩ := checkSignature_ok.1 h
  exact hverify raw32 key data signature hkey hok

/-- **Authenticity of a validated response.** The long-term key signed a delegation whose window
contains the time, the delegated key signed a report with the time and the radius, and in every
perfect tree whose root is that of the report, as deep as the path is long, the request is the leaf
of the given number. -/
theorem validate_authentic (hverify : VerifiesOnlySigned crypto Signed)
    {request packet serverPubkey nonce : Buffer} {sourceName : String}
    {v : RoughtimeValidatedResponse}
    (h : validateRoughtimeResponse crypto request packet serverPubkey nonce sourceName = .ok v) :
    ∃ message top cert report, IsMessageOf packet message ∧ IsResponse message nonce top ∧
      IsCertificate top.cert cert ∧ IsReport top.srep report ∧
      (Signed serverPubkey (deleCtx ++ cert.dele) ∧
        cert.mint ≤ v.midpSeconds ∧ v.midpSeconds ≤ cert.maxt) ∧
      (Signed cert.pubk (srepCtx ++ top.srep) ∧
        report.midp = v.midpSeconds ∧ report.radi = v.radiSeconds) ∧
      ∀ (d : ℕ) (t : Merkle.Tree Buffer d), (t.root (treeHash crypto)).toList = report.root →
        Set.InjOn (fun bytes => rtHash crypto [bytes]) (hashedBytes crypto request top t) →
        (pathNodes top.path).length = d ∧ t.leaves[top.indx]? = some request := by
  obtain ⟨message, top, cert, report, hmessage, htop, hcert, hcertSig, hsrepSig, hreport, hwindow,
    hpath, rfl⟩ := validate_ok h
  have hindx : top.indx < 2 ^ 32 := by
    obtain ⟨indxBuf, -, hread⟩ := htop.indx
    exact Buffer.lt_of_readUInt32LE hread
  exact ⟨message, top, cert, report, hmessage, htop, hcert, hreport,
    ⟨signed_of_checkSignature hverify hcertSig, checkWindow_ok.1 hwindow⟩,
    ⟨signed_of_checkSignature hverify hsrepSig, rfl, rfl⟩,
    fun d t hroot hinj => checkPath_sound crypto hpath hindx hroot hinj⟩

/-! ## A response to two requests -/

def sampleNonce : Buffer :=
  [0x00, 0x01, 0x02, 0x03, 0x04, 0x05, 0x06, 0x07, 0x08, 0x09, 0x0a, 0x0b, 0x0c, 0x0d, 0x0e, 0x0f,
   0x10, 0x11, 0x12, 0x13, 0x14, 0x15, 0x16, 0x17, 0x18, 0x19, 0x1a, 0x1b, 0x1c, 0x1d, 0x1e, 0x1f]

/-- A request with the nonce alone. -/
def sampleRequest : Buffer :=
  [0x52, 0x4f, 0x55, 0x47, 0x48, 0x54, 0x49, 0x4d, 0x28, 0x00, 0x00, 0x00, 0x01, 0x00, 0x00, 0x00,
   0x4e, 0x4f, 0x4e, 0x43] ++ sampleNonce

/-- The request of another client, whose nonce has the same bytes in reverse. -/
def otherRequest : Buffer :=
  [0x52, 0x4f, 0x55, 0x47, 0x48, 0x54, 0x49, 0x4d, 0x28, 0x00, 0x00, 0x00, 0x01, 0x00, 0x00, 0x00,
   0x4e, 0x4f, 0x4e, 0x43] ++ sampleNonce.reverse

def longTermKey : Buffer :=
  [0x8a, 0x88, 0xe3, 0xdd, 0x74, 0x09, 0xf1, 0x95, 0xfd, 0x52, 0xdb, 0x2d, 0x3c, 0xba, 0x5d, 0x72,
   0xca, 0x67, 0x09, 0xbf, 0x1d, 0x94, 0x12, 0x1b, 0xf3, 0x74, 0x88, 0x01, 0xb4, 0x0f, 0x6f, 0x5c]

def delegatedKey : Buffer :=
  [0x81, 0x39, 0x77, 0x0e, 0xa8, 0x7d, 0x17, 0x5f, 0x56, 0xa3, 0x54, 0x66, 0xc3, 0x4c, 0x7e, 0xcc,
   0xcb, 0x8d, 0x8a, 0x91, 0xb4, 0xee, 0x37, 0xa2, 0x5d, 0xf6, 0x0f, 0x5b, 0x8f, 0xc9, 0xb3, 0x94]

/-- SHA-512 of the leaf of the request. -/
def requestDigest : Buffer :=
  [0x0b, 0x1c, 0x0f, 0x34, 0xd1, 0x6e, 0x24, 0x53, 0x94, 0xde, 0xc4, 0x36, 0x0b, 0x69, 0x4d, 0x98,
   0x94, 0x76, 0x7e, 0x31, 0xcb, 0x5c, 0x4b, 0x8e, 0x11, 0x98, 0x0b, 0xf2, 0x16, 0x32, 0x45, 0xba,
   0x71, 0xb4, 0x4e, 0xd5, 0xdb, 0xdb, 0x9a, 0x88, 0x61, 0x2e, 0x73, 0x9e, 0x13, 0xe9, 0xb7, 0x58,
   0xc9, 0xe3, 0x93, 0xbd, 0xde, 0xd1, 0x06, 0x4c, 0xc9, 0xda, 0xd3, 0x6f, 0xda, 0x60, 0xd8, 0xdf]

/-- SHA-512 of the leaf of the other request. -/
def otherDigest : Buffer :=
  [0xd9, 0xae, 0xaa, 0x68, 0xca, 0xae, 0x01, 0x69, 0x92, 0x01, 0x56, 0x15, 0xe3, 0x0c, 0xa8, 0x71,
   0x0d, 0xfd, 0xc1, 0x73, 0xea, 0x09, 0x8d, 0xf3, 0x3f, 0xe1, 0xd1, 0x23, 0x29, 0x88, 0x15, 0xe7,
   0xf6, 0x41, 0x97, 0x4d, 0xff, 0x88, 0xd9, 0x6e, 0xdb, 0xf0, 0xf1, 0xf6, 0x8e, 0x0b, 0x5b, 0xae,
   0xe6, 0x33, 0xfd, 0x9d, 0xa6, 0xa4, 0x96, 0xd0, 0xf7, 0x75, 0x1e, 0x53, 0x6c, 0xab, 0x70, 0x66]

/-- SHA-512 of the node over both. -/
def rootDigest : Buffer :=
  [0xcf, 0x9a, 0xf3, 0xb3, 0xf2, 0x65, 0x9f, 0x5d, 0x41, 0xc8, 0x75, 0x60, 0x8c, 0xba, 0xc7, 0xb8,
   0xa5, 0xa9, 0xed, 0x0f, 0x52, 0x32, 0xb2, 0x5a, 0x33, 0x55, 0xdc, 0xcc, 0xfb, 0x6b, 0x85, 0x75,
   0xcd, 0xca, 0x80, 0xf7, 0xaa, 0xc1, 0xdb, 0xf2, 0x9d, 0xf9, 0x36, 0x3c, 0x24, 0xc0, 0x99, 0xca,
   0x01, 0xa8, 0xda, 0x4e, 0x84, 0xee, 0x93, 0x6f, 0x4a, 0x92, 0xdb, 0x2d, 0x2e, 0xe7, 0xd9, 0xdb]

def sampleDele : Buffer :=
  [0x03, 0x00, 0x00, 0x00, 0x20, 0x00, 0x00, 0x00, 0x28, 0x00, 0x00, 0x00, 0x50, 0x55, 0x42, 0x4b,
   0x4d, 0x49, 0x4e, 0x54, 0x4d, 0x41, 0x58, 0x54] ++ delegatedKey ++
  [0xa9, 0x76, 0x6d, 0x6a, 0x00, 0x00, 0x00, 0x00, 0xc9, 0x92, 0x6d, 0x6a, 0x00, 0x00, 0x00, 0x00]

def sampleSrep : Buffer :=
  [0x03, 0x00, 0x00, 0x00, 0x04, 0x00, 0x00, 0x00, 0x0c, 0x00, 0x00, 0x00, 0x52, 0x41, 0x44, 0x49,
   0x4d, 0x49, 0x44, 0x50, 0x52, 0x4f, 0x4f, 0x54, 0x05, 0x00, 0x00, 0x00, 0xb9, 0x84, 0x6d, 0x6a,
   0x00, 0x00, 0x00, 0x00] ++ rootDigest.take 32

/-- The signature of the long-term key over the delegation. -/
def certSig : Buffer :=
  [0xb3, 0xee, 0x26, 0xf7, 0x89, 0x89, 0x40, 0x78, 0x99, 0x99, 0x86, 0x6f, 0x8a, 0xe5, 0x98, 0x88,
   0xb8, 0x3b, 0x90, 0x9c, 0xc8, 0xf5, 0x7a, 0x26, 0x3a, 0x52, 0xef, 0x75, 0x04, 0x4f, 0xa8, 0x6e,
   0x51, 0xea, 0xd2, 0xf0, 0xf5, 0x4e, 0xef, 0x13, 0xd7, 0xca, 0xb2, 0xd0, 0x94, 0xb1, 0x34, 0x26,
   0x46, 0x2e, 0xba, 0x78, 0xf3, 0x11, 0x9a, 0xd3, 0x4d, 0xe2, 0x1f, 0x47, 0x32, 0x1b, 0x74, 0x0d]

/-- The signature of the delegated key over the report. -/
def srepSig : Buffer :=
  [0xba, 0x79, 0x8f, 0xc5, 0xa4, 0x90, 0xff, 0xcf, 0x45, 0xcc, 0x62, 0x10, 0x27, 0x87, 0x18, 0x94,
   0x22, 0x3b, 0xea, 0x8b, 0xc8, 0xce, 0x39, 0x1c, 0x58, 0xf6, 0x4b, 0x0b, 0x3a, 0x8d, 0xe8, 0xb7,
   0xa4, 0x89, 0x23, 0xbd, 0xea, 0x85, 0x5e, 0x01, 0xa9, 0x40, 0xff, 0xf8, 0x8c, 0xc0, 0x7b, 0x26,
   0x11, 0x44, 0xf4, 0xbe, 0x5f, 0x40, 0x75, 0xd3, 0x08, 0xd9, 0xba, 0x71, 0x1a, 0x6d, 0x74, 0x07]

def sampleCert : Buffer :=
  [0x02, 0x00, 0x00, 0x00, 0x40, 0x00, 0x00, 0x00] ++
  [0x53, 0x49, 0x47, 0x00, 0x44, 0x45, 0x4c, 0x45] ++ certSig ++ sampleDele

def samplePacket : Buffer :=
  [0x52, 0x4f, 0x55, 0x47, 0x48, 0x54, 0x49, 0x4d, 0x9c, 0x01, 0x00, 0x00, 0x07, 0x00, 0x00, 0x00,
   0x40, 0x00, 0x00, 0x00, 0x60, 0x00, 0x00, 0x00, 0x64, 0x00, 0x00, 0x00, 0x84, 0x00, 0x00, 0x00,
   0xc8, 0x00, 0x00, 0x00, 0x60, 0x01, 0x00, 0x00, 0x53, 0x49, 0x47, 0x00, 0x4e, 0x4f, 0x4e, 0x43,
   0x54, 0x59, 0x50, 0x45, 0x50, 0x41, 0x54, 0x48, 0x53, 0x52, 0x45, 0x50, 0x43, 0x45, 0x52, 0x54,
   0x49, 0x4e, 0x44, 0x58] ++
  srepSig ++ sampleNonce ++ [1, 0, 0, 0] ++ otherDigest.take 32 ++ sampleSrep ++ sampleCert ++
  [1, 0, 0, 0]

/-- The module on the bytes of the response: the digests of the three strings that are hashed, and
the two signatures. -/
def sampleCrypto : Crypto where
  KeyObject := Buffer
  sha512 bytes := Vector.ofFn fun i =>
    (if bytes = 0x00 :: sampleRequest then requestDigest
      else if bytes = 0x00 :: otherRequest then otherDigest
      else if bytes = 0x01 :: (otherDigest.take 32 ++ requestDigest.take 32) then rootDigest
      else []).getD i 0
  createPublicKey der :=
    if der.length = 44 then .ok (der.drop 12) else .error "Failed to read asymmetric key"
  verify data key signature := .ok (decide (
    (data = deleCtx ++ sampleDele ∧ key = longTermKey ∧ signature = certSig) ∨
    (data = srepCtx ++ sampleSrep ∧ key = delegatedKey ∧ signature = srepSig)))

theorem validate_sample : validateRoughtimeResponse sampleCrypto sampleRequest samplePacket
    longTermKey sampleNonce "roughtime-se" = .ok ⟨1785562297, 5⟩ := by
  decide +kernel

def sampleTree : Merkle.Tree Buffer 1 := .node (.leaf otherRequest) (.leaf sampleRequest)

/-- What the two keys have signed. -/
def SampleSigned (raw data : Buffer) : Prop :=
  (raw = longTermKey ∧ data = deleCtx ++ sampleDele) ∨
    (raw = delegatedKey ∧ data = srepCtx ++ sampleSrep)

theorem verifiesOnlySigned_sample : VerifiesOnlySigned sampleCrypto SampleSigned := by
  intro raw key data signature hkey hok
  unfold rebuildEd25519PublicKey at hkey
  split at hkey
  · cases hkey
  · rename_i hlen
    have hder : (Buffer.fromHex "302a300506032b6570032100").length = 12 := by decide +kernel
    have hraw : key = raw := by
      have htotal : (Buffer.fromHex "302a300506032b6570032100" ++ raw).length = 44 := by
        rw [List.length_append, hder, not_not.1 hlen]
      simp only [sampleCrypto, if_pos htotal, List.drop_left' hder] at hkey
      exact Except.ok.inj hkey.symm
    subst hraw
    simp only [sampleCrypto, Except.ok.injEq, decide_eq_true_eq] at hok
    rcases hok with ⟨hdata, hkey, -⟩ | ⟨hdata, hkey, -⟩
    · exact Or.inl ⟨hkey, hdata⟩
    · exact Or.inr ⟨hkey, hdata⟩

theorem root_sampleTree :
    (sampleTree.root (treeHash sampleCrypto)).toList = rootDigest.take 32 := by
  decide +kernel

/-- What is hashed for the sample and its tree: the two leaves and the node. -/
def sampleBytes : List Buffer :=
  [0x00 :: sampleRequest, 0x00 :: otherRequest,
    0x01 :: (otherDigest.take 32 ++ requestDigest.take 32)]

theorem hashedBytes_sample {top : Response} (hpath : top.path = otherDigest.take 32)
    (hindx : top.indx = 1) :
    ∀ bytes ∈ hashedBytes sampleCrypto sampleRequest top sampleTree, bytes ∈ sampleBytes := by
  have hother : (treeHash sampleCrypto (.leaf otherRequest)).toList = otherDigest.take 32 := by
    decide +kernel
  have hrequest : (treeHash sampleCrypto (.leaf sampleRequest)).toList = requestDigest.take 32 := by
    decide +kernel
  have hdigests : pathDigests top.path = [treeHash sampleCrypto (.leaf otherRequest)] := by
    rw [hpath]
    decide +kernel
  rintro _ ⟨input, hinput, rfl⟩
  simp only [Merkle.proofInputs, hdigests, hindx, Merkle.walkInputs, sampleTree, Merkle.Tree.inputs,
    Merkle.Tree.root, Set.mem_union, Set.mem_insert_iff, Set.mem_singleton_iff,
    Set.mem_empty_iff_false, or_false] at hinput
  rcases hinput with (rfl | rfl) | rfl | rfl | rfl <;>
    simp [sampleBytes, encode, hother, hrequest]

theorem validate_authentic_sample : ∃ (top : Response) (cert : Certificate) (report : Report),
    IsCertificate top.cert cert ∧ IsReport top.srep report ∧
    (SampleSigned longTermKey (deleCtx ++ cert.dele) ∧
      cert.mint ≤ 1785562297 ∧ 1785562297 ≤ cert.maxt) ∧
    (SampleSigned cert.pubk (srepCtx ++ top.srep) ∧
      report.midp = 1785562297 ∧ report.radi = 5) ∧
    (pathNodes top.path).length = 1 ∧ sampleTree.leaves[top.indx]? = some sampleRequest := by
  obtain ⟨message, top, cert, report, ⟨msgLen, hmsgLen, hmessage⟩, htop, hcert, hreport,
    hdelegation, hresponse, hincluded⟩ :=
    validate_authentic verifiesOnlySigned_sample validate_sample
  have hlen : msgLen = 412 :=
    Except.ok.inj (hmsgLen.symm.trans (by decide +kernel : samplePacket.readUInt32LE 8 = .ok 412))
  rw [hlen] at hmessage
  subst hmessage
  have hpath : top.path = otherDigest.take 32 := htop.path.unique (by decide +kernel)
  have hsrep : top.srep = sampleSrep := htop.srep.unique (by decide +kernel)
  have hroot : report.root = rootDigest.take 32 :=
    hreport.root.unique (by rw [hsrep]; decide +kernel)
  have hindx : top.indx = 1 := by
    obtain ⟨value, hvalue, hread⟩ := htop.indx
    have hone : value = [1, 0, 0, 0] := hvalue.unique (by decide +kernel)
    rw [hone] at hread
    exact Except.ok.inj (hread.symm.trans (by decide +kernel))
  have hinj : Set.InjOn (fun bytes => rtHash sampleCrypto [bytes])
      (hashedBytes sampleCrypto sampleRequest top sampleTree) := by
    have hnodup : (sampleBytes.map fun bytes => rtHash sampleCrypto [bytes]).Nodup := by
      decide +kernel
    intro a ha b hb hab
    exact List.inj_on_of_nodup_map hnodup (hashedBytes_sample hpath hindx a ha)
      (hashedBytes_sample hpath hindx b hb) hab
  refine ⟨top, cert, report, hcert, hreport, hdelegation, hresponse, ?_⟩
  apply hincluded 1 sampleTree _ hinj
  rw [hroot, root_sampleTree]

end RoughtimeSource

end OpenTTT
