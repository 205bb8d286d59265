import OpenTTT.Chain.Der

/-!
# Signing with a key in a KMS

`AWSKMSEthersSigner` and `GCPKMSEthersSigner` of `signer.ts`. The key is in a service, which
answers with a signature in DER, and `_signDigest` looks for the `v` that goes with it. What the
code uses of `ethers` is a parameter, and so is the service; `Documented` is what the documentation
of `ethers` promises. The key of the service is in DER for both signers: what the one of GCP takes
off the text in PEM before is left out.

Of a signature `(r, s)` and `(r, n - s)`, which are both valid, only the one whose `s` is at most
half of `n` is canonical. A service returns either of them, and `_signDigest` never changes the `s`
that it gets: `signDigest_canonical_iff`.
-/

namespace OpenTTT

/-- The order of the group of secp256k1. -/
def secp256k1N : ℕ := 0xFFFFFFFFFFFFFFFFFFFFFFFFFFFFFFFEBAAEDCE6AF48A03BBFD25E8CD0364141

/-- A `Signature` of `ethers`; `yParity` is 0 for a `v` of 27 and 1 for one of 28. -/
structure Signature where
  r : BitVec 256
  s : BitVec 256
  yParity : Bool
  deriving DecidableEq

/-- What the signers use of `ethers`, and `toLowerCase`. -/
structure Ethers where
  toLowerCase : String → String
  computeAddress : String → Except Thrown String
  /-- `Signature.from({ r, s, v })`. -/
  signatureFrom : String → String → ℕ → Except Thrown Signature
  recoverAddress : String → Signature → Except Thrown String
  /-- `signature.serialized`. -/
  serialized : Signature → Except Thrown String

/-- The key of a service. -/
structure KmsClient where
  sign : Buffer → Except Thrown Buffer
  getPublicKey : Except Thrown Buffer

structure KmsEthersSigner where
  client : KmsClient
  address : Option String

namespace KmsEthersSigner

variable (lib : Ethers) (self : KmsEthersSigner)

def getAddress : Except Thrown String :=
  match self.address.filter (· ≠ "") with
  | some address => .ok address
  | none => do
    let publicKeyDer ← self.client.getPublicKey
    let pubKey ← extractPublicKeyFromDER publicKeyDer
    lib.computeAddress ("0x" ++ Buffer.toHex pubKey)

/-- The loop of `_signDigest`, which throws the text behind its last turn. -/
def recover (failure digest addr r s : String) : List ℕ → Except Thrown String
  | [] => .error (.error failure)
  | v :: vs => do
    let signature ← lib.signatureFrom r s v
    let recovered ← lib.recoverAddress digest signature
    if lib.toLowerCase recovered = lib.toLowerCase addr then lib.serialized signature
    else recover failure digest addr r s vs

/-- The bytes of a digest: `Buffer.from(digest.slice(2), 'hex')`. -/
def digestBytes (digest : String) : Buffer := Buffer.fromHexDigits (digest.toList.drop 2)

/-- `_signDigest` with the text of its error. -/
def signDigestOr (failure digest : String) : Except Thrown String := do
  let derSig ← self.client.sign (digestBytes digest)
  let sig ← parseDERSignature derSig
  let addr ← self.getAddress lib
  recover lib failure digest addr sig.r sig.s [27, 28]

end KmsEthersSigner

def AWSKMSEthersSigner.signDigest (lib : Ethers) (self : KmsEthersSigner) (digest : String) :
    Except Thrown String :=
  self.signDigestOr lib "Failed to recover recovery param V for AWS KMS signature" digest

def GCPKMSEthersSigner.signDigest (lib : Ethers) (self : KmsEthersSigner) (digest : String) :
    Except Thrown String :=
  self.signDigestOr lib "Failed to recover recovery param V for GCP KMS signature" digest

/-- The services that there is a signer for. -/
inductive KmsProvider
  | aws
  | gcp

def KmsProvider.signDigest : KmsProvider → Ethers → KmsEthersSigner → String → Except Thrown String
  | .aws => AWSKMSEthersSigner.signDigest
  | .gcp => GCPKMSEthersSigner.signDigest

namespace Ethers

variable (lib : Ethers)

/-- A signature of the numbers `r` and `s`, and a `v` of 27 or 28. -/
def signature (r s v : ℕ) : Signature := ⟨BitVec.ofNat 256 r, BitVec.ofNat 256 s, v = 28⟩

@[simp] theorem toNat_signature_s {r s v : ℕ} (hs : s < 2 ^ 256) :
    (signature r s v).s.toNat = s := by
  rw [signature, BitVec.toNat_ofNat, Nat.mod_eq_of_lt hs]

/-- What is documented of `ethers`, where `signed digest address r s` stands for a valid ECDSA
signature of the digest by the key with the address. A `Signature` holds the `r`, `s` and `v` that
it is made of, and is made of canonical ones. Its `v` tells two keys apart that the signature can be
by, and `recoverAddress` is the address of the one that `v` tells. Two cases are left out, each of
about one signature in `2 ^ 128` or fewer: an `r` that was reduced by the order of the group, whose
recovery id is 2 or 3, and a point at infinity, where the other `v` tells no key. -/
structure Documented (signed : String → String → ℕ → ℕ → Prop) : Prop where
  from_holds {r s v : ℕ} {sig : Signature} (hr : r < 2 ^ 256) (hs : s < 2 ^ 256)
    (hv : v ∈ [27, 28]) :
    lib.signatureFrom (hex64 r) (hex64 s) v = .ok sig → sig = signature r s v
  from_canonical {r s v : ℕ} (hr : 0 < r ∧ r < secp256k1N) (hs : 0 < s ∧ s ≤ secp256k1N / 2)
    (hv : v ∈ [27, 28]) : ∃ sig, lib.signatureFrom (hex64 r) (hex64 s) v = .ok sig
  serialized_canonical {sig : Signature} (hs : sig.s.toNat ≤ secp256k1N / 2) :
    ∃ text, lib.serialized sig = .ok text
  serialized_inj {sig sig' : Signature} {text : String} :
    lib.serialized sig = .ok text → lib.serialized sig' = .ok text → sig = sig'
  recover_ok {digest address : String} {r s v : ℕ} (h : signed digest address r s)
    (hs : s ≤ secp256k1N / 2) (hv : v ∈ [27, 28]) :
    ∃ recovered, lib.recoverAddress digest (signature r s v) = .ok recovered
  recover_signed {digest address : String} {r s : ℕ} (h : signed digest address r s)
    (hs : s ≤ secp256k1N / 2) :
    ∃ v ∈ [27, 28], lib.recoverAddress digest (signature r s v) = .ok address

/-- The result is a canonical signature that recovers to the address. -/
def ReturnsCanonical (digest address : String) (result : Except Thrown String) : Prop :=
  ∃ (text : String) (sig : Signature) (recovered : String), result = .ok text ∧
    lib.serialized sig = .ok text ∧ sig.s.toNat ≤ secp256k1N / 2 ∧
    lib.recoverAddress digest sig = .ok recovered ∧
    lib.toLowerCase recovered = lib.toLowerCase address

end Ethers

/-! ## The loop -/

namespace KmsEthersSigner

variable {lib : Ethers} {signed : String → String → ℕ → ℕ → Prop} {failure digest address : String}
  {r s : ℕ}

/-- What the loop returns has the `s` that it was given. -/
theorem serialized_of_recover (hlib : lib.Documented signed) (hr : r < 2 ^ 256) (hs : s < 2 ^ 256)
    {text : String} {vs : List ℕ} (hvs : ∀ v ∈ vs, v ∈ [27, 28])
    (h : recover lib failure digest address (hex64 r) (hex64 s) vs = .ok text) :
    ∃ v, lib.serialized (Ethers.signature r s v) = .ok text := by
  induction vs with
  | nil => cases h
  | cons v vs ih =>
    obtain ⟨sig, hfrom, h⟩ := bind_eq_ok.1 h
    obtain ⟨recovered, -, h⟩ := bind_eq_ok.1 h
    obtain rfl := hlib.from_holds hr hs (hvs v List.mem_cons_self) hfrom
    split_ifs at h
    · exact ⟨v, h⟩
    · exact ih (fun v hv => hvs v (List.mem_cons_of_mem _ hv)) h

/-- The loop finds the `v` of a canonical signature. -/
theorem recover_returnsCanonical (hlib : lib.Documented signed) (hr : 0 < r ∧ r < secp256k1N)
    (hs : 0 < s ∧ s ≤ secp256k1N / 2) (hsigned : signed digest address r s) {vs : List ℕ}
    (hvs : ∀ v ∈ vs, v ∈ [27, 28])
    (hv : ∃ v ∈ vs, lib.recoverAddress digest (Ethers.signature r s v) = .ok address) :
    lib.ReturnsCanonical digest address
      (recover lib failure digest address (hex64 r) (hex64 s) vs) := by
  have hn : secp256k1N < 2 ^ 256 := by decide
  have hs256 : s < 2 ^ 256 := by omega
  induction vs with
  | nil =>
    obtain ⟨v, hmem, -⟩ := hv
    exact absurd hmem List.not_mem_nil
  | cons v vs ih =>
    have hv27 : v ∈ [27, 28] := hvs v List.mem_cons_self
    obtain ⟨sig, hfrom⟩ := hlib.from_canonical hr hs hv27
    obtain rfl := hlib.from_holds (hr.2.trans hn) hs256 hv27 hfrom
    obtain ⟨recovered, hrecovered⟩ := hlib.recover_ok hsigned hs.2 hv27
    have hcanonical : (Ethers.signature r s v).s.toNat ≤ secp256k1N / 2 := by
      rw [Ethers.toNat_signature_s hs256]
      exact hs.2
    rw [recover, hfrom, ok_bind, hrecovered, ok_bind]
    by_cases haddr : lib.toLowerCase recovered = lib.toLowerCase address
    · obtain ⟨text, htext⟩ := hlib.serialized_canonical hcanonical
      rw [if_pos haddr]
      exact ⟨text, _, recovered, htext, htext, hcanonical, hrecovered, haddr⟩
    · rw [if_neg haddr]
      refine ih (fun v hv => hvs v (List.mem_cons_of_mem _ hv)) ?_
      obtain ⟨w, hw, hwaddr⟩ := hv
      obtain rfl | hw := List.mem_cons.1 hw
      · rw [hrecovered, Except.ok.injEq] at hwaddr
        exact absurd (congrArg lib.toLowerCase hwaddr) haddr
      · exact ⟨w, hw, hwaddr⟩

end KmsEthersSigner

/-- Both signers are the loop with their own error. -/
theorem KmsProvider.exists_signDigest (provider : KmsProvider) : ∃ failure : String,
    ∀ lib self digest, provider.signDigest lib self digest =
      KmsEthersSigner.signDigestOr lib self failure digest := by
  cases provider with
  | aws => exact ⟨_, fun _ _ _ => rfl⟩
  | gcp => exact ⟨_, fun _ _ _ => rfl⟩

/-- A valid signature that a service returns for a digest to the signer with an address. -/
structure KmsAnswers (lib : Ethers) (signed : String → String → ℕ → ℕ → Prop)
    (signer : KmsEthersSigner) (digest address : String) (r s : ℕ) : Prop where
  r_bounds : 0 < r ∧ r < secp256k1N
  s_bounds : 0 < s ∧ s < secp256k1N
  valid : signed digest address r s
  sign : signer.client.sign (KmsEthersSigner.digestBytes digest) = .ok (derSignature r s)
  getAddress : signer.getAddress lib = .ok address

namespace KmsAnswers

variable {lib : Ethers} {signed : String → String → ℕ → ℕ → Prop} {self : KmsEthersSigner}
  {digest address : String} {r s : ℕ}

theorem r_lt (h : KmsAnswers lib signed self digest address r s) : r < 2 ^ 256 :=
  h.r_bounds.2.trans (by decide)

theorem s_lt (h : KmsAnswers lib signed self digest address r s) : s < 2 ^ 256 :=
  h.s_bounds.2.trans (by decide)

/-- What is left of `_signDigest` behind the answers of the service. -/
theorem signDigest_eq_recover (h : KmsAnswers lib signed self digest address r s)
    (provider : KmsProvider) : ∃ failure : String, provider.signDigest lib self digest =
      KmsEthersSigner.recover lib failure digest address (hex64 r) (hex64 s) [27, 28] := by
  have hparse : parseDERSignature (derSignature r s) = .ok ⟨hex64 r, hex64 s⟩ := by
    rw [derSignature, parseDERSignature_derValue (length_derInteger_lt h.r_lt)
      (length_derInteger_lt h.s_lt), hex_dropSignByte_derInteger h.r_lt,
      hex_dropSignByte_derInteger h.s_lt]
  obtain ⟨failure, hprovider⟩ := provider.exists_signDigest
  refine ⟨failure, ?_⟩
  rw [hprovider, KmsEthersSigner.signDigestOr, h.sign, ok_bind, hparse, ok_bind, h.getAddress,
    ok_bind]

/-- A canonical result has the `s` of the service. -/
theorem le_of_returnsCanonical (h : KmsAnswers lib signed self digest address r s)
    (hlib : lib.Documented signed) {provider : KmsProvider}
    (hret : lib.ReturnsCanonical digest address (provider.signDigest lib self digest)) :
    s ≤ secp256k1N / 2 := by
  obtain ⟨failure, hrecover⟩ := h.signDigest_eq_recover provider
  obtain ⟨text, sig, recovered, htext, hserialized, hcanonical, -, -⟩ := hret
  rw [hrecover] at htext
  obtain ⟨v, hv⟩ :=
    KmsEthersSigner.serialized_of_recover hlib h.r_lt h.s_lt (fun _ hv => hv) htext
  obtain rfl := hlib.serialized_inj hserialized hv
  rwa [Ethers.toNat_signature_s h.s_lt] at hcanonical

end KmsAnswers

/-- **When a signature is canonical**: what a service returns as a valid signature becomes a
canonical signature of the address if and only if it is canonical already. -/
theorem signDigest_canonical_iff {lib : Ethers} {signed : String → String → ℕ → ℕ → Prop}
    (hlib : lib.Documented signed) (provider : KmsProvider) {self : KmsEthersSigner}
    {digest address : String} {r s : ℕ} (h : KmsAnswers lib signed self digest address r s) :
    lib.ReturnsCanonical digest address (provider.signDigest lib self digest) ↔
      s ≤ secp256k1N / 2 := by
  refine ⟨h.le_of_returnsCanonical hlib, fun hlow => ?_⟩
  obtain ⟨failure, hrecover⟩ := h.signDigest_eq_recover provider
  rw [hrecover]
  exact KmsEthersSigner.recover_returnsCanonical hlib h.r_bounds ⟨h.s_bounds.1, hlow⟩ h.valid
    (fun _ hv => hv) (hlib.recover_signed h.valid hlow)

/-- Whatever a service returns becomes a canonical signature. -/
def SignaturesCanonical : Prop :=
  ∀ {lib : Ethers} {signed : String → String → ℕ → ℕ → Prop}, lib.Documented signed →
    ∀ (provider : KmsProvider) {self : KmsEthersSigner} {digest address : String} {r s : ℕ},
      KmsAnswers lib signed self digest address r s →
        lib.ReturnsCanonical digest address (provider.signDigest lib self digest)

/-! ## A key that signs -/

namespace Sample

/-- The hash of the message `OpenTTT`. -/
def digest : String := "0xabb60a0d8223b2f5b946199a4dc9e289502e477c2aec801860c42049a35846a6"

/-- The address of the key 1. -/
def address : String := "0x7E5F4552091A69125d5DfCb7b8C2659029395Bdf"

def publicKey : Buffer :=
  0x04 :: toBeBytes 32 0x79be667ef9dcbbac55a06295ce870b07029bfcdb2dce28d959f2815b16f81798 ++
    toBeBytes 32 0x483ada7726a3c4655da4fbfc0e1108a8fd17b448a68554199c47d08ffb10d4b8

/-- The object identifiers of a key on a curve, and of secp256k1. -/
def algorithm : Buffer :=
  derValue 0x06 [0x2a, 0x86, 0x48, 0xce, 0x3d, 0x02, 0x01] ++
    derValue 0x06 [0x2b, 0x81, 0x04, 0x00, 0x0a]

/-- The signature of the digest by the key 1 with the nonce 2. -/
def r : ℕ := 0xc6047f9441ed7d6d3045406e95c07cd85c778e4b8cef3ca7abac09b95c709ee5

def s : ℕ := 0x38dd44d0e208983174c5ad0471c52fb178fb7c7084498e42264ee5bb17c95225

/-- The two signatures with this nonce, up to its sign. -/
def Signed (digest' address' : String) (r' s' : ℕ) : Prop :=
  digest' = digest ∧ address' = address ∧ r' = r ∧ (s' = s ∨ s' = secp256k1N - s)

/-- A number from its 64 digits. -/
def number (hex : String) : BitVec 256 :=
  BitVec.ofNat 256 (Buffer.beValue (Buffer.fromHexDigits (hex.toList.drop 2)))

def vByte (yParity : Bool) : UInt8 := if yParity then 28 else 27

/-- `ethers` at the sample; an `s` of 256 bits cannot be read from a `Signature`. -/
def ethers : Ethers where
  toLowerCase := String.toLower
  computeAddress _ := .ok address
  signatureFrom r s v := .ok ⟨number r, number s, v = 28⟩
  recoverAddress digest' sig :=
    if 2 ^ 255 ≤ sig.s.toNat then .error .typeError
    else if digest' = digest ∧ sig.r.toNat = r ∧ sig.s.toNat = s then
      .ok (if sig.yParity then "0x6baA5d52875c23Dbe6F270C0B3dae7b671C96221" else address)
    else .error .typeError
  serialized sig :=
    if 2 ^ 255 ≤ sig.s.toNat then .error .typeError
    else .ok (Buffer.toHex (toBeBytes 32 sig.r.toNat ++ toBeBytes 32 sig.s.toNat ++
      [vByte sig.yParity]))

/-- The signer for the key, when the service answers with an `s`. -/
def signer (s : ℕ) : KmsEthersSigner where
  client := ⟨fun _ => .ok (derSignature r s), .ok (subjectPublicKeyInfo algorithm publicKey)⟩
  address := none

theorem number_hex64 {n : ℕ} (hn : n < 2 ^ 256) : number (hex64 n) = BitVec.ofNat 256 n := by
  have hdrop : (hex64 n).toList.drop 2 = (Buffer.toHex (toBeBytes 32 n)).toList := by
    rw [hex64, String.toList_append]
    rfl
  have hbytes := Buffer.fromHex_toHex (toBeBytes 32 n)
  rw [Buffer.fromHex] at hbytes
  rw [number, hdrop, hbytes, Buffer.beValue_toBeBytes (hn.trans_eq (pow_mul 2 8 32))]

theorem vByte_injective {v v' : Bool} (h : vByte v = vByte v') : v = v' := by
  cases v <;> cases v' <;> first | rfl | cases h

/-- The canonical one of the two signatures. -/
theorem signed_of_le {digest' address' : String} {r' s' : ℕ} (h : Signed digest' address' r' s')
    (hs : s' ≤ secp256k1N / 2) : digest = digest' ∧ address = address' ∧ r = r' ∧ s = s' := by
  obtain ⟨rfl, rfl, rfl, rfl | rfl⟩ := h
  · exact ⟨rfl, rfl, rfl, rfl⟩
  · exact absurd hs (by decide)

theorem recoverAddress_signature (v : ℕ) : ethers.recoverAddress digest (Ethers.signature r s v) =
    .ok (if v = 28 then "0x6baA5d52875c23Dbe6F270C0B3dae7b671C96221" else address) := by
  have hr : (BitVec.ofNat 256 r).toNat = r := by decide
  have hs : (BitVec.ofNat 256 s).toNat = s := by decide
  have hcanonical : ¬ 2 ^ 255 ≤ s := by decide
  simp only [ethers, Ethers.signature, hr, hs, hcanonical, if_false, and_self, if_true,
    decide_eq_true_eq]

theorem ethers_documented : ethers.Documented Signed where
  from_holds {r s v sig} hr hs _ h := by
    simp only [ethers, number_hex64 hr, number_hex64 hs, Except.ok.injEq] at h
    exact h.symm
  from_canonical _ _ _ := ⟨_, rfl⟩
  serialized_canonical {sig} hs := by
    have hhalf : secp256k1N / 2 < 2 ^ 255 := by decide
    simp only [ethers, if_neg (show ¬ 2 ^ 255 ≤ sig.s.toNat by omega)]
    exact ⟨_, rfl⟩
  serialized_inj {sig sig' text} h h' := by
    simp only [ethers] at h h'
    split_ifs at h h'
    rw [← Except.ok.inj h', Except.ok.injEq] at h
    have hbytes := congrArg Buffer.fromHex h
    rw [Buffer.fromHex_toHex, Buffer.fromHex_toHex, List.append_assoc, List.append_assoc] at hbytes
    obtain ⟨hr, hrest⟩ := List.append_inj hbytes (by simp)
    obtain ⟨hs, hv⟩ := List.append_inj hrest (by simp)
    have hr' := congrArg Buffer.beValue hr
    have hs' := congrArg Buffer.beValue hs
    have hwidth : 2 ^ 256 = 256 ^ 32 := pow_mul 2 8 32
    rw [Buffer.beValue_toBeBytes (hwidth ▸ sig.r.isLt),
      Buffer.beValue_toBeBytes (hwidth ▸ sig'.r.isLt)] at hr'
    rw [Buffer.beValue_toBeBytes (hwidth ▸ sig.s.isLt),
      Buffer.beValue_toBeBytes (hwidth ▸ sig'.s.isLt)] at hs'
    have hparity := vByte_injective (List.head_eq_of_cons_eq hv)
    cases sig
    cases sig'
    rw [Signature.mk.injEq]
    exact ⟨BitVec.eq_of_toNat_eq hr', BitVec.eq_of_toNat_eq hs', hparity⟩
  recover_ok {digest address r s v} h hs _ := by
    obtain ⟨rfl, rfl, rfl, rfl⟩ := signed_of_le h hs
    exact ⟨_, recoverAddress_signature v⟩
  recover_signed {digest address r s} h hs := by
    obtain ⟨rfl, rfl, rfl, rfl⟩ := signed_of_le h hs
    exact ⟨27, List.mem_cons_self, recoverAddress_signature 27⟩

theorem kmsAnswers {s' : ℕ} (hs : s' = s ∨ s' = secp256k1N - s) :
    KmsAnswers ethers Signed (signer s') digest address r s' where
  r_bounds := by decide
  s_bounds := by obtain rfl | rfl := hs <;> decide
  valid := ⟨rfl, rfl, rfl, hs⟩
  sign := rfl
  getAddress := by
    have hkey : extractPublicKeyFromDER (subjectPublicKeyInfo algorithm publicKey) =
        .ok publicKey :=
      extractPublicKeyFromDER_subjectPublicKeyInfo (by decide) (by decide) rfl
    rw [KmsEthersSigner.getAddress, signer]
    simp only [Option.filter_none, hkey, ok_bind]
    rfl

end Sample

/-- The sample with the canonical `s`. -/
theorem sample_canonical :
    Sample.ethers.ReturnsCanonical Sample.digest Sample.address
        (KmsProvider.aws.signDigest Sample.ethers (Sample.signer Sample.s) Sample.digest) ↔
      Sample.s ≤ secp256k1N / 2 :=
  signDigest_canonical_iff Sample.ethers_documented .aws (Sample.kmsAnswers (.inl rfl))

/-- The sample with the other `s`. -/
theorem not_signaturesCanonical : ¬ SignaturesCanonical := by
  intro h
  have hanswers := Sample.kmsAnswers (.inr rfl)
  have hle := hanswers.le_of_returnsCanonical Sample.ethers_documented
    (h Sample.ethers_documented .aws hanswers)
  revert hle
  decide

end OpenTTT
