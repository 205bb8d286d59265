import OpenTTT.Roughtime.Client

/-!
# Collecting a chain

`build_roughtime_chain_async` of `async_client.rs` and `build_roughtime_chain` of `client.rs` ask
the servers one after the other. Both draw a first nonce and a blind for every server, send the
running nonce, and go on with the nonce that the answer determines; a server that fails is left out
and the running nonce stays.

The two loops are `collect` with what one turn asks a server. `Linked` is their invariant: the
attestations so far are linked, and the running nonce is the one that the last of them determines.
So a list that is collected passes `verify_nonce_chain`, and building the chain fails for other
reasons only.
-/

namespace OpenTTT.Roughtime

structure RoughtimeServerEntry where
  name : String
  host : String
  port : UInt16
  pubkeyHex : String
  deriving DecidableEq

def ROUGHTIME_SERVERS : List RoughtimeServerEntry :=
  [{ name := "Google", host := "roughtime.sandbox.google.com", port := 2002,
     pubkeyHex := "7ad3da688c5c04c635a14786a70bcf30224cc25455371bf9d4a2bfb64b682534" },
   { name := "Cloudflare", host := "roughtime.cloudflare.com", port := 2002,
     pubkeyHex := "803eb799d6ab9e96f64e0b9b18cf6e8a14c3ad5acaa7b4af01f99e8b1a7ae07c" },
   { name := "Chainpoint", host := "roughtime.chainpoint.org", port := 2002,
     pubkeyHex := "bbad0a7e33a573ae56edada97b5a0b49e5b5ac2f7bbe25f2e3e4d9d3a80e1e74" }]

/-! ## The loops -/

/-- What the turn number `i` asks a server, with a nonce; `none` if there is no attestation. -/
abbrev Query := ℕ → RoughtimeServerEntry → Vector UInt8 32 → Option RoughtimeAttestation

/-- The loop over the servers, from the turn number `i` on: `advance` is the nonce that follows an
attestation. -/
def collect (query : Query) (advance : RoughtimeAttestation → Vector UInt8 32) (i : ℕ) :
    List RoughtimeServerEntry → Vector UInt8 32 → List RoughtimeAttestation →
    List RoughtimeAttestation
  | [], _, attestations => attestations
  | server :: servers, nonce, attestations =>
    match query i server nonce with
    | some att => collect query advance (i + 1) servers (advance att) (attestations ++ [att])
    | none => collect query advance (i + 1) servers nonce attestations

/-- One turn of `build_roughtime_chain_async`. The random bytes are drawn in order: the first nonce,
then a blind for every server. -/
def queryAsync (hexDecode : String → Option Buffer) (rng : ℕ → Vector UInt8 32)
    (network : ℕ → String → Buffer → Exchange) : Query := fun i server nonce =>
  let blind := rng (i + 1)
  match queryOneServer hexDecode server.host server.port nonce blind server.pubkeyHex
    (network i) with
  | .ok att => some att
  | .error _ => none

/-- One turn of `build_roughtime_chain`, which leaves out a server whose key is not 32 bytes in
hexadecimal. -/
def queryDecoded (hexDecode : String → Option Buffer) (rng : ℕ → Vector UInt8 32)
    (network : ℕ → String → Buffer → Exchange) : Query := fun i server nonce =>
  let blind := rng (i + 1)
  match hexDecode server.pubkeyHex with
  | some b =>
    if h : b.length = 32 then
      match queryServer server.host server.port (toVector b h) server.name nonce blind
        (network i) with
      | .ok att => some att
      | .error _ => none
    else none
  | none => none

/-- The attestations that `build_roughtime_chain_async` collects. -/
def collectAsync (sha512 : Sha512) (hexDecode : String → Option Buffer) (rng : ℕ → Vector UInt8 32)
    (network : ℕ → String → Buffer → Exchange) (servers : List RoughtimeServerEntry) :
    List RoughtimeAttestation :=
  collect (queryAsync hexDecode rng network) (fun att => att.nextNonce sha512) 0 servers (rng 0) []

/-- The attestations that `build_roughtime_chain` collects; it hashes the response and the blind
itself. -/
def collectDecoded (sha512 : Sha512) (hexDecode : String → Option Buffer)
    (rng : ℕ → Vector UInt8 32) (network : ℕ → String → Buffer → Exchange)
    (servers : List RoughtimeServerEntry) : List RoughtimeAttestation :=
  collect (queryDecoded hexDecode rng network)
    (fun att => Buffer.first32 (sha512 (att.rawResponse ++ att.blind.toList))) 0 servers (rng 0) []

def MIN_CHAIN : ℕ := 3

/-- `build_roughtime_chain_async`, for a list of servers. -/
def buildRoughtimeChainAsync (sha512 : Sha512) (sha256 : Sha256)
    (hexDecode : String → Option Buffer) (rng : ℕ → Vector UInt8 32)
    (network : ℕ → String → Buffer → Exchange) (servers : List RoughtimeServerEntry) :
    Except AsyncClientError RoughtimeChain :=
  let attestations := collectAsync sha512 hexDecode rng network servers
  if attestations.length < MIN_CHAIN then
    .error (.InsufficientServers attestations.length MIN_CHAIN)
  else (buildChainUnchecked sha256 attestations).mapError .ChainBuildFailed

/-- `build_roughtime_chain`, for a list of servers. -/
def buildRoughtimeChain (sha512 : Sha512) (sha256 : Sha256) (hexDecode : String → Option Buffer)
    (rng : ℕ → Vector UInt8 32) (network : ℕ → String → Buffer → Exchange)
    (servers : List RoughtimeServerEntry) (minK : ℕ) : Except RoughtimeClientError RoughtimeChain :=
  let attestations := collectDecoded sha512 hexDecode rng network servers
  if attestations.length < minK then .error (.InsufficientServers attestations.length minK)
  else (buildChain sha512 sha256 attestations).mapError .ChainBuildFailed

/-! ## The invariant of the loops -/

/-- The attestations are linked, and the running nonce is the one that the last of them
determines. -/
structure Linked (advance : RoughtimeAttestation → Vector UInt8 32) (nonce : Vector UInt8 32)
    (attestations : List RoughtimeAttestation) : Prop where
  chain : attestations.IsChain fun a b => b.nonce = advance a
  running : ∀ a ∈ attestations.getLast?, nonce = advance a

/-- A query sends the running nonce. -/
def SendsNonce (query : Query) : Prop :=
  ∀ i server nonce att, query i server nonce = some att → att.nonce = nonce

theorem linked_nil (advance : RoughtimeAttestation → Vector UInt8 32) (nonce : Vector UInt8 32) :
    Linked advance nonce [] :=
  ⟨List.isChain_nil, by simp⟩

/-- An attestation for the running nonce keeps the invariant. -/
theorem Linked.push {advance : RoughtimeAttestation → Vector UInt8 32} {nonce : Vector UInt8 32}
    {attestations : List RoughtimeAttestation} (h : Linked advance nonce attestations)
    {att : RoughtimeAttestation} (hatt : att.nonce = nonce) :
    Linked advance (advance att) (attestations ++ [att]) := by
  constructor
  · apply h.chain.append (List.isChain_singleton att)
    intro a ha b hb
    obtain rfl : att = b := by simpa using hb
    rw [hatt, h.running a ha]
  · intro a ha
    obtain rfl : att = a := by simpa using ha
    rfl

/-- **The loop links what it collects**, whichever servers fail. -/
theorem Linked.collect {query : Query} (hquery : SendsNonce query)
    {advance : RoughtimeAttestation → Vector UInt8 32} (i : ℕ)
    (servers : List RoughtimeServerEntry) {nonce : Vector UInt8 32}
    {attestations : List RoughtimeAttestation} (h : Linked advance nonce attestations) :
    (collect query advance i servers nonce attestations).IsChain
      fun a b => b.nonce = advance a := by
  induction servers generalizing i nonce attestations with
  | nil => exact h.chain
  | cons server servers ih =>
    rw [Roughtime.collect]
    cases hatt : query i server nonce with
    | none => exact ih (i + 1) h
    | some att => exact ih (i + 1) (h.push (hquery i server nonce att hatt))

theorem sendsNonce_queryAsync (hexDecode : String → Option Buffer) (rng : ℕ → Vector UInt8 32)
    (network : ℕ → String → Buffer → Exchange) :
    SendsNonce (queryAsync hexDecode rng network) := by
  intro i server nonce att h
  unfold queryAsync at h
  dsimp only at h
  split at h
  · rename_i att' hok
    cases h
    obtain ⟨_, _, _, -, -, -, -, rfl⟩ := queryOneServer_ok.1 hok
    rfl
  · cases h

theorem sendsNonce_queryDecoded (hexDecode : String → Option Buffer) (rng : ℕ → Vector UInt8 32)
    (network : ℕ → String → Buffer → Exchange) :
    SendsNonce (queryDecoded hexDecode rng network) := by
  intro i server nonce att h
  unfold queryDecoded at h
  dsimp only at h
  split at h
  · split at h
    · split at h
      · rename_i att' hok
        cases h
        obtain ⟨_, _, -, -, rfl⟩ := queryServer_ok.1 hok
        rfl
      · cases h
    · cases h
  · cases h

theorem verifyNonceChain_collectAsync (sha512 : Sha512) (hexDecode : String → Option Buffer)
    (rng : ℕ → Vector UInt8 32) (network : ℕ → String → Buffer → Exchange)
    (servers : List RoughtimeServerEntry) :
    verifyNonceChain sha512 (collectAsync sha512 hexDecode rng network servers) = .ok () :=
  verifyNonceChain_eq_ok.2
    ((linked_nil _ _).collect (sendsNonce_queryAsync hexDecode rng network) 0 servers)

theorem verifyNonceChain_collectDecoded (sha512 : Sha512) (hexDecode : String → Option Buffer)
    (rng : ℕ → Vector UInt8 32) (network : ℕ → String → Buffer → Exchange)
    (servers : List RoughtimeServerEntry) :
    verifyNonceChain sha512 (collectDecoded sha512 hexDecode rng network servers) = .ok () :=
  verifyNonceChain_eq_ok.2
    ((linked_nil _ _).collect (sendsNonce_queryDecoded hexDecode rng network) 0 servers)

/-! ## Building the chain -/

/-- The error of a loop over neighbours is the one that it was given. -/
theorem checkNeighbours_eq_error {α : Type*} {check : α → α → Bool} {error : ℕ → ChainError} {i : ℕ}
    {l : List α} {e : ChainError} (h : checkNeighbours check error i l = .error e) :
    ∃ pos, e = error pos := by
  induction l generalizing i with
  | nil => cases h
  | cons a l ih =>
    cases l with
    | nil => cases h
    | cons b rest =>
      rw [checkNeighbours] at h
      split at h
      · exact ih h
      · cases h
        exact ⟨i, rfl⟩

/-- A list that is linked is not rejected for its nonces. -/
theorem buildChain_ne_nonceMismatch {sha512 : Sha512} {l : List RoughtimeAttestation}
    (h : verifyNonceChain sha512 l = .ok ()) (sha256 : Sha256) (pos : ℕ) :
    buildChain sha512 sha256 l ≠ .error (.NonceMismatch pos) := by
  intro hbuild
  unfold buildChain at hbuild
  split at hbuild
  · cases hbuild
  · rw [h, ok_bind] at hbuild
    cases hordered : verifyCausalOrdering l with
    | error e =>
      obtain ⟨pos', rfl⟩ := checkNeighbours_eq_error hordered
      rw [hordered] at hbuild
      cases hbuild
    | ok =>
      rw [hordered, ok_bind] at hbuild
      unfold verifySpread at hbuild
      dsimp only at hbuild
      split at hbuild
      · cases hbuild
      · cases hbuild

/-- The check of the linkage makes no difference on a list that is linked. -/
theorem buildChainUnchecked_eq_buildChain {sha512 : Sha512} {l : List RoughtimeAttestation}
    (h : verifyNonceChain sha512 l = .ok ()) (sha256 : Sha256) :
    buildChainUnchecked sha256 l = buildChain sha512 sha256 l := by
  unfold buildChainUnchecked buildChain
  rw [h, ok_bind]

/-- So `build_roughtime_chain_async`, which leaves the check out, returns what it would return with
it. -/
theorem buildRoughtimeChainAsync_eq (sha512 : Sha512) (sha256 : Sha256)
    (hexDecode : String → Option Buffer) (rng : ℕ → Vector UInt8 32)
    (network : ℕ → String → Buffer → Exchange) (servers : List RoughtimeServerEntry) :
    buildRoughtimeChainAsync sha512 sha256 hexDecode rng network servers =
      if (collectAsync sha512 hexDecode rng network servers).length < MIN_CHAIN then
        .error (.InsufficientServers (collectAsync sha512 hexDecode rng network servers).length
          MIN_CHAIN)
      else (buildChain sha512 sha256 (collectAsync sha512 hexDecode rng network servers)).mapError
        .ChainBuildFailed := by
  have hlinked := verifyNonceChain_collectAsync sha512 hexDecode rng network servers
  rw [← buildChainUnchecked_eq_buildChain hlinked]
  rfl

/-- **Chains are linked by construction**: for all servers, answers and random bytes, what the two
clients collect passes `verify_nonce_chain`, and `build_chain` does not fail for a nonce. -/
theorem collected_chains_linked (sha512 : Sha512) (sha256 : Sha256)
    (hexDecode : String → Option Buffer) (rng : ℕ → Vector UInt8 32)
    (network : ℕ → String → Buffer → Exchange) (servers : List RoughtimeServerEntry) (minK : ℕ) :
    (verifyNonceChain sha512 (collectAsync sha512 hexDecode rng network servers) = .ok () ∧
      ∀ pos, buildChain sha512 sha256 (collectAsync sha512 hexDecode rng network servers) ≠
        .error (.NonceMismatch pos)) ∧
    verifyNonceChain sha512 (collectDecoded sha512 hexDecode rng network servers) = .ok () ∧
      ∀ pos, buildChain sha512 sha256 (collectDecoded sha512 hexDecode rng network servers) ≠
          .error (.NonceMismatch pos) ∧
        buildRoughtimeChain sha512 sha256 hexDecode rng network servers minK ≠
          .error (.ChainBuildFailed (.NonceMismatch pos)) := by
  have hasync := verifyNonceChain_collectAsync sha512 hexDecode rng network servers
  have hdecoded := verifyNonceChain_collectDecoded sha512 hexDecode rng network servers
  have hbuild := buildChain_ne_nonceMismatch hdecoded sha256
  refine ⟨⟨hasync, buildChain_ne_nonceMismatch hasync sha256⟩, hdecoded, fun pos =>
    ⟨hbuild pos, fun hfailed => ?_⟩⟩
  unfold buildRoughtimeChain at hfailed
  dsimp only at hfailed
  split at hfailed
  · cases hfailed
  · cases hchain : buildChain sha512 sha256
      (collectDecoded sha512 hexDecode rng network servers) with
    | ok chain =>
      rw [hchain] at hfailed
      cases hfailed
    | error e =>
      rw [hchain] at hfailed
      cases hfailed
      exact hbuild pos hchain

end OpenTTT.Roughtime
