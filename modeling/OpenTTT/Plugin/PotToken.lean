import OpenTTT.Runtime.NumberText
import OpenTTT.Time.PotSigner

/-!
# Proof-of-time tokens of agents

The actions `GENERATE_POT` and `VERIFY_POT` of `plugins/elizaos-plugin-openttt`, and the time
provider that both of them ask. A token carries its fields beside the hash of four of them, and the
signature is one of the hash. `VERIFY_POT` checks the signature and then the age, which it takes
from the field: it never computes the hash again. So what becomes of a token whose fields have been
changed depends on its new timestamp alone, `verifyPot_tampered_iff`.

SHA-256 and Ed25519 are parameters, and so is `JSON.stringify`, on which a host has a say: the
`issuedAt` of a signature is a `bigint`, on which it throws unless a `toJSON` has been added to
`BigInt.prototype`.
-/

namespace OpenTTT

/-! ## The time provider -/

/-- Times are in milliseconds. -/
structure VerifiedTime where
  timestamp : Binary64
  sources : List String
  consensus : Bool
  deviationMs : Binary64
  deriving DecidableEq

/-- The sources, by URL and label. -/
def TIME_SOURCES : List (String × String) :=
  [("https://time.nist.gov", "NIST"), ("https://www.apple.com", "Apple"),
    ("https://www.google.com", "Google"), ("https://www.cloudflare.com", "Cloudflare")]

/-- `getVerifiedTime`, from the answers of the sources and `Date.now()`. -/
def getVerifiedTime (fetchTimeFromSource : String → String → Option ℤ) (now : ℤ) : VerifiedTime :=
  let valid := TIME_SOURCES.filterMap fun s =>
    (fetchTimeFromSource s.1 s.2).map fun ts => (s.2, ts)
  if valid.length < 2 then
    { timestamp := Binary64.ofInt now
      sources := ["local"]
      consensus := false
      deviationMs := .finite 0 }
  else
    let timestamps := ((valid.map Prod.snd).insertionSort (· ≤ ·)).map Binary64.ofInt
    let mid := timestamps.length / 2
    let median :=
      if timestamps.length % 2 = 0 then
        (((timestamps.getD (mid - 1) .nan).add (timestamps.getD mid .nan)).div
          (.finite 2)).roundHalfUp
      else timestamps.getD mid .nan
    let maxDeviation := (timestamps.map fun t => (t.sub median).abs).foldl
      (fun largest t => if largest.lt t then t else largest) (.infinity true)
    { timestamp := median
      sources := valid.map Prod.fst
      consensus := maxDeviation.lt (.finite 2000)
      deviationMs := maxDeviation }

/-! ## The time of issue as a text -/

/-- The year, month and day that come a number of days after 1970-01-01. -/
def civilOfDays (days : ℤ) : ℤ × ℤ × ℤ :=
  -- eras of 400 years, and years that begin in March, so that a leap day is the last of its year
  let era := (days + 719468) / 146097
  let dayOfEra := (days + 719468) % 146097
  let yearOfEra := (dayOfEra - dayOfEra / 1460 + dayOfEra / 36524 - dayOfEra / 146096) / 365
  let dayOfYear := dayOfEra - (365 * yearOfEra + yearOfEra / 4 - yearOfEra / 100)
  let march := (5 * dayOfYear + 2) / 153
  let day := dayOfYear - (153 * march + 2) / 5 + 1
  let month := if march < 10 then march + 3 else march - 9
  (yearOfEra + 400 * era + (if month ≤ 2 then 1 else 0), month, day)

/-- The year of a text: four digits, or a sign and six of them. -/
def yearText (year : ℤ) : String :=
  if 0 ≤ year ∧ year ≤ 9999 then padStart 4 (toString year.natAbs)
  else (if year < 0 then "-" else "+") ++ padStart 6 (toString year.natAbs)

/-- `new Date(ms).toISOString()`, which throws on what is no time. -/
def toISOString : Binary64 → Except String String
  | .finite q =>
    if |q| ≤ 8640000000000000 then
      let ms := q.num.tdiv q.den
      let (year, month, day) := civilOfDays (ms / 86400000)
      let two (n : ℤ) : String := padStart 2 (toString n)
      .ok (yearText year ++ "-" ++ two month ++ "-" ++ two day ++ "T" ++
        two (ms / 3600000 % 24) ++ ":" ++ two (ms / 60000 % 60) ++ ":" ++ two (ms / 1000 % 60) ++
        "." ++ padStart 3 (toString (ms % 1000)) ++ "Z")
    else .error "Invalid time value"
  | _ => .error "Invalid time value"

example : toISOString (.finite 1709210096789) = .ok "2024-02-29T12:34:56.789Z" := by decide +kernel

/-! ## The actions -/

structure PoTToken where
  version : String
  timestamp : Binary64
  sources : List String
  consensus : Bool
  deviationMs : Binary64
  agentId : String
  nonce : String
  potHash : String
  /-- `issued_at`, the timestamp as a text. -/
  issuedAt : String
  signature : Option PotSignature
  deriving DecidableEq

/-- What the handler of an action returns. -/
structure ActionResult (α : Type) where
  success : Bool
  text : Option String := none
  error : Option String := none
  data : Option α := none

/-- `createHash("sha256").update(text).digest()`. -/
abbrev Sha256 := String → Vector UInt8 32

namespace GeneratePot

/-- `potHashRaw`, the canonical fields of a token. -/
def potHashRaw (agentId : String) (timestamp : Binary64) (sources : List String)
    (nonce : String) : String :=
  agentId ++ ":" ++ numberToString timestamp ++ ":" ++ String.intercalate "," sources ++ ":" ++
    nonce

variable {ed25519 : Ed25519}

/-- The token that the handler creates, from the verified time, the random nonce and the clock of
the signer. -/
def createPot (sha256 : Sha256) (signer : PotSigner ed25519) (agentId : Option String)
    (vt : VerifiedTime) (nonce : String) (now : ℤ) : Except String PoTToken := do
  let agentId := agentId.getD "unknown"
  let potHash :=
    Buffer.toHex (sha256 (potHashRaw agentId vt.timestamp vt.sources nonce)).toList
  let signature := signer.signPot potHash now
  let issuedAt ← toISOString vt.timestamp
  .ok { version := "1.0"
        timestamp := vt.timestamp
        sources := vt.sources
        consensus := vt.consensus
        deviationMs := vt.deviationMs
        agentId := agentId
        nonce := nonce
        potHash := potHash
        issuedAt := issuedAt
        signature := some signature }

def responseText (pot : PoTToken) : String :=
  String.intercalate "\n" [
    "Proof-of-Time generated successfully.",
    "",
    "Token Details:",
    "  Timestamp : " ++ pot.issuedAt,
    "  Sources   : " ++ String.intercalate ", " pot.sources,
    "  Consensus : " ++ (if pot.consensus then "✓ CONSENSUS" else "⚠ DEGRADED"),
    "  Deviation : " ++ numberToString pot.deviationMs ++ "ms",
    "  Nonce     : " ++ pot.nonce,
    "",
    "This PoT token is valid for 5 minutes. " ++
      "Attach it to your transaction before submitting."]

/-- The handler of `GENERATE_POT`. The token is made a text for the cache before it is returned. -/
def handler (sha256 : Sha256) (signer : PotSigner ed25519)
    (stringify : PoTToken → Except String String) (agentId : Option String) (vt : VerifiedTime)
    (nonce : String) (now : ℤ) : ActionResult PoTToken :=
  match (do
    let pot ← createPot sha256 signer agentId vt nonce now
    let _ ← stringify pot
    .ok pot) with
  | .ok pot => { success := true, text := some (responseText pot), data := some pot }
  | .error errorMsg => { success := false, error := some errorMsg }

/-- A token that the handler returns is the one that it has created. -/
theorem createPot_of_handler {sha256 : Sha256} {signer : PotSigner ed25519}
    {stringify : PoTToken → Except String String} {agentId : Option String} {vt : VerifiedTime}
    {nonce : String} {now : ℤ} {pot : PoTToken}
    (h : (handler sha256 signer stringify agentId vt nonce now).data = some pot) :
    createPot sha256 signer agentId vt nonce now = .ok pot := by
  unfold handler at h
  split at h
  · rename_i created hcreated
    obtain ⟨pot', hpot', hcreated⟩ := bind_eq_ok.1 hcreated
    obtain ⟨text, -, hcreated⟩ := bind_eq_ok.1 hcreated
    cases hcreated
    cases h
    exact hpot'
  · cases h

/-- A created token carries the signature of its hash. -/
theorem signature_of_createPot {sha256 : Sha256} {signer : PotSigner ed25519}
    {agentId : Option String} {vt : VerifiedTime} {nonce : String} {now : ℤ} {pot : PoTToken}
    (h : createPot sha256 signer agentId vt nonce now = .ok pot) :
    pot.signature = some (signer.signPot pot.potHash now) := by
  obtain ⟨issuedAt, -, h⟩ := bind_eq_ok.1 h
  cases h
  rfl

end GeneratePot

namespace VerifyPot

structure VerifyResult where
  valid : Bool
  reason : String
  pot : Option PoTToken := none
  ageMs : Option Binary64 := none
  currentTime : Option Binary64 := none
  deriving DecidableEq

def POT_MAX_AGE_MS : Binary64 := .finite (5 * 60 * 1000)

/-- The failure with a result. -/
def fail (result : VerifyResult) : ActionResult VerifyResult :=
  { success := false, error := some result.reason, data := some result }

def ageText (ageMs : Binary64) : String :=
  numberToString (ageMs.div (.finite 1000)).roundHalfUp ++ "s"

def responseText (pot : PoTToken) (ageMs : Binary64) : String :=
  String.intercalate "\n" ([
    "Proof-of-Time verification PASSED.",
    "",
    "Token Summary:",
    "  Issued    : " ++ pot.issuedAt,
    "  Age       : " ++ ageText ageMs,
    "  Sources   : " ++ String.intercalate ", " pot.sources,
    "  Consensus : " ++ (if pot.consensus then "✓ CONSENSUS" else "⚠ DEGRADED"),
    "  Deviation : " ++ numberToString pot.deviationMs ++ "ms",
    "  Agent     : " ++ pot.agentId,
    if pot.consensus then ""
      else "\n⚠ Warning: PoT was issued under degraded consensus (fewer than 2 time sources " ++
        "responded)."].filter fun l => l ≠ "")

/-- The handler of `VERIFY_POT`, for the token that it has been given or has found. -/
def handler (ed25519 : Ed25519) (pot : Option PoTToken) (vt : VerifiedTime) :
    ActionResult VerifyResult :=
  match pot with
  | none => fail ⟨false, "No PoT token found for this transaction. Generate one first with " ++
      "GENERATE_POT.", none, none, none⟩
  | some pot =>
    match pot.signature with
    | none =>
      fail ⟨false, "PoT token has no signature. Token was not generated by a trusted issuer.",
        none, none, none⟩
    | some signature =>
      if !PotSigner.verifyPotSignature ed25519 pot.potHash signature then
        fail ⟨false, "Ed25519 signature verification failed. Token may have been tampered with.",
          none, none, none⟩
      else
        let ageMs := vt.timestamp.sub pot.timestamp
        if POT_MAX_AGE_MS.lt ageMs then
          fail ⟨false, "PoT token expired. Age: " ++ ageText ageMs ++ " (max: 300s).", some pot,
            some ageMs, some vt.timestamp⟩
        else if ageMs.lt (.finite 0) then
          fail ⟨false,
            "PoT token timestamp is in the future. Possible clock manipulation detected.", some pot,
            some ageMs, some vt.timestamp⟩
        else
          { success := true
            text := some (responseText pot ageMs)
            data := some ⟨true, "PoT token is valid.", some pot, some ageMs, some vt.timestamp⟩ }

/-- Whether the result of a handler reports a valid token. -/
def reported (result : ActionResult VerifyResult) : Option Bool :=
  result.data.map VerifyResult.valid

/-- **After the signature it is the age that decides.** -/
theorem reported_handler_of_verifies {ed25519 : Ed25519} {pot : PoTToken} {signature : PotSignature}
    (hsome : pot.signature = some signature)
    (hverify : PotSigner.verifyPotSignature ed25519 pot.potHash signature = true)
    (vt : VerifiedTime) : reported (handler ed25519 (some pot) vt) =
      some (!(POT_MAX_AGE_MS.lt (vt.timestamp.sub pot.timestamp) ||
        (vt.timestamp.sub pot.timestamp).lt (.finite 0))) := by
  simp only [handler, hsome, hverify, Bool.not_true, Bool.false_eq_true, if_false]
  split
  · rename_i hold
    rw [hold]
    rfl
  · rename_i hold
    split
    · rename_i hfuture
      rw [hfuture, Bool.or_true]
      rfl
    · rename_i hfuture
      rw [Bool.not_eq_true] at hold hfuture
      rw [hold, hfuture]
      rfl

end VerifyPot

/-! ## Altered tokens -/

/-- The token has been altered in one of the four fields that its hash is made of. -/
structure Tampered (pot altered : PoTToken) : Prop where
  potHash_eq : altered.potHash = pot.potHash
  signature_eq : altered.signature = pot.signature
  differs : altered.timestamp ≠ pot.timestamp ∨ altered.agentId ≠ pot.agentId ∨
    altered.sources ≠ pot.sources ∨ altered.nonce ≠ pot.nonce

/-- An altered token verifies, so that its age decides. -/
theorem reported_handler_of_tampered {ed25519 : Ed25519} {sha256 : Sha256}
    {signer : PotSigner ed25519} {agentId : Option String} {vt : VerifiedTime} {nonce : String}
    {now : ℤ} {pot altered : PoTToken}
    (hcreated : GeneratePot.createPot sha256 signer agentId vt nonce now = .ok pot)
    (htampered : Tampered pot altered) (hideal : ed25519.Ideal {PotSigner.dataOf pot.potHash})
    (current : VerifiedTime) :
    VerifyPot.reported (VerifyPot.handler ed25519 (some altered) current) =
      some (!(VerifyPot.POT_MAX_AGE_MS.lt (current.timestamp.sub altered.timestamp) ||
        (current.timestamp.sub altered.timestamp).lt (.finite 0))) := by
  have hsignature : altered.signature = some (signer.signPot altered.potHash now) := by
    rw [htampered.signature_eq, htampered.potHash_eq]
    exact GeneratePot.signature_of_createPot hcreated
  have hverify : PotSigner.verifyPotSignature ed25519 altered.potHash
      (signer.signPot altered.potHash now) = true := by
    rw [← htampered.potHash_eq, ← Set.pair_eq_singleton] at hideal
    rw [PotSigner.verifyPotSignature_signPot signer hideal, decide_eq_true rfl]
  exact VerifyPot.reported_handler_of_verifies hsignature hverify current

/-- **What becomes of an altered token.** It is reported to be invalid exactly if its own timestamp
is older than the age allowed, or in the future. And for every time there is a moment at which a
token with that timestamp is reported to be valid. -/
theorem verifyPot_tampered_iff {ed25519 : Ed25519} {sha256 : Sha256} {signer : PotSigner ed25519}
    {agentId : Option String} {vt : VerifiedTime} {nonce : String} {now : ℤ}
    {pot altered : PoTToken}
    (hcreated : GeneratePot.createPot sha256 signer agentId vt nonce now = .ok pot)
    (htampered : Tampered pot altered)
    (hideal : ed25519.Ideal {PotSigner.dataOf pot.potHash}) :
    (∀ current : VerifiedTime,
      VerifyPot.reported (VerifyPot.handler ed25519 (some altered) current) = some false ↔
        VerifyPot.POT_MAX_AGE_MS.lt (current.timestamp.sub altered.timestamp) = true ∨
          (current.timestamp.sub altered.timestamp).lt (.finite 0) = true) ∧
    ∀ t : ℤ, altered.timestamp = Binary64.ofInt t → ∃ fetchTimeFromSource clock,
      VerifyPot.reported (VerifyPot.handler ed25519 (some altered)
        (getVerifiedTime fetchTimeFromSource clock)) = some true := by
  have hreported := reported_handler_of_tampered hcreated htampered hideal
  refine ⟨fun current => ?_, fun t ht => ?_⟩
  · rw [hreported, Option.some.injEq, Bool.not_eq_false', Bool.or_eq_true]
  · -- no source answers, and the local clock shows the time of the token
    refine ⟨fun _ _ => none, t, ?_⟩
    have hcurrent : (getVerifiedTime (fun _ _ => none) t).timestamp = altered.timestamp := ht.symm
    rw [hreported, hcurrent]
    rcases Binary64.sub_self_eq altered.timestamp with hage | hage
    · rw [hage]
      decide +kernel
    · rw [hage]
      rfl

/-- That tokens are tamper-evident: no altered token is ever reported to be valid. -/
def TokensTamperEvident : Prop :=
  ∀ (ed25519 : Ed25519) (sha256 : Sha256) (signer : PotSigner ed25519)
    (stringify : PoTToken → Except String String) (agentId : Option String) (vt : VerifiedTime)
    (nonce : String) (now : ℤ) (pot altered : PoTToken) (current : VerifiedTime),
    ed25519.Ideal {PotSigner.dataOf pot.potHash} →
    Set.InjOn sha256
      {GeneratePot.potHashRaw pot.agentId pot.timestamp pot.sources pot.nonce,
        GeneratePot.potHashRaw altered.agentId altered.timestamp altered.sources altered.nonce} →
    (GeneratePot.handler sha256 signer stringify agentId vt nonce now).data = some pot →
    Tampered pot altered →
    VerifyPot.reported (VerifyPot.handler ed25519 (some altered) current) = some false

/-! ### A token of another agent -/

namespace PotToken.Sample

def verifiedTime : VerifiedTime :=
  ⟨.finite 1700000000000, ["NIST", "Apple", "Google", "Cloudflare"], true, .finite 0⟩

def nonce : String := "5f1c0a9b7e3d42c86b1f0e9d8c7a6b54"

/-- The token of one agent, and the same token with another agent in it. -/
def token (agentId : String) : PoTToken where
  version := "1.0"
  timestamp := .finite 1700000000000
  sources := ["NIST", "Apple", "Google", "Cloudflare"]
  consensus := true
  deviationMs := .finite 0
  agentId := agentId
  nonce := nonce
  potHash := PotSigner.Sample.potHash
  issuedAt := "2023-11-14T22:13:20.000Z"
  signature := some (PotSigner.Sample.signer.signPot PotSigner.Sample.potHash 1700000000000)

/-- The SHA-256 of the fields of the two tokens. -/
def sha256 : Sha256 := fun text =>
  if text = "agent-7:1700000000000:NIST,Apple,Google,Cloudflare:5f1c0a9b7e3d42c86b1f0e9d8c7a6b54"
  then
    #v[109, 118, 7, 96, 49, 185, 93, 47, 103, 215, 93, 44, 192, 152, 54, 177, 226, 137, 245,
      111, 158, 134, 31, 158, 167, 175, 216, 171, 117, 182, 92, 212]
  else
    #v[151, 18, 66, 185, 217, 216, 79, 233, 72, 62, 18, 196, 137, 179, 9, 180, 197, 226, 104,
      77, 74, 10, 49, 255, 148, 227, 248, 237, 43, 188, 109, 162]

/-- A host with a `toJSON` of `BigInt`; the text is not used. -/
def stringify : PoTToken → Except String String := fun _ => .ok ""

theorem data_handler : (GeneratePot.handler sha256 PotSigner.Sample.signer stringify
    (some "agent-7") verifiedTime nonce 1700000000000).data = some (token "agent-7") := by
  have hhash : Buffer.toHex (sha256 (GeneratePot.potHashRaw "agent-7" verifiedTime.timestamp
      verifiedTime.sources nonce)).toList = PotSigner.Sample.potHash := by
    decide +kernel
  have hissued : toISOString verifiedTime.timestamp = .ok "2023-11-14T22:13:20.000Z" := by
    decide +kernel
  rw [GeneratePot.handler, GeneratePot.createPot, Option.getD_some, hhash, hissued]
  rfl

theorem injOn_sha256 : Set.InjOn sha256
    {GeneratePot.potHashRaw "agent-7" verifiedTime.timestamp verifiedTime.sources nonce,
      GeneratePot.potHashRaw "agent-8" verifiedTime.timestamp verifiedTime.sources nonce} := by
  have hne : sha256 (GeneratePot.potHashRaw "agent-7" verifiedTime.timestamp verifiedTime.sources
      nonce) ≠ sha256 (GeneratePot.potHashRaw "agent-8" verifiedTime.timestamp
      verifiedTime.sources nonce) := by
    decide +kernel
  rintro a (rfl | rfl) b (rfl | rfl) h
  · rfl
  · exact absurd h hne
  · exact absurd h.symm hne
  · rfl

theorem ideal : PotSigner.Sample.onePair.Ideal {PotSigner.dataOf (token "agent-7").potHash} := by
  rw [← Set.pair_eq_singleton]
  exact PotSigner.Sample.ideal rfl rfl

theorem tampered : Tampered (token "agent-7") (token "agent-8") where
  potHash_eq := rfl
  signature_eq := rfl
  differs := Or.inr (Or.inl (by decide))

/-- A minute later. -/
def current : VerifiedTime :=
  ⟨.finite 1700000060000, ["NIST", "Apple", "Google", "Cloudflare"], true, .finite 0⟩

end PotToken.Sample

open PotToken.Sample in
theorem not_tokensTamperEvident : ¬ TokensTamperEvident := by
  intro h
  have hfalse := h PotSigner.Sample.onePair sha256 PotSigner.Sample.signer stringify
    (some "agent-7") verifiedTime nonce 1700000000000 (token "agent-7") (token "agent-8") current
    ideal injOn_sha256 data_handler tampered
  rw [reported_handler_of_tampered (GeneratePot.createPot_of_handler data_handler) tampered
    ideal] at hfalse
  exact absurd hfalse (by decide +kernel)

open PotToken.Sample in
/-- The token with another agent is valid for five minutes. -/
theorem verifyPot_tampered_agent :
    (∀ current : VerifiedTime,
      VerifyPot.reported (VerifyPot.handler PotSigner.Sample.onePair (some (token "agent-8"))
          current) = some false ↔
        VerifyPot.POT_MAX_AGE_MS.lt (current.timestamp.sub (token "agent-8").timestamp) = true ∨
          (current.timestamp.sub (token "agent-8").timestamp).lt (.finite 0) = true) ∧
    ∀ t : ℤ, (token "agent-8").timestamp = Binary64.ofInt t → ∃ fetchTimeFromSource clock,
      VerifyPot.reported (VerifyPot.handler PotSigner.Sample.onePair (some (token "agent-8"))
        (getVerifiedTime fetchTimeFromSource clock)) = some true :=
  verifyPot_tampered_iff (GeneratePot.createPot_of_handler data_handler) tampered ideal

end OpenTTT
