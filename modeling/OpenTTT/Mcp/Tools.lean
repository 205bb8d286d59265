import OpenTTT.Foundations.Hysteresis
import OpenTTT.Plugin.PotToken
import OpenTTT.Runtime.Json
import OpenTTT.Switch.TypeScript
import OpenTTT.Time.OnChainHash

/-!
# The tools of the MCP server

`mcp/tools.ts`: the server keeps a log of the proofs that it has generated and a switch, and its
tools generate a proof, verify one, query the log, count in it and tell how the server is. A tool
that waits for the network leaves the server to the others in the meantime: `pot_generate` changes
nothing before its proof is there, `pot_query` reads the log before it asks the subgraph and its
length afterwards, and `pot_health` reads the server at its end.

The integrity pipeline of the SDK is a parameter, with the encoder, Keccak-256, Ed25519 and the key
of the server. A call receives the proof that the time synthesis ends in, and the readings of the
clock.
-/

namespace OpenTTT

namespace Mcp

structure PotAnchorEntry where
  potHash : String
  timestamp : ℤ
  stratum : Binary64
  mode : AdaptiveMode
  chainId : Binary64
  poolAddress : String
  createdAt : ℤ
  deriving DecidableEq

def POT_LOG_MAX : ℕ := 10000

/-- The instances that the tools share, as far as they change. -/
structure Server where
  adaptiveSwitch : AdaptiveSwitch
  potLog : List PotAnchorEntry

def Server.start : Server := ⟨AdaptiveSwitch.new none, []⟩

/-- `IntegrityPipeline`, on the bytes of a transaction or on shards, with a chain and a pool. -/
structure GrgPipeline where
  processForward : Buffer → Binary64 → String → Except Thrown (List Buffer)
  processInverse : List Buffer → ℕ → Binary64 → String → Except Thrown Buffer

/-- What the tools use and never change. -/
structure Host (ed25519 : Ed25519) where
  startedAt : ℤ
  encode : AbiEncoder
  keccak256 : Buffer → Bytes32
  grg : GrgPipeline
  potSigner : PotSigner ed25519

/-! ## `pot_generate` -/

/-- A call with what it takes from outside: the proof, and the clock readings of the signature and
of the entry in the log. -/
structure Generation where
  txHash : String
  chainId : Binary64
  poolAddress : String
  pot : Except Thrown ProofOfTime
  signedAt : ℤ
  createdAt : ℤ

structure Generated where
  potHash : String
  timestamp : ℤ
  stratum : Binary64
  uncertainty : Binary64
  confidence : Binary64
  sources : Binary64
  nonce : String
  expiresAt : ℤ
  grgShards : List String
  signature : PotSignature

section

variable {ed25519 : Ed25519} (host : Host ed25519)

/-- The entry and the answer of a generation, or what it throws. -/
def create (mode : AdaptiveMode) (g : Generation) : Except Thrown (PotAnchorEntry × Generated) := do
  let pot ← g.pot
  let potHash ← TimeSynthesis.getOnChainHash host.encode host.keccak256 pot
  let txData := g.txHash.toUTF8.toList
  let grgShards ← host.grg.processForward txData g.chainId g.poolAddress
  let signature := host.potSigner.signPot potHash g.signedAt
  let entry : PotAnchorEntry :=
    { potHash
      timestamp := pot.timestamp
      stratum := pot.stratum
      mode
      chainId := g.chainId
      poolAddress := g.poolAddress
      createdAt := g.createdAt }
  .ok (entry,
    { potHash
      timestamp := pot.timestamp
      stratum := pot.stratum
      uncertainty := pot.uncertainty
      confidence := pot.confidence
      sources := pot.sources
      nonce := pot.nonce
      expiresAt := pot.expiresAt
      grgShards := grgShards.map Buffer.toHex
      signature })

def potGenerate (g : Generation) (server : Server) : Except Thrown Generated × Server :=
  match create host server.adaptiveSwitch.getCurrentMode g with
  | .error e => (.error e, server)
  | .ok (entry, answer) =>
    (.ok answer, { server with potLog := SlidingWindow.push POT_LOG_MAX server.potLog entry })

/-! ## `pot_verify` -/

structure Verification where
  potHash : String
  grgShards : List String
  chainId : Binary64
  poolAddress : String
  /-- The key, the signature, and the time of issue as a text. -/
  signature : Option (String × String × String)

structure Verified where
  valid : Bool
  reason : Option String
  mode : String
  potHash : String
  reconstructedBytes : ℕ
  /-- `checks`: of the HMAC, and of the signature. -/
  checks : Option (Bool × Bool)
  verifiedAt : ℤ

def modeText (server : Server) : String :=
  if server.adaptiveSwitch.getCurrentMode = .TURBO then "turbo" else "full"

/-- The bytes that are recovered of the shards; none where the pipeline throws. -/
def recovered (v : Verification) : Buffer :=
  match host.grg.processInverse (v.grgShards.map Buffer.fromHex) 0 v.chainId v.poolAddress with
  | .ok data => data
  | .error _ => []

def potVerify (v : Verification) (now : ℤ) (server : Server) : Except Thrown Verified :=
  let hmacValid := decide (0 < (recovered host v).length)
  if !hmacValid then
    .ok
      { valid := false
        reason := some "HMAC integrity check failed — GRG shards tampered or mismatched context"
        mode := modeText server
        potHash := v.potHash
        reconstructedBytes := 0
        checks := none
        verifiedAt := now }
  else do
    let ed25519Valid ← match v.signature with
      | none => .ok true
      | some (issuerPubKey, signature, issuedAt) => do
        let issued ← JsValue.toBigInt (some (.string issuedAt))
        .ok (PotSigner.verifyPotSignature ed25519 v.potHash ⟨issuerPubKey, signature, issued⟩)
    .ok
      { valid := hmacValid && ed25519Valid
        reason := if ed25519Valid then none else some "Ed25519 signature verification failed"
        mode := modeText server
        potHash := v.potHash
        reconstructedBytes := (recovered host v).length
        checks := some (hmacValid, ed25519Valid)
        verifiedAt := now }

end

/-! ## `pot_query` -/

structure Query where
  startTime : Option Binary64
  endTime : Option Binary64
  limit : Option Binary64

/-- The integer towards zero. -/
def truncate (q : ℚ) : ℤ := if 0 ≤ q then ⌊q⌋ else ⌈q⌉

/-- `slice(start)` of an array. -/
def slice {α : Type} (start : Binary64) (l : List α) : List α :=
  match start with
  | .finite q =>
    if truncate q < 0 then l.drop (l.length + truncate q).toNat else l.drop (truncate q).toNat
  | .infinity negative => if negative then l else []
  | .nan => l

namespace Query

/-- The limit that is used. -/
def effectiveLimit (query : Query) : Binary64 := (query.limit.getD (.finite 100)).min (.finite 1000)

def start (query : Query) (now : ℤ) : Binary64 :=
  query.startTime.getD ((Binary64.ofInt now).sub (.finite 86400000))

def stop (query : Query) (now : ℤ) : Binary64 := query.endTime.getD (Binary64.ofInt now)

/-- Whether an entry is in the window of time. -/
def covers (query : Query) (now : ℤ) (e : PotAnchorEntry) : Bool :=
  (query.start now).le (Binary64.ofInt e.createdAt) &&
    (Binary64.ofInt e.createdAt).le (query.stop now)

end Query

/-- What `pot_query` takes from the log, before it asks the subgraph. -/
def potQuery (query : Query) (now : ℤ) (server : Server) : List PotAnchorEntry :=
  slice query.effectiveLimit.neg (server.potLog.filter (query.covers now))

/-! ## `pot_stats` -/

inductive Period
  | day
  | week
  | month
  deriving DecidableEq

def Period.ms : Period → ℤ
  | .day => 86400000
  | .week => 604800000
  | .month => 2592000000

structure Stats where
  period : Period
  totalSwaps : ℕ
  turboCount : ℕ
  fullCount : ℕ
  turboRatio : Binary64
  currentMode : AdaptiveMode
  windowStart : String
  windowEnd : String
  deriving DecidableEq

/-- `+x.toFixed(4)` of a number that is not negative. -/
def toFixed4 : Binary64 → Binary64
  | .finite q => Binary64.round (⌊q * 10000 + 1 / 2⌋ / 10000)
  | x => x

/-- Whether an entry was made since a time. -/
def since (cutoff : ℤ) (e : PotAnchorEntry) : Bool := decide (cutoff ≤ e.createdAt)

def potStats (period : Period) (now : ℤ) (server : Server) : Except String Stats := do
  let cutoff := now - period.ms
  let entries := server.potLog.filter (since cutoff)
  let turboCount := entries.countP fun e => decide (e.mode = .TURBO)
  let fullCount := entries.countP fun e => decide (e.mode = .FULL)
  let totalSwaps := entries.length
  let windowStart ← toISOString (Binary64.ofInt cutoff)
  let windowEnd ← toISOString (Binary64.ofInt now)
  .ok
    { period
      totalSwaps
      turboCount
      fullCount
      turboRatio :=
        if totalSwaps > 0 then
          toFixed4 ((Binary64.ofNat turboCount).div (Binary64.ofNat totalSwaps))
        else .finite 0
      currentMode := server.adaptiveSwitch.getCurrentMode
      windowStart
      windowEnd }

/-! ## `pot_health` -/

/-- What comes of the question to the subgraph. -/
inductive SubgraphMeta
  | answered (block : Option Binary64) (hasIndexingErrors : Bool)
  /-- An answer with an error status. -/
  | refused
  | failed

/-- What `pot_health` finds outside: the number of sources of a synthesis that ends within five
seconds, if it does, and the answer of the subgraph. -/
structure Probe where
  synth : Option Binary64
  subgraph : SubgraphMeta

structure Health where
  status : String
  timeStatus : String
  activeSources : Binary64
  latestBlock : Binary64
  syncStatus : String
  uptime : ℤ
  uptimeHuman : String
  potCount : ℕ
  currentMode : AdaptiveMode
  signerPubKey : String

/-- `x.toFixed(1)` of a finite number below 10 to the 21. -/
def toFixed1 : Binary64 → String
  | .finite q =>
    let tenths := ⌊|q| * 10 + 1 / 2⌋.toNat
    (if q < 0 then "-" else "") ++ toString (tenths / 10) ++ "." ++ toString (tenths % 10)
  | .infinity negative => if negative then "-Infinity" else "Infinity"
  | .nan => "NaN"

def Probe.timeStatus (probe : Probe) : String :=
  match probe.synth with
  | some sources => if (Binary64.finite 2).le sources then "healthy" else "degraded"
  | none => "unhealthy"

def potHealth {ed25519 : Ed25519} (host : Host ed25519) (probe : Probe) (now : ℤ)
    (server : Server) : Health :=
  let timeStatus := probe.timeStatus
  let uptimeMs := now - host.startedAt
  { status := if timeStatus = "healthy" then "ok" else timeStatus
    timeStatus
    activeSources := probe.synth.getD (.finite 0)
    latestBlock :=
      match probe.subgraph with
      | .answered block _ => block.getD (.finite 0)
      | _ => .finite 0
    syncStatus :=
      match probe.subgraph with
      | .answered _ hasIndexingErrors => if hasIndexingErrors then "indexing_errors" else "synced"
      | .refused => "unknown"
      | .failed => "unreachable"
    uptime := uptimeMs
    uptimeHuman := toFixed1 ((Binary64.ofInt uptimeMs).div (.finite 3600000)) ++ "h"
    potCount := server.potLog.length
    currentMode := server.adaptiveSwitch.getCurrentMode
    signerPubKey := host.potSigner.pubKeyHex }

/-! ## Runs -/

/-- What happens at a server, one after the other: the second half of `pot_query` is one more call,
with the answer of the subgraph. -/
inductive ToolCall
  | generate (g : Generation)
  | verify (v : Verification) (now : ℤ)
  | query (query : Query) (now : ℤ)
  | subgraph (anchors : Option (List JsValue))
  | stats (period : Period) (now : ℤ)
  | health (probe : Probe) (now : ℤ)

inductive ToolAnswer
  | generated (result : Except Thrown Generated)
  | verified (result : Except Thrown Verified)
  | queried (entries : List PotAnchorEntry)
  | totals (subgraph : List JsValue) (totalLocal : ℕ)
  | stats (result : Except String Stats)
  | health (result : Health)

def step {ed25519 : Ed25519} (host : Host ed25519) (server : Server) :
    ToolCall → ToolAnswer × Server
  | .generate g => (.generated (potGenerate host g server).1, (potGenerate host g server).2)
  | .verify v now => (.verified (potVerify host v now server), server)
  | .query query now => (.queried (potQuery query now server), server)
  | .subgraph anchors => (.totals (anchors.getD []) server.potLog.length, server)
  | .stats period now => (.stats (potStats period now server), server)
  | .health probe now => (.health (potHealth host probe now server), server)

/-- The server after some calls. -/
def serverAfter {ed25519 : Ed25519} (host : Host ed25519) (calls : List ToolCall) : Server :=
  Mealy.after (step host) .start calls

end Mcp

end OpenTTT
