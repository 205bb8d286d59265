import OpenTTT.Foundations.ExpiringFifo
import OpenTTT.Foundations.Mealy
import OpenTTT.Plugin.PotToken

/-!
# The cache of the plugin

The actions `GENERATE_POT`, `QUERY_POT` and `VERIFY_POT`, the evaluator and the periodic cleanup
share one cache of texts, `potCache` of `generatePot.ts`. A generation stores the token under its
hash and the hash under the agent, each for five minutes; when the cache is full, every store drops
the oldest entry, also if its key is there.

A call is atomic as far as the cache is concerned: no handler waits between its accesses. So a run
is a list of calls in any order, of any agents. Each access reads the clock on its own. The callback
that a handler reports to is left out: it is called after the last access, and if it throws, the
handler fails and the cache stays as it is.
-/

namespace OpenTTT

/-! ## The cache -/

structure CacheEntry where
  value : String
  expiresAt : ℤ
  deriving DecidableEq

abbrev PotCache := InsertionMap String CacheEntry

namespace GeneratePot

def MAX_CACHE_SIZE : ℕ := 1000

def potCacheSet (now : ℤ) (potCache : PotCache) (key value : String) (ttlSeconds : ℤ) : PotCache :=
  FifoMap.store MAX_CACHE_SIZE potCache (key, ⟨value, now + ttlSeconds * 1000⟩)

def potCacheGet (now : ℤ) (potCache : PotCache) (key : String) : Option String × PotCache :=
  match potCache.get? key with
  | none => (none, potCache)
  | some entry =>
    if now > entry.expiresAt then (none, potCache.delete key) else (some entry.value, potCache)

/-- What the timer does every minute. -/
def cleanup (now : ℤ) (potCache : PotCache) : PotCache :=
  potCache.deleteWhere fun e => decide (now > e.2.expiresAt)

theorem potCacheGet_eq (now : ℤ) (potCache : PotCache) (key : String) :
    potCacheGet now potCache key =
      ((ExpiringFifo.find CacheEntry.expiresAt now potCache key).1.map CacheEntry.value,
        (ExpiringFifo.find CacheEntry.expiresAt now potCache key).2) := by
  unfold potCacheGet ExpiringFifo.find
  cases potCache.get? key with
  | none => rfl
  | some entry =>
    dsimp only
    split <;> rfl

end GeneratePot

/-- The key of a token, and that of the hash of the last token of an agent. -/
def potKey (potHash : String) : String := "openttt:pot:" ++ potHash

def lastKey (agentId : String) : String := "openttt:last:" ++ agentId

theorem potKey_ne_lastKey (potHash agentId : String) : potKey potHash ≠ lastKey agentId := by
  intro h
  have htexts := congrArg String.toList h
  rw [potKey, lastKey, String.toList_append, String.toList_append] at htexts
  simp at htexts

theorem potKey_injective : Function.Injective potKey :=
  fun _ _ h => (String.append_right_inj _).1 h

theorem lastKey_injective : Function.Injective lastKey :=
  fun _ _ h => (String.append_right_inj _).1 h

/-! ## The hash in a message -/

/-- `\w`. -/
def isWordCharacter (c : Char) : Bool := c.isAlphanum || c = '_'

/-- `[0-9a-f]`, in either case. -/
def isHexCharacter (c : Char) : Bool :=
  c.isDigit || ('a' ≤ c && c ≤ 'f') || ('A' ≤ c && c ≤ 'F')

/-- `text.match(/\b([0-9a-f]{32,})\b/i)?.[1]`: between two boundaries stands a whole word, so it is
the first word of at least 32 characters that are all hexadecimal digits. -/
def textMatch (text : String) : Option String :=
  ((text.toList.splitOnP fun c => !isWordCharacter c).find? fun word =>
    32 ≤ word.length && word.all isHexCharacter).map String.ofList

example : textMatch "verify 0123456789abcdef0123456789ABCDEF, please" =
    some "0123456789abcdef0123456789ABCDEF" := by decide

/-! ## The token of a request -/

/-- `JSON.stringify` and `JSON.parse` of tokens; a text that does not parse gives `none`. -/
structure TokenJson where
  stringify : PoTToken → Except String String
  parse : String → Option PoTToken

/-- What a request for a token comes with, and the clock readings of its accesses: for the token of
the hash, for the last hash of the agent, and for the token of that one. -/
structure TokenRequest where
  agentId : Option String
  potHash : Option String
  text : Option String
  hashNow : ℤ
  lastNow : ℤ
  lastHashNow : ℤ

namespace TokenRequest

/-- `runtime.agentId ?? "unknown"`. -/
def agent (request : TokenRequest) : String := request.agentId.getD "unknown"

/-- The hash given in the options, or the one in the text; an empty one counts as none. -/
def resolvedHash (request : TokenRequest) : Option String :=
  (request.potHash <|> textMatch (request.text.getD "")).filter fun hash => hash ≠ ""

end TokenRequest

variable (parse : String → Option PoTToken)

/-- The token of a hash. -/
def cachedToken (now : ℤ) (potCache : PotCache) (potHash : String) : Option PoTToken × PotCache :=
  let cached := GeneratePot.potCacheGet now potCache (potKey potHash)
  ((cached.1.filter fun text => text ≠ "").bind parse, cached.2)

/-- The token of the last hash of an agent. -/
def lastToken (request : TokenRequest) (potCache : PotCache) : Option PoTToken × PotCache :=
  let last := GeneratePot.potCacheGet request.lastNow potCache (lastKey request.agent)
  match last.1.filter fun hash => hash ≠ "" with
  | some lastHash => cachedToken parse request.lastHashNow last.2 lastHash
  | none => (none, last.2)

/-- How `QUERY_POT` and `VERIFY_POT` look a token up: by the hash, and if there is none, by the last
hash of the agent. -/
def findToken (request : TokenRequest) (potCache : PotCache) : Option PoTToken × PotCache :=
  let byHash := match request.resolvedHash with
    | some hash => cachedToken parse request.hashNow potCache hash
    | none => (none, potCache)
  match byHash.1 with
  | some pot => (some pot, byHash.2)
  | none => lastToken parse request byHash.2

/-! ## The handlers -/

/-- The age of a token, as a text. -/
def ageLabel (ageMs : Binary64) : String :=
  if ageMs.lt (.finite 60000) then
    numberToString (ageMs.div (.finite 1000)).roundHalfUp ++ "s ago"
  else numberToString (ageMs.div (.finite 60000)).roundHalfUp ++ "m ago"

namespace QueryPot

def responseText (pot : PoTToken) (now : ℤ) : String :=
  String.intercalate "\n" [
    "Cached Proof-of-Time token:",
    "",
    "  Issued    : " ++ pot.issuedAt ++ " (" ++
      ageLabel ((Binary64.ofInt now).sub pot.timestamp) ++ ")",
    "  Sources   : " ++ String.intercalate ", " pot.sources,
    "  Consensus : " ++ (if pot.consensus then "✓ CONSENSUS" else "⚠ DEGRADED"),
    "  Deviation : " ++ numberToString pot.deviationMs ++ "ms",
    "  Agent     : " ++ pot.agentId,
    "  PotHash   : " ++ pot.potHash,
    "  Nonce     : " ++ pot.nonce]

/-- The handler of `QUERY_POT`, for the token that it has found. -/
def result (pot : Option PoTToken) (now : ℤ) : ActionResult PoTToken :=
  match pot with
  | none =>
    { success := false
      error := some "No PoT token found in cache. Generate one first with GENERATE_POT." }
  | some pot => { success := true, text := some (responseText pot now), data := some pot }

def handler (request : TokenRequest) (now : ℤ) (potCache : PotCache) :
    ActionResult PoTToken × PotCache :=
  let found := findToken parse request potCache
  (result found.1 now, found.2)

theorem data_result (pot : Option PoTToken) (now : ℤ) : (result pot now).data = pot := by
  cases pot <;> rfl

end QueryPot

namespace VerifyPot

/-- A report on a token is one on the token that the handler was given. -/
theorem eq_some_of_data {ed25519 : Ed25519} {found : Option PoTToken} {vt : VerifiedTime}
    {report : VerifyResult} {pot : PoTToken} (h : (handler ed25519 found vt).data = some report)
    (hpot : report.pot = some pot) : found = some pot := by
  cases found with
  | none =>
    cases h
    cases hpot
  | some given =>
    cases hsignature : given.signature with
    | none =>
      simp only [handler, hsignature] at h
      cases h
      cases hpot
    | some signature =>
      simp only [handler, hsignature] at h
      split_ifs at h <;> cases h
      · cases hpot
      all_goals exact hpot

end VerifyPot

namespace PotEvaluator

/-- What the evaluator logs about a token that it has found. -/
def coverageLine (pot : PoTToken) (now : ℤ) : String :=
  "[POT_COVERAGE_EVALUATOR] ✓ Transaction has PoT coverage. Issued: " ++
    ageLabel ((Binary64.ofInt now).sub pot.timestamp) ++ ", Sources: " ++
    String.intercalate ", " pot.sources ++ ", Consensus: " ++
    (if pot.consensus then "YES" else "DEGRADED") ++ "."

def warningLine : String :=
  "[POT_COVERAGE_EVALUATOR] ⚠ No Proof-of-Time found for this transaction. " ++
    "Consider calling GENERATE_POT before submitting trades to ensure " ++
    "tamper-evident temporal attestation."

/-- The handler of the evaluator. It asks for the id of the message where the generation has stored
the hash. -/
def handler (messageId : Option String) (getNow now : ℤ) (potCache : PotCache) :
    String × PotCache :=
  let cached := cachedToken parse getNow potCache (messageId.getD "undefined")
  match cached.1 with
  | some pot => (coverageLine pot now, cached.2)
  | none => (warningLine, cached.2)

end PotEvaluator

/-! ## The plugin -/

/-- What a process of the plugin has: its signer, and the host's SHA-256 and JSON. -/
structure PotPlugin (ed25519 : Ed25519) where
  signer : PotSigner ed25519
  sha256 : Sha256
  json : TokenJson

/-- A call of `GENERATE_POT`, with what the handler obtains from the time sources, the random
numbers and the clock: for the signature, and for the two accesses to the cache. -/
structure Generation where
  agentId : Option String
  vt : VerifiedTime
  nonce : String
  now : ℤ
  setNow : ℤ
  lastNow : ℤ

/-- `runtime.agentId ?? "unknown"`. -/
def Generation.agent (g : Generation) : String := g.agentId.getD "unknown"

/-- A call of the plugin. -/
inductive PluginCall where
  | generate (g : Generation)
  | query (request : TokenRequest) (now : ℤ)
  | verify (pot : Option PoTToken) (request : TokenRequest) (vt : VerifiedTime)
  | evaluate (messageId : Option String) (getNow now : ℤ)
  | cleanup (now : ℤ)

inductive PluginOutput where
  | generated (result : ActionResult PoTToken)
  | queried (result : ActionResult PoTToken)
  | verified (result : ActionResult VerifyPot.VerifyResult)
  | logged (line : String)
  | nothing

namespace PotPlugin

variable {ed25519 : Ed25519} (self : PotPlugin ed25519)

/-- The token of a generation, with its text. -/
def create (g : Generation) : Except String (PoTToken × String) := do
  let pot ← GeneratePot.createPot self.sha256 self.signer g.agentId g.vt g.nonce g.now
  let text ← self.json.stringify pot
  .ok (pot, text)

/-- The handler of `GENERATE_POT`, with what it does to the cache. -/
def generate (g : Generation) (potCache : PotCache) : ActionResult PoTToken × PotCache :=
  match self.create g with
  | .ok (pot, text) =>
    let potCache := GeneratePot.potCacheSet g.setNow potCache (potKey pot.potHash) text 300
    let potCache :=
      GeneratePot.potCacheSet g.lastNow potCache (lastKey g.agent) pot.potHash 300
    ({ success := true, text := some (GeneratePot.responseText pot), data := some pot }, potCache)
  | .error errorMsg => ({ success := false, error := some errorMsg }, potCache)

/-- The handler of `VERIFY_POT`, with the token in the options if there is one. -/
def verify (pot : Option PoTToken) (request : TokenRequest) (vt : VerifiedTime)
    (potCache : PotCache) : ActionResult VerifyPot.VerifyResult × PotCache :=
  let found := match pot with
    | some pot => (some pot, potCache)
    | none => findToken self.json.parse request potCache
  (VerifyPot.handler ed25519 found.1 vt, found.2)

/-- A call. -/
def step (potCache : PotCache) : PluginCall → PluginOutput × PotCache
  | .generate g => (self.generate g potCache).map .generated id
  | .query request now => (QueryPot.handler self.json.parse request now potCache).map .queried id
  | .verify pot request vt => (self.verify pot request vt potCache).map .verified id
  | .evaluate messageId getNow now =>
    (PotEvaluator.handler self.json.parse messageId getNow now potCache).map .logged id
  | .cleanup now => (.nothing, GeneratePot.cleanup now potCache)

/-- The cache after a run of a process. -/
def cacheAfter (cs : List PluginCall) : PotCache := Mealy.after self.step .empty cs

end PotPlugin

end OpenTTT
