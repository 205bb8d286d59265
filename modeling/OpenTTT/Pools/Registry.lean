import OpenTTT.Contracts.AbiCoder
import OpenTTT.Foundations.InsertionMap
import OpenTTT.Foundations.Mealy

/-!
# The registry of pools

`PoolRegistry` of `pool_registry.ts`. The maps of the class keep the order in which their keys were
first set, and a mapping is dropped from the front when they are full. What the code calls of
`ethers` is a parameter, and so is `toLowerCase`, which knows the case of every character.

`deserialize` takes any text. The keys and the addresses in the maps are texts here; JSON with
another kind of value in their place gives a registry that its class excludes, and `untypedKey`
stands for it. A chain id that is read from JSON can be of any kind.

`step` is one operation, with what it returns or throws.
-/

namespace OpenTTT

/-- The functions that the registry calls. -/
structure PoolLibrary where
  toLowerCase : String → String
  /-- `ethers.getAddress`: the bytes of the address that a text stands for, if it is one. -/
  address : String → Option Address
  encode : AbiEncoder
  keccak256 : Buffer → Bytes32

/-- An entry of the map of pools. -/
structure PoolStats where
  chainId : Option JsValue
  minted : ℤ
  burned : ℤ

structure PoolRegistry where
  pools : InsertionMap String PoolStats
  tokenToPool : InsertionMap String String

namespace PoolRegistry

def MAX_POOLS : ℕ := 10000

def MAX_TOKEN_MAPPINGS : ℕ := 100000

/-- A new registry. -/
def new : PoolRegistry := ⟨.empty, .empty⟩

variable (lib : PoolLibrary)

/-- `poolAddress && ethers.isAddress(poolAddress.toLowerCase())`. -/
def isAddress (poolAddress : String) : Bool :=
  poolAddress ≠ "" && (lib.address (lib.toLowerCase poolAddress)).isSome

def invalidAddress (poolAddress : String) : Thrown :=
  .error ("[PoolRegistry] Invalid pool address: " ++ poolAddress)

def registerPool (chainId : Number) (poolAddress : String) (self : PoolRegistry) :
    Except Thrown PoolRegistry :=
  if !isAddress lib poolAddress then .error (invalidAddress poolAddress)
  else
    let key := lib.toLowerCase poolAddress
    if self.pools.has key then .ok self
    else if self.pools.size ≥ MAX_POOLS then
      .error (.error ("[PoolRegistry] Registry full (max " ++ toString MAX_POOLS ++
        " pools). Cannot register more."))
    else .ok { self with pools := self.pools.set key ⟨some (.number chainId.value), 0, 0⟩ }

/-- The number is an integer that fits into 32 bits. -/
def isSlotIndex (slotIndex : Binary64) : Bool :=
  !(slotIndex.lt (.finite 0) || (Binary64.finite 4294967295).lt slotIndex ||
    slotIndex.toInt?.isNone)

def getTokenId (chainId : Number) (poolAddress : String) (timestamp : ℤ) (slotIndex : Number)
    (self : PoolRegistry) : Except Thrown (String × PoolRegistry) :=
  if !isAddress lib poolAddress then .error (invalidAddress poolAddress)
  else if !isSlotIndex slotIndex.value then
    .error (.error ("[PoolRegistry] slotIndex must be integer in [0, 4294967295], got: " ++
      numberToString slotIndex.value))
  else if timestamp > 18446744073709551615 then
    .error (.error ("[PoolRegistry] Timestamp overflow: " ++ toString timestamp ++
      " exceeds uint64 max"))
  else do
    let normalizedAddress := lib.toLowerCase poolAddress
    let chain ← JsValue.toBigInt (some (.number chainId.value))
    let data ← lib.encode ["uint256", "address", "uint64", "uint32"]
      [.bigint chain, .string normalizedAddress, .bigint timestamp, .number slotIndex.value]
    let tokenId := "0x" ++ Buffer.toHex (lib.keccak256 data).toList
    let tokenToPool :=
      if self.tokenToPool.size ≥ MAX_TOKEN_MAPPINGS then self.tokenToPool.dropOldest
      else self.tokenToPool
    .ok (tokenId, { self with tokenToPool := tokenToPool.set tokenId normalizedAddress })

def isValidForPool (tokenId poolAddress : String) (self : PoolRegistry) : Bool :=
  isAddress lib poolAddress &&
    decide (self.tokenToPool.get? tokenId = some (lib.toLowerCase poolAddress))

def getPoolStats (poolAddress : String) (self : PoolRegistry) : Option (ℤ × ℤ) :=
  if !isAddress lib poolAddress then none
  else (self.pools.get? (lib.toLowerCase poolAddress)).map fun stats =>
    (stats.minted, stats.burned)

/-- Change the entry of a pool, if there is one. -/
def updateStats (poolAddress : String) (f : PoolStats → PoolStats) (self : PoolRegistry) :
    PoolRegistry :=
  if !isAddress lib poolAddress then self
  else
    match self.pools.get? (lib.toLowerCase poolAddress) with
    | some stats => { self with pools := self.pools.set (lib.toLowerCase poolAddress) (f stats) }
    | none => self

def recordMint (poolAddress : String) (amount : ℤ) (self : PoolRegistry) : PoolRegistry :=
  updateStats lib poolAddress (fun stats => { stats with minted := stats.minted + amount }) self

def recordBurn (poolAddress : String) (amount : ℤ) (self : PoolRegistry) : PoolRegistry :=
  updateStats lib poolAddress (fun stats => { stats with burned := stats.burned + amount }) self

def listPools (self : PoolRegistry) : List String := self.pools.keys

/-! ## Text -/

/-- An entry of `poolsArray`. -/
def poolToJs (entry : String × PoolStats) : JsValue :=
  .object ([("address", .string entry.1)] ++
    (entry.2.chainId.map fun chainId => ("chainId", chainId)).toList ++
    [("minted", .string (toString entry.2.minted)), ("burned", .string (toString entry.2.burned))])

/-- An entry of `tokenMappings`. -/
def mappingToJs (entry : String × String) : JsValue :=
  .object [("tokenId", .string entry.1), ("poolAddress", .string entry.2)]

def toJs (self : PoolRegistry) : JsValue :=
  .object [("pools", .array (self.pools.entries.map poolToJs)),
    ("tokenMappings", .array (self.tokenToPool.entries.map mappingToJs))]

def serialize (self : PoolRegistry) : Except Thrown String := self.toJs.stringify none

/-- Why a text does not become a registry. -/
inductive RestoreError
  | thrown (e : Thrown)
  /-- A key of a map, or the address of a mapping, would not be a text. -/
  | untypedKey
  deriving DecidableEq

/-- A value that is stored as a text. -/
def keyText : Option JsValue → Except RestoreError String
  | some (.string text) => .ok text
  | _ => .error .untypedKey

/-- The values that a loop over a value takes. -/
def iterate : Option JsValue → Except Thrown (List JsValue)
  | some (.array elements) => .ok elements
  | some (.string text) => .ok (text.toList.map fun c => .string (String.singleton c))
  | _ => .error .typeError

/-- Whether a condition takes a value as true. -/
def truthy : Option JsValue → Bool
  | none | some .null => false
  | some (.boolean b) => b
  | some (.number x) => decide (x ≠ .finite 0 ∧ x ≠ .nan)
  | some (.bigint z) => decide (z ≠ 0)
  | some (.string text) => decide (text ≠ "")
  | some (.array _) | some (.object _) => true

/-- The body of the loop over the pools. -/
def restorePool (pools : InsertionMap String PoolStats) (p : JsValue) :
    Except RestoreError (InsertionMap String PoolStats) := do
  let address ← (p.get "address").mapError .thrown
  let chainId ← (p.get "chainId").mapError .thrown
  let minted ← (p.get "minted" >>= JsValue.toBigInt).mapError .thrown
  let burned ← (p.get "burned" >>= JsValue.toBigInt).mapError .thrown
  let key ← keyText address
  .ok (pools.set key ⟨chainId, minted, burned⟩)

/-- The body of the loop over the mappings. -/
def restoreMapping (tokenToPool : InsertionMap String String) (t : JsValue) :
    Except RestoreError (InsertionMap String String) := do
  let tokenId ← (t.get "tokenId").mapError .thrown
  let poolAddress ← (t.get "poolAddress").mapError .thrown
  let key ← keyText tokenId
  let address ← keyText poolAddress
  .ok (tokenToPool.set key address)

def deserialize (json : String) : Except RestoreError PoolRegistry := do
  let data ← (JsValue.parse json).mapError .thrown
  let poolsArray ← (data.get "pools" >>= iterate).mapError .thrown
  let pools ← poolsArray.foldlM restorePool .empty
  let mappings ← (data.get "tokenMappings").mapError .thrown
  if truthy mappings then
    let mappingsArray ← (iterate mappings).mapError .thrown
    let tokenToPool ← mappingsArray.foldlM restoreMapping .empty
    .ok ⟨pools, tokenToPool⟩
  else .ok ⟨pools, .empty⟩

/-! ## Operations -/

inductive Operation
  | registerPool (chainId : Number) (poolAddress : String)
  | getTokenId (chainId : Number) (poolAddress : String) (timestamp : ℤ) (slotIndex : Number)
  | isValidForPool (tokenId poolAddress : String)
  | getPoolStats (poolAddress : String)
  | recordMint (poolAddress : String) (amount : ℤ)
  | recordBurn (poolAddress : String) (amount : ℤ)
  | listPools
  | serialize

/-- What an operation returns. -/
inductive Result
  | undefined
  | tokenId (id : String)
  | valid (b : Bool)
  | stats (stats : Option (ℤ × ℤ))
  | addresses (list : List String)
  | json (text : String)

/-- An operation as a step. What throws does so before it changes the registry. -/
def step (self : PoolRegistry) : Operation → Except Thrown Result × PoolRegistry
  | .registerPool chainId poolAddress =>
    match registerPool lib chainId poolAddress self with
    | .ok self' => (.ok .undefined, self')
    | .error e => (.error e, self)
  | .getTokenId chainId poolAddress timestamp slotIndex =>
    match getTokenId lib chainId poolAddress timestamp slotIndex self with
    | .ok (tokenId, self') => (.ok (.tokenId tokenId), self')
    | .error e => (.error e, self)
  | .isValidForPool tokenId poolAddress =>
    (.ok (.valid (isValidForPool lib tokenId poolAddress self)), self)
  | .getPoolStats poolAddress => (.ok (.stats (getPoolStats lib poolAddress self)), self)
  | .recordMint poolAddress amount => (.ok .undefined, recordMint lib poolAddress amount self)
  | .recordBurn poolAddress amount => (.ok .undefined, recordBurn lib poolAddress amount self)
  | .listPools => (.ok (.addresses self.listPools), self)
  | .serialize => (self.serialize.map .json, self)

end PoolRegistry

end OpenTTT
