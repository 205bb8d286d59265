import OpenTTT.Contracts.OpenZeppelin
import OpenTTT.Runtime.Errors

/-!
# The token contract

`TTT.sol`, as a contract that is called with data: the first four bytes select one of its functions,
and data that selects none is reverted, since there is no fallback function. It has no variables of
its own. What it inherits is a parameter (`OpenZeppelin.ERC1155Library`); `mint`, `burn`, `pause`
and `unpause` are here. In the middle of `mint` the recipient is told of its tokens; what it does
then, and the functions that are inherited or do not write, are inputs of a call (`Outside`).
-/

namespace OpenTTT

namespace TTT

open OpenZeppelin (ERC1155Library)

/-- `abi.encode(chainId, pool, timestamp, slotIndex)`. -/
def encodeTokenId (chainId : Uint256) (pool : Address) (timestamp slotIndex : Uint256) : Buffer :=
  Solidity.words [chainId.toNat, pool.toNat, timestamp.toNat, slotIndex.toNat]

def getTokenId (keccak256 : Buffer → Bytes32) (chainId : Uint256) (pool : Address)
    (timestamp slotIndex : Uint256) : Uint256 :=
  Solidity.toUint256 (keccak256 (encodeTokenId chainId pool timestamp slotIndex))

section Functions

variable (lib : ERC1155Library)

inductive Event
  | base (e : lib.Event)
  | TTTMinted (recipient : Address) (tokenId amount : Uint256)
  | TTTBurned (sender : Address) (tokenId amount tier : Uint256)
  | PoTAnchored (stratum : Uint256) (grgHash potHash : Bytes32) (timestamp : Uint256)

inductive Error
  | base (e : lib.Error)
  /-- A `require` with its message. -/
  | require (message : String)
  /-- The data of the call cannot be decoded. -/
  | malformed
  /-- The data selects no function. -/
  | noFunction

variable (keccak256 : Buffer → Bytes32)

def DEFAULT_ADMIN_ROLE : Bytes32 := Solidity.zeroBytes32

def MINTER_ROLE : Bytes32 := keccak256 (Buffer.ofAscii "MINTER_ROLE")

def PAUSER_ROLE : Bytes32 := keccak256 (Buffer.ofAscii "PAUSER_ROLE")

/-- The constructor. -/
def deploy (msgSender : Address) : lib.Storage × List (Event lib) :=
  let s := lib.construct "https://api.helm.network/ttt/\x7bid\x7d.json"
  let (s, admin) := lib._grantRole msgSender DEFAULT_ADMIN_ROLE msgSender s
  let (s, minter) := lib._grantRole msgSender (MINTER_ROLE keccak256) msgSender s
  let (s, pauser) := lib._grantRole msgSender (PAUSER_ROLE keccak256) msgSender s
  (s, (admin ++ minter ++ pauser).map .base)

variable {lib}

/-! ## The functions -/

/-- `require(amount > 0, message)`. -/
def requirePositive (amount : Uint256) : Except (Error lib) Unit :=
  if 0 < amount then .ok () else .error (.require "Amount must be greater than zero")

/-- What an inherited function returns. -/
def fromBase {α : Type} (result : Except lib.Error α) : Except (Error lib) α :=
  result.mapError .base

/-- An inherited function. -/
def onBase (result : Except lib.Error (lib.Storage × List lib.Event)) :
    Except (Error lib) (lib.Storage × List (Event lib)) := do
  let (s, events) ← fromBase result
  .ok (s, events.map .base)

/-- `abi.encodePacked(to, amount)`. -/
def encodeMint (recipient : Address) (amount : Uint256) : Buffer :=
  toBeBytes 20 recipient.toNat ++ toBeBytes 32 amount.toNat

/-- `mint` up to the call of the recipient. -/
def beforeMint (msgSender recipient : Address) (amount : Uint256) (grgHash : Bytes32)
    (s : lib.Storage) : Except (Error lib) (lib.Storage × List (Event lib)) := do
  fromBase (lib.onlyRole (MINTER_ROLE keccak256) msgSender s)
  fromBase (lib.whenNotPaused s)
  let s ← fromBase (lib._nonReentrantBefore s)
  requirePositive amount
  onBase (lib._mint msgSender recipient (Solidity.toUint256 grgHash) amount [] s)

/-- `mint` after the call of the recipient. -/
def afterMint (timestamp : Uint256) (recipient : Address) (amount : Uint256) (grgHash : Bytes32)
    (s : lib.Storage) : lib.Storage × List (Event lib) :=
  let tokenId := Solidity.toUint256 grgHash
  let potHash := keccak256 (encodeMint recipient amount)
  (lib._nonReentrantAfter s,
    [.TTTMinted recipient tokenId amount, .PoTAnchored tokenId grgHash potHash timestamp])

def burn (msgSender : Address) (amount : Uint256) (grgHash : Bytes32) (tier : Uint256)
    (s : lib.Storage) : Except (Error lib) (lib.Storage × List (Event lib)) := do
  fromBase (lib.whenNotPaused s)
  let s ← fromBase (lib._nonReentrantBefore s)
  requirePositive amount
  let tokenId := Solidity.toUint256 grgHash
  let (s, events) ← onBase (lib._burn msgSender msgSender tokenId amount s)
  .ok (lib._nonReentrantAfter s, events ++ [.TTTBurned msgSender tokenId amount tier])

def pause (msgSender : Address) (s : lib.Storage) :
    Except (Error lib) (lib.Storage × List (Event lib)) := do
  fromBase (lib.onlyRole (PAUSER_ROLE keccak256) msgSender s)
  onBase (lib._pause msgSender s)

def unpause (msgSender : Address) (s : lib.Storage) :
    Except (Error lib) (lib.Storage × List (Event lib)) := do
  fromBase (lib.onlyRole (PAUSER_ROLE keccak256) msgSender s)
  onBase (lib._unpause msgSender s)

end Functions

/-! ## The interface -/

/-- The functions that can be called from outside. -/
inductive Method
  | DEFAULT_ADMIN_ROLE
  | MINTER_ROLE
  | PAUSER_ROLE
  | balanceOf
  | balanceOfBatch
  | burn
  | exists
  | getRoleAdmin
  | getTokenId
  | grantRole
  | hasRole
  | isApprovedForAll
  | mint
  | pause
  | paused
  | renounceRole
  | revokeRole
  | safeBatchTransferFrom
  | safeTransferFrom
  | setApprovalForAll
  | supportsInterface
  | totalSupplyAll
  | totalSupply
  | unpause
  | uri
  deriving DecidableEq

/-- The selector of a function: the first four bytes of the hash of its signature, as in the
compiled contract. -/
def Method.selector : Method → BitVec 32
  | .DEFAULT_ADMIN_ROLE => 0xa217fddf
  | .MINTER_ROLE => 0xd5391393
  | .PAUSER_ROLE => 0xe63ab1e9
  | .balanceOf => 0x00fdd58e
  | .balanceOfBatch => 0x4e1273f4
  | .burn => 0x711856d4
  | .exists => 0x4f558e79
  | .getRoleAdmin => 0x248a9ca3
  | .getTokenId => 0x1c01607b
  | .grantRole => 0x2f2ff15d
  | .hasRole => 0x91d14854
  | .isApprovedForAll => 0xe985e9c5
  | .mint => 0x1e458bee
  | .pause => 0x8456cb59
  | .paused => 0x5c975abb
  | .renounceRole => 0x36568abe
  | .revokeRole => 0xd547741f
  | .safeBatchTransferFrom => 0x2eb2c2d6
  | .safeTransferFrom => 0xf242432a
  | .setApprovalForAll => 0xa22cb465
  | .supportsInterface => 0x01ffc9a7
  | .totalSupplyAll => 0x18160ddd
  | .totalSupply => 0xbd85b039
  | .unpause => 0x3f4ba83a
  | .uri => 0x0e89341c

/-- All of them. -/
def Method.all : List Method :=
  [.DEFAULT_ADMIN_ROLE, .MINTER_ROLE, .PAUSER_ROLE, .balanceOf, .balanceOfBatch, .burn, .exists,
    .getRoleAdmin, .getTokenId, .grantRole, .hasRole, .isApprovedForAll, .mint, .pause, .paused,
    .renounceRole, .revokeRole, .safeBatchTransferFrom, .safeTransferFrom, .setApprovalForAll,
    .supportsInterface, .totalSupplyAll, .totalSupply, .unpause, .uri]

/-- The function that a selector selects. -/
def dispatch (selector : BitVec 32) : Option Method :=
  Method.all.find? fun f => f.selector = selector

section Interface

variable (lib : ERC1155Library)

/-- What a call does outside of the functions above: the methods that are inherited or do not write,
and the recipient of new tokens when it is told of them, which can call the contract again. -/
structure Outside where
  method : Method → lib.Storage → Except (Error lib) (lib.Storage × List (Event lib))
  onERC1155Received : lib.Storage → Except (Error lib) (lib.Storage × List (Event lib))

variable {lib} (keccak256 : Buffer → Bytes32)

def mint (o : Outside lib) (msgSender : Address) (timestamp : Uint256) (recipient : Address)
    (amount : Uint256) (grgHash : Bytes32) (s : lib.Storage) :
    Except (Error lib) (lib.Storage × List (Event lib)) := do
  let (s, events) ← beforeMint keccak256 msgSender recipient amount grgHash s
  let (s, received) ← o.onERC1155Received s
  let (s, minted) := afterMint keccak256 timestamp recipient amount grgHash s
  .ok (s, events ++ received ++ minted)

/-- `mint` with the data of a call. -/
def callMint (o : Outside lib) (msgSender : Address) (timestamp : Uint256) (data : Buffer)
    (s : lib.Storage) : Except (Error lib) (lib.Storage × List (Event lib)) :=
  match Solidity.decodeArguments 3 data with
  | some [word, amount, grgHash] =>
    match Solidity.toAddress word with
    | some recipient =>
      mint keccak256 o msgSender timestamp recipient amount (Solidity.toBytes32 grgHash) s
    | none => .error .malformed
  | _ => .error .malformed

/-- `burn` with the data of a call. -/
def callBurn (msgSender : Address) (data : Buffer) (s : lib.Storage) :
    Except (Error lib) (lib.Storage × List (Event lib)) :=
  match Solidity.decodeArguments 3 data with
  | some [amount, grgHash, tier] => burn msgSender amount (Solidity.toBytes32 grgHash) tier s
  | _ => .error .malformed

/-- A call with data. -/
def call (o : Outside lib) (msgSender : Address) (timestamp : Uint256) (data : Buffer)
    (s : lib.Storage) : Except (Error lib) (lib.Storage × List (Event lib)) :=
  match (Solidity.selectorOf data).bind dispatch with
  | none => .error .noFunction
  | some .mint => callMint keccak256 o msgSender timestamp data s
  | some .burn => callBurn msgSender data s
  | some .pause => pause keccak256 msgSender s
  | some .unpause => unpause keccak256 msgSender s
  | some method => o.method method s

/-- A call whose selector is that of no function is reverted. -/
theorem call_of_dispatch_eq_none {selector : BitVec 32} (h : dispatch selector = none)
    (o : Outside lib) (msgSender : Address) (timestamp : Uint256) (arguments : List ℕ)
    (s : lib.Storage) :
    call keccak256 o msgSender timestamp (Solidity.encodeCall selector arguments) s =
      .error .noFunction := by
  rw [call, Solidity.selectorOf_encodeCall, Option.bind_some, h]

end Interface

end TTT

end OpenTTT
