import OpenTTT.Contracts.Solidity

/-!
# What the tokens inherit

The contracts of OpenZeppelin that `TTTToken.sol` and `TTT.sol` inherit from are not part of the
repository. They are parameters: a type of storage, the functions on it that the tokens call or that
anyone can call, and the behaviour of these that is documented (`Documented`). A function that
reverts returns an error; one that succeeds returns the new storage and its events.
-/

namespace OpenTTT

namespace OpenZeppelin

/-- The inherited functions of `ERC20` and `Ownable` that anyone can call and that write. -/
inductive ERC20Call
  | transfer (recipient : Address) (value : Uint256)
  | transferFrom (sender recipient : Address) (value : Uint256)
  | approve (spender : Address) (value : Uint256)
  | transferOwnership (newOwner : Address)
  | renounceOwnership

/-- `ERC20`, `Ownable` and `Pausable` together. -/
structure ERC20Library where
  /-- Their variables. -/
  Storage : Type
  Event : Type
  Error : Type
  /-- The constructors, with the name, the symbol and the first owner. -/
  construct : String → String → Address → Except Error (Storage × List Event)
  decimals : Storage → UInt8
  totalSupply : Storage → Uint256
  paused : Storage → Bool
  onlyOwner : (msgSender : Address) → Storage → Except Error Unit
  whenNotPaused : Storage → Except Error Unit
  _pause : (msgSender : Address) → Storage → Except Error (Storage × List Event)
  _unpause : (msgSender : Address) → Storage → Except Error (Storage × List Event)
  _mint : (account : Address) → (value : Uint256) → Storage → Except Error (Storage × List Event)
  _burn : (account : Address) → (value : Uint256) → Storage → Except Error (Storage × List Event)
  inherited : (msgSender : Address) → ERC20Call → Storage → Except Error (Storage × List Event)

/-- What the documentation of `ERC20`, `Ownable` and `Pausable` says of the supply and the pause. -/
structure ERC20Library.Documented (lib : ERC20Library) : Prop where
  /-- There are no tokens at first, -/
  construct : ∀ {name symbol initialOwner s events},
    lib.construct name symbol initialOwner = .ok (s, events) → lib.totalSupply s = 0
  /-- and `decimals` is the default. -/
  decimals : ∀ s, lib.decimals s = 18
  whenNotPaused : ∀ {s}, lib.whenNotPaused s = .ok () → lib.paused s = false
  /-- The supply changes when tokens are created or destroyed, -/
  _mint : ∀ {account value s s' events}, lib._mint account value s = .ok (s', events) →
    (lib.totalSupply s').toNat = (lib.totalSupply s).toNat + value.toNat
  _burn : ∀ {account value s s' events}, lib._burn account value s = .ok (s', events) →
    (lib.totalSupply s').toNat + value.toNat = (lib.totalSupply s).toNat
  /-- and otherwise not. -/
  _pause : ∀ {msgSender s s' events}, lib._pause msgSender s = .ok (s', events) →
    lib.totalSupply s' = lib.totalSupply s
  _unpause : ∀ {msgSender s s' events}, lib._unpause msgSender s = .ok (s', events) →
    lib.totalSupply s' = lib.totalSupply s
  inherited : ∀ {msgSender call s s' events}, lib.inherited msgSender call s = .ok (s', events) →
    lib.totalSupply s' = lib.totalSupply s

/-- The inherited functions of `ERC1155` and `AccessControl` that anyone can call and that write. -/
inductive ERC1155Call
  | safeTransferFrom (sender recipient : Address) (id value : Uint256) (data : Buffer)
  | safeBatchTransferFrom (sender recipient : Address) (ids values : List Uint256) (data : Buffer)
  | setApprovalForAll (operator : Address) (approved : Bool)
  | grantRole (role : Bytes32) (account : Address)
  | revokeRole (role : Bytes32) (account : Address)
  | renounceRole (role : Bytes32) (callerConfirmation : Address)

/-- Whether a function tells the recipient of tokens, after it has moved them. -/
def ERC1155Call.tellsRecipient : ERC1155Call → Bool
  | .safeTransferFrom _ _ _ _ _ | .safeBatchTransferFrom _ _ _ _ _ => true
  | _ => false

/-- `ERC1155`, `ERC1155Supply`, `AccessControl`, `ReentrancyGuard` and `Pausable` together. -/
structure ERC1155Library where
  /-- Their variables. -/
  Storage : Type
  Event : Type
  Error : Type
  /-- The constructors, with the URI. -/
  construct : String → Storage
  balanceOf : (account : Address) → (id : Uint256) → Storage → Uint256
  totalSupply : (id : Uint256) → Storage → Uint256
  paused : Storage → Bool
  hasRole : (role : Bytes32) → (account : Address) → Storage → Bool
  /-- `_reentrancyGuardEntered`. -/
  entered : Storage → Bool
  _grantRole : (msgSender : Address) → (role : Bytes32) → (account : Address) → Storage →
    Storage × List Event
  onlyRole : (role : Bytes32) → (msgSender : Address) → Storage → Except Error Unit
  whenNotPaused : Storage → Except Error Unit
  /-- The two halves of the modifier `nonReentrant`. -/
  _nonReentrantBefore : Storage → Except Error Storage
  _nonReentrantAfter : Storage → Storage
  _pause : (msgSender : Address) → Storage → Except Error (Storage × List Event)
  _unpause : (msgSender : Address) → Storage → Except Error (Storage × List Event)
  /-- `_mint` up to the call that asks the recipient to accept the tokens; nothing follows it. -/
  _mint : (msgSender recipient : Address) → (id value : Uint256) → (data : Buffer) → Storage →
    Except Error (Storage × List Event)
  _burn : (msgSender sender : Address) → (id value : Uint256) → Storage →
    Except Error (Storage × List Event)
  /-- The inherited functions, the two transfers up to the call of the recipient. -/
  inherited : (msgSender : Address) → ERC1155Call → Storage → Except Error (Storage × List Event)

/-- The supplies and the guard against reentrancy are the same. -/
structure ERC1155Library.SameSupply (lib : ERC1155Library) (s s' : lib.Storage) : Prop where
  totalSupply : ∀ id, lib.totalSupply id s' = lib.totalSupply id s
  entered : lib.entered s' = lib.entered s

/-- What the documentation of the five contracts says of the supplies and of the guard. -/
structure ERC1155Library.Documented (lib : ERC1155Library) : Prop where
  /-- There are no tokens at first, and the guard is not set. -/
  construct : ∀ uri,
    (∀ id, lib.totalSupply id (lib.construct uri) = 0) ∧ lib.entered (lib.construct uri) = false
  _grantRole : ∀ msgSender role account s,
    lib.SameSupply s (lib._grantRole msgSender role account s).1
  /-- A guarded function is not entered again before it has ended. -/
  _nonReentrantBefore : ∀ {s s'}, lib._nonReentrantBefore s = .ok s' →
    lib.entered s = false ∧ lib.entered s' = true ∧
      ∀ id, lib.totalSupply id s' = lib.totalSupply id s
  _nonReentrantAfter : ∀ s, lib.entered (lib._nonReentrantAfter s) = false ∧
    ∀ id, lib.totalSupply id (lib._nonReentrantAfter s) = lib.totalSupply id s
  _pause : ∀ {msgSender s s' events}, lib._pause msgSender s = .ok (s', events) →
    lib.SameSupply s s'
  _unpause : ∀ {msgSender s s' events}, lib._unpause msgSender s = .ok (s', events) →
    lib.SameSupply s s'
  /-- The supply of an id changes when its tokens are created or destroyed, -/
  _mint : ∀ {msgSender recipient id value data s s' events},
    lib._mint msgSender recipient id value data s = .ok (s', events) →
      (lib.totalSupply id s').toNat = (lib.totalSupply id s).toNat + value.toNat ∧
        (∀ id', id' ≠ id → lib.totalSupply id' s' = lib.totalSupply id' s) ∧
        lib.entered s' = lib.entered s
  _burn : ∀ {msgSender sender id value s s' events},
    lib._burn msgSender sender id value s = .ok (s', events) →
      (lib.totalSupply id s').toNat + value.toNat = (lib.totalSupply id s).toNat ∧
        (∀ id', id' ≠ id → lib.totalSupply id' s' = lib.totalSupply id' s) ∧
        lib.entered s' = lib.entered s
  /-- and otherwise not. -/
  inherited : ∀ {msgSender call s s' events},
    lib.inherited msgSender call s = .ok (s', events) → lib.SameSupply s s'

end OpenZeppelin

end OpenTTT
