import OpenTTT.Contracts.ERC20

/-!
# Tokens with ids

Functions that do what is documented of `ERC1155`, `ERC1155Supply`, `AccessControl`,
`ReentrancyGuard` and `Pausable`, so that there is a library for `TTT` to be run with (`library`,
`documented`). The storage carries the proof that for each id the balances add up to the supply, so
nothing that a burn subtracts wraps around.
-/

namespace OpenTTT

namespace ERC1155

open OpenZeppelin (ERC1155Call ERC1155Library)

structure Storage where
  balances : Uint256 → Address → Uint256
  totalSupply : Uint256 → Uint256
  balanced : ∀ id, ERC20.sum (balances id) = (totalSupply id).toNat
  operatorApprovals : Address → Address → Bool
  hasRole : Bytes32 → Address → Bool
  entered : Bool
  paused : Bool

inductive Event
  | TransferSingle (operator sender recipient : Address) (id value : Uint256)
  | TransferBatch (operator sender recipient : Address) (ids values : List Uint256)
  | ApprovalForAll (account operator : Address) (approved : Bool)
  | RoleGranted (role : Bytes32) (account sender : Address)
  | RoleRevoked (role : Bytes32) (account sender : Address)
  | Paused (account : Address)
  | Unpaused (account : Address)

inductive Error
  | ERC1155InsufficientBalance (sender : Address) (balance needed tokenId : Uint256)
  | ERC1155InvalidSender (sender : Address)
  | ERC1155InvalidReceiver (receiver : Address)
  | ERC1155MissingApprovalForAll (operator owner : Address)
  | ERC1155InvalidOperator (operator : Address)
  | ERC1155InvalidArrayLength (idsLength valuesLength : ℕ)
  | AccessControlUnauthorizedAccount (account : Address) (role : Bytes32)
  | AccessControlBadConfirmation
  | ReentrancyGuardReentrantCall
  | EnforcedPause
  | ExpectedPause
  /-- An addition that overflows. -/
  | overflow

/-- The storage before the first token. -/
def Storage.empty : Storage where
  balances := fun _ _ => 0
  totalSupply := fun _ => 0
  balanced := fun _ => ERC20.balanced_empty
  operatorApprovals := fun _ _ => false
  hasRole := fun _ _ => false
  entered := false
  paused := false

/-! ## Balances -/

/-- The storage with other balances of an id, which add up to its new supply. -/
def Storage.withBalances (s : Storage) (id : Uint256) (balances : Address → Uint256)
    (supply : Uint256) (h : ERC20.sum balances = supply.toNat) : Storage :=
  { s with
    balances := Function.update s.balances id balances
    totalSupply := Function.update s.totalSupply id supply
    balanced := fun id' => by
      by_cases hid : id' = id
      · rw [hid, Function.update_self, Function.update_self]
        exact h
      · rw [Function.update_of_ne hid, Function.update_of_ne hid]
        exact s.balanced id' }

@[simp] theorem Storage.totalSupply_withBalances (s : Storage) (id : Uint256)
    (balances : Address → Uint256) (supply : Uint256)
    (h : ERC20.sum balances = supply.toNat) :
    (s.withBalances id balances supply h).totalSupply = Function.update s.totalSupply id supply :=
  rfl

/-- The balances with the value added to one of them. -/
def added (balances : Address → Uint256) (account : Address) (value : Uint256) :
    Address → Uint256 :=
  Function.update balances account (balances account + value)

/-- The balances with the value taken from one of them. -/
def taken (balances : Address → Uint256) (account : Address) (value : Uint256) :
    Address → Uint256 :=
  Function.update balances account (balances account - value)

theorem sum_added {s : Storage} {id value supply : Uint256} (recipient : Address)
    (h : Solidity.checkedAdd (s.totalSupply id) value = some supply) :
    ERC20.sum (added (s.balances id) recipient value) = supply.toNat := by
  have hsupply := Solidity.checkedAdd_eq_some h
  have hsum := s.balanced id
  have hlt := supply.isLt
  rw [added, ERC20.sum_add (by omega)]
  omega

theorem sum_taken {s : Storage} {id value : Uint256} {sender : Address}
    (h : ¬ s.balances id sender < value) :
    ERC20.sum (taken (s.balances id) sender value) + value.toNat = (s.totalSupply id).toNat := by
  rw [BitVec.not_lt, BitVec.le_def] at h
  rw [taken, ERC20.sum_sub h]
  exact s.balanced id

/-- A burn does not take more than the supply. -/
theorem toNat_sub_of_taken {s : Storage} {id value : Uint256} {sender : Address}
    (h : ¬ s.balances id sender < value) :
    (s.totalSupply id - value).toNat = (s.totalSupply id).toNat - value.toNat :=
  ERC20.toNat_sub_of_le (by have := sum_taken h; omega)

theorem sum_moved {s : Storage} {id value : Uint256} {sender : Address} (recipient : Address)
    (h : ¬ s.balances id sender < value) :
    ERC20.sum (added (taken (s.balances id) sender value) recipient value) =
      (s.totalSupply id).toNat := by
  have hsum := sum_taken h
  have hlt := (s.totalSupply id).isLt
  rw [added, ERC20.sum_add (by omega)]
  exact hsum

/-- `_update` of new tokens. -/
def credit (recipient : Address) (id value : Uint256) (s : Storage) : Except Error Storage :=
  match h : Solidity.checkedAdd (s.totalSupply id) value with
  | some supply =>
    .ok (s.withBalances id (added (s.balances id) recipient value) supply (sum_added recipient h))
  | none => .error .overflow

/-- `_update` of tokens that are burned. -/
def debit (sender : Address) (id value : Uint256) (s : Storage) : Except Error Storage :=
  if h : s.balances id sender < value then
    .error (.ERC1155InsufficientBalance sender (s.balances id sender) value id)
  else
    .ok (s.withBalances id (taken (s.balances id) sender value) (s.totalSupply id - value) (by
      rw [toNat_sub_of_taken h]
      have := sum_taken h
      omega))

/-- `_update` of one id, between two accounts. -/
def move (sender recipient : Address) (id value : Uint256) (s : Storage) : Except Error Storage :=
  if h : s.balances id sender < value then
    .error (.ERC1155InsufficientBalance sender (s.balances id sender) value id)
  else
    .ok (s.withBalances id (added (taken (s.balances id) sender value) recipient value)
      (s.totalSupply id) (sum_moved recipient h))

/-- `_update` of several ids. -/
def moveAll (sender recipient : Address) : List (Uint256 × Uint256) → Storage → Except Error Storage
  | [], s => .ok s
  | (id, value) :: moves, s => do
    let s ← move sender recipient id value s
    moveAll sender recipient moves s

/-! ## The functions -/

def onlyRole (role : Bytes32) (msgSender : Address) (s : Storage) : Except Error Unit :=
  if s.hasRole role msgSender then .ok ()
  else .error (.AccessControlUnauthorizedAccount msgSender role)

def whenNotPaused (s : Storage) : Except Error Unit :=
  if s.paused then .error .EnforcedPause else .ok ()

def nonReentrantBefore (s : Storage) : Except Error Storage :=
  if s.entered then .error .ReentrancyGuardReentrantCall else .ok { s with entered := true }

def pause (msgSender : Address) (s : Storage) : Except Error (Storage × List Event) :=
  if s.paused then .error .EnforcedPause else .ok ({ s with paused := true }, [.Paused msgSender])

def unpause (msgSender : Address) (s : Storage) : Except Error (Storage × List Event) :=
  if s.paused then .ok ({ s with paused := false }, [.Unpaused msgSender])
  else .error .ExpectedPause

/-- The storage with a role given or taken. -/
def setRole (role : Bytes32) (account : Address) (holds : Bool) (s : Storage) : Storage :=
  { s with
    hasRole := Function.update s.hasRole role (Function.update (s.hasRole role) account holds) }

def grant (msgSender : Address) (role : Bytes32) (account : Address) (s : Storage) :
    Storage × List Event :=
  if s.hasRole role account then (s, [])
  else (setRole role account true s, [.RoleGranted role account msgSender])

def revoke (msgSender : Address) (role : Bytes32) (account : Address) (s : Storage) :
    Storage × List Event :=
  if s.hasRole role account then
    (setRole role account false s, [.RoleRevoked role account msgSender])
  else (s, [])

def mint (msgSender recipient : Address) (id value : Uint256) (s : Storage) :
    Except Error (Storage × List Event) :=
  if recipient = 0 then .error (.ERC1155InvalidReceiver 0)
  else do
    let s ← credit recipient id value s
    .ok (s, [.TransferSingle msgSender 0 recipient id value])

def burn (msgSender sender : Address) (id value : Uint256) (s : Storage) :
    Except Error (Storage × List Event) :=
  if sender = 0 then .error (.ERC1155InvalidSender 0)
  else do
    let s ← debit sender id value s
    .ok (s, [.TransferSingle msgSender sender 0 id value])

/-- Both transfers, with their event. -/
def transfer (msgSender sender recipient : Address) (ids values : List Uint256) (event : Event)
    (s : Storage) : Except Error (Storage × List Event) :=
  if sender ≠ msgSender ∧ s.operatorApprovals sender msgSender = false then
    .error (.ERC1155MissingApprovalForAll msgSender sender)
  else if recipient = 0 then .error (.ERC1155InvalidReceiver 0)
  else if sender = 0 then .error (.ERC1155InvalidSender 0)
  else if ids.length ≠ values.length then
    .error (.ERC1155InvalidArrayLength ids.length values.length)
  else do
    let s ← moveAll sender recipient (ids.zip values) s
    .ok (s, [event])

/-- The inherited functions. The admin of each role is `DEFAULT_ADMIN_ROLE`. -/
def inherited (msgSender : Address) (call : ERC1155Call) (s : Storage) :
    Except Error (Storage × List Event) :=
  match call with
  | .safeTransferFrom sender recipient id value _ =>
    transfer msgSender sender recipient [id] [value]
      (.TransferSingle msgSender sender recipient id value) s
  | .safeBatchTransferFrom sender recipient ids values _ =>
    transfer msgSender sender recipient ids values
      (.TransferBatch msgSender sender recipient ids values) s
  | .setApprovalForAll operator approved =>
    if operator = 0 then .error (.ERC1155InvalidOperator 0)
    else
      let approvals := Function.update (s.operatorApprovals msgSender) operator approved
      .ok ({ s with operatorApprovals := Function.update s.operatorApprovals msgSender approvals },
        [.ApprovalForAll msgSender operator approved])
  | .grantRole role account => do
    onlyRole Solidity.zeroBytes32 msgSender s
    .ok (grant msgSender role account s)
  | .revokeRole role account => do
    onlyRole Solidity.zeroBytes32 msgSender s
    .ok (revoke msgSender role account s)
  | .renounceRole role callerConfirmation =>
    if callerConfirmation ≠ msgSender then .error .AccessControlBadConfirmation
    else .ok (revoke msgSender role callerConfirmation s)

def library : ERC1155Library where
  Storage := Storage
  Event := Event
  Error := Error
  construct := fun _ => .empty
  balanceOf := fun account id s => s.balances id account
  totalSupply := fun id s => s.totalSupply id
  paused := Storage.paused
  hasRole := fun role account s => s.hasRole role account
  entered := Storage.entered
  _grantRole := grant
  onlyRole := onlyRole
  whenNotPaused := whenNotPaused
  _nonReentrantBefore := nonReentrantBefore
  _nonReentrantAfter := fun s => { s with entered := false }
  _pause := pause
  _unpause := unpause
  _mint := fun msgSender recipient id value _ => mint msgSender recipient id value
  _burn := burn
  inherited := inherited

/-! ## What they do to the supplies -/

/-- The supplies and the guard are the same. -/
abbrev SameSupply (s s' : Storage) : Prop := library.SameSupply s s'

theorem SameSupply.refl (s : Storage) : SameSupply s s := ⟨fun _ => rfl, rfl⟩

theorem SameSupply.trans {s s₁ s₂ : Storage} (h : SameSupply s s₁) (h' : SameSupply s₁ s₂) :
    SameSupply s s₂ :=
  ⟨fun id => (h'.totalSupply id).trans (h.totalSupply id), h'.entered.trans h.entered⟩

theorem sameSupply_grant (msgSender : Address) (role : Bytes32) (account : Address) (s : Storage) :
    SameSupply s (grant msgSender role account s).1 := by
  unfold grant
  split
  · exact .refl s
  · exact ⟨fun _ => rfl, rfl⟩

theorem sameSupply_revoke (msgSender : Address) (role : Bytes32) (account : Address)
    (s : Storage) : SameSupply s (revoke msgSender role account s).1 := by
  unfold revoke
  split
  · exact ⟨fun _ => rfl, rfl⟩
  · exact .refl s

theorem sameSupply_move {sender recipient : Address} {id value : Uint256} {s s' : Storage}
    (h : move sender recipient id value s = .ok s') : SameSupply s s' := by
  unfold move at h
  split at h
  · cases h
  · rw [← Except.ok.inj h]
    exact ⟨fun id' => congrFun (Function.update_eq_self id s.totalSupply) id', rfl⟩

theorem sameSupply_moveAll {sender recipient : Address} {moves : List (Uint256 × Uint256)}
    {s s' : Storage} (h : moveAll sender recipient moves s = .ok s') : SameSupply s s' := by
  induction moves generalizing s with
  | nil =>
    cases h
    exact .refl _
  | cons m moves ih =>
    obtain ⟨s₁, hmove, h⟩ := bind_eq_ok.1 h
    exact (sameSupply_move hmove).trans (ih h)

theorem sameSupply_transfer {msgSender sender recipient : Address} {ids values : List Uint256}
    {event : Event} {s s' : Storage} {events : List Event}
    (h : transfer msgSender sender recipient ids values event s = .ok (s', events)) :
    SameSupply s s' := by
  unfold transfer at h
  split at h
  · cases h
  split at h
  · cases h
  split at h
  · cases h
  split at h
  · cases h
  obtain ⟨s₁, hmove, h⟩ := bind_eq_ok.1 h
  cases h
  exact sameSupply_moveAll hmove

theorem sameSupply_inherited {msgSender : Address} {call : ERC1155Call} {s s' : Storage}
    {events : List Event} (h : inherited msgSender call s = .ok (s', events)) :
    SameSupply s s' := by
  cases call with
  | safeTransferFrom sender recipient id value data => exact sameSupply_transfer h
  | safeBatchTransferFrom sender recipient ids values data => exact sameSupply_transfer h
  | setApprovalForAll operator approved =>
    unfold inherited at h
    dsimp only at h
    split at h
    · cases h
    · cases h
      exact ⟨fun _ => rfl, rfl⟩
  | grantRole role account =>
    obtain ⟨_, -, h⟩ := bind_eq_ok.1 h
    have hsame := sameSupply_grant msgSender role account s
    rwa [Except.ok.inj h] at hsame
  | revokeRole role account =>
    obtain ⟨_, -, h⟩ := bind_eq_ok.1 h
    have hsame := sameSupply_revoke msgSender role account s
    rwa [Except.ok.inj h] at hsame
  | renounceRole role callerConfirmation =>
    unfold inherited at h
    dsimp only at h
    split at h
    · cases h
    · have hsame := sameSupply_revoke msgSender role callerConfirmation s
      rwa [Except.ok.inj h] at hsame

theorem mint_ok {msgSender recipient : Address} {id value : Uint256} {s s' : Storage}
    {events : List Event} (h : mint msgSender recipient id value s = .ok (s', events)) :
    (s'.totalSupply id).toNat = (s.totalSupply id).toNat + value.toNat ∧
      (∀ id', id' ≠ id → s'.totalSupply id' = s.totalSupply id') ∧ s'.entered = s.entered := by
  unfold mint at h
  split at h
  · cases h
  obtain ⟨s₁, hcredit, h⟩ := bind_eq_ok.1 h
  cases h
  unfold credit at hcredit
  split at hcredit
  · rename_i supply hadd
    cases hcredit
    refine ⟨?_, fun id' hid => Function.update_of_ne hid _ _, rfl⟩
    rw [Storage.totalSupply_withBalances, Function.update_self]
    exact Solidity.checkedAdd_eq_some hadd
  · cases hcredit

theorem burn_ok {msgSender sender : Address} {id value : Uint256} {s s' : Storage}
    {events : List Event} (h : burn msgSender sender id value s = .ok (s', events)) :
    (s'.totalSupply id).toNat + value.toNat = (s.totalSupply id).toNat ∧
      (∀ id', id' ≠ id → s'.totalSupply id' = s.totalSupply id') ∧ s'.entered = s.entered := by
  unfold burn at h
  split at h
  · cases h
  obtain ⟨s₁, hdebit, h⟩ := bind_eq_ok.1 h
  cases h
  unfold debit at hdebit
  split at hdebit
  · cases hdebit
  · rename_i hbalance
    cases hdebit
    refine ⟨?_, fun id' hid => Function.update_of_ne hid _ _, rfl⟩
    have hsum := sum_taken hbalance
    rw [Storage.totalSupply_withBalances, Function.update_self, toNat_sub_of_taken hbalance]
    omega

/-- **The library behaves as documented.** -/
theorem documented : library.Documented where
  construct uri := ⟨fun _ => rfl, rfl⟩
  _grantRole msgSender role account s := sameSupply_grant msgSender role account s
  _nonReentrantBefore {s s'} h := by
    change nonReentrantBefore s = .ok s' at h
    unfold nonReentrantBefore at h
    split at h
    · cases h
    · rename_i hentered
      cases h
      exact ⟨Bool.eq_false_iff.2 hentered, rfl, fun _ => rfl⟩
  _nonReentrantAfter s := ⟨rfl, fun _ => rfl⟩
  _pause {msgSender s s' events} h := by
    change pause msgSender s = .ok (s', events) at h
    unfold pause at h
    split at h
    · cases h
    · cases h
      exact ⟨fun _ => rfl, rfl⟩
  _unpause {msgSender s s' events} h := by
    change unpause msgSender s = .ok (s', events) at h
    unfold unpause at h
    split at h
    · cases h
      exact ⟨fun _ => rfl, rfl⟩
    · cases h
  _mint {msgSender recipient id value data s s' events} h := mint_ok h
  _burn {msgSender sender id value s s' events} h := burn_ok h
  inherited {msgSender call s s' events} h := sameSupply_inherited h

end ERC1155

end OpenTTT
