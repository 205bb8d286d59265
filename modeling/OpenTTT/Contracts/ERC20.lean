import OpenTTT.Contracts.OpenZeppelin
import OpenTTT.Runtime.Errors
import Mathlib.Algebra.BigOperators.Group.Finset.Basic
import Mathlib.Algebra.Order.BigOperators.Group.Finset
import Mathlib.Logic.Function.Basic

/-!
# Fungible tokens

Functions that do what is documented of `ERC20`, `Ownable` and `Pausable`, so that there is a
library for the token to be run with (`library`, `documented`). All that moves tokens goes through
`update`, which subtracts from a balance after a check and adds without one: the sum of the balances
is the total supply (`Balanced`), so no addition and no subtraction overflows. The storage carries
the proof that it is. `update_ok` says what an update does to the supply, and that it keeps the sum.
-/

namespace OpenTTT

namespace ERC20

open OpenZeppelin (ERC20Call ERC20Library)

structure State where
  balances : Address → Uint256
  allowances : Address → Address → Uint256
  totalSupply : Uint256

/-- The state before the first token. -/
def State.empty : State := ⟨fun _ => 0, fun _ _ => 0, 0⟩

inductive Error
  | ERC20InsufficientBalance (sender : Address) (balance needed : Uint256)
  | ERC20InvalidSender (sender : Address)
  | ERC20InvalidReceiver (receiver : Address)
  | ERC20InsufficientAllowance (spender : Address) (allowance needed : Uint256)
  | ERC20InvalidApprover (approver : Address)
  | ERC20InvalidSpender (spender : Address)
  | OwnableUnauthorizedAccount (account : Address)
  | OwnableInvalidOwner (owner : Address)
  | EnforcedPause
  | ExpectedPause
  /-- An addition that overflows. -/
  | overflow
  deriving DecidableEq

inductive Event
  | Transfer (sender recipient : Address) (value : Uint256)
  | Approval (owner spender : Address) (value : Uint256)
  | OwnershipTransferred (previousOwner newOwner : Address)
  | Paused (account : Address)
  | Unpaused (account : Address)
  deriving DecidableEq

/-- The first half of `_update`: take the value from the sender. The zero address mints it. -/
def debit (sender : Address) (value : Uint256) (s : State) : Except Error State :=
  if sender = 0 then
    match Solidity.checkedAdd s.totalSupply value with
    | some totalSupply => .ok { s with totalSupply }
    | none => .error .overflow
  else if s.balances sender < value then
    .error (.ERC20InsufficientBalance sender (s.balances sender) value)
  else .ok { s with balances := Function.update s.balances sender (s.balances sender - value) }

/-- The second half of `_update`: give the value to the recipient. The zero address burns it. -/
def credit (recipient : Address) (value : Uint256) (s : State) : State :=
  if recipient = 0 then { s with totalSupply := s.totalSupply - value }
  else { s with balances := Function.update s.balances recipient (s.balances recipient + value) }

/-- `_update`. -/
def update (sender recipient : Address) (value : Uint256) (s : State) : Except Error State := do
  let s ← debit sender value s
  .ok (credit recipient value s)

/-- `_mint`. -/
def mint (account : Address) (value : Uint256) (s : State) : Except Error (State × List Event) :=
  if account = 0 then .error (.ERC20InvalidReceiver 0)
  else do
    let s ← update 0 account value s
    .ok (s, [.Transfer 0 account value])

/-- `_burn`. -/
def burn (account : Address) (value : Uint256) (s : State) : Except Error (State × List Event) :=
  if account = 0 then .error (.ERC20InvalidSender 0)
  else do
    let s ← update account 0 value s
    .ok (s, [.Transfer account 0 value])

/-- `_transfer`. -/
def transfer (sender recipient : Address) (value : Uint256) (s : State) :
    Except Error (State × List Event) :=
  if sender = 0 then .error (.ERC20InvalidSender 0)
  else if recipient = 0 then .error (.ERC20InvalidReceiver 0)
  else do
    let s ← update sender recipient value s
    .ok (s, [.Transfer sender recipient value])

/-- `_approve`, without its event. -/
def setAllowance (owner spender : Address) (value : Uint256) (s : State) : Except Error State :=
  if owner = 0 then .error (.ERC20InvalidApprover 0)
  else if spender = 0 then .error (.ERC20InvalidSpender 0)
  else
    .ok { s with
      allowances := Function.update s.allowances owner
        (Function.update (s.allowances owner) spender value) }

/-- `approve`, called by the owner. -/
def approve (owner spender : Address) (value : Uint256) (s : State) :
    Except Error (State × List Event) := do
  let s ← setAllowance owner spender value s
  .ok (s, [.Approval owner spender value])

/-- `_spendAllowance`. The largest allowance is not used up. -/
def spendAllowance (owner spender : Address) (value : Uint256) (s : State) : Except Error State :=
  let allowance := s.allowances owner spender
  if allowance.toNat < 2 ^ 256 - 1 then
    if allowance < value then .error (.ERC20InsufficientAllowance spender allowance value)
    else setAllowance owner spender (allowance - value) s
  else .ok s

/-- `transferFrom`, called by the spender. -/
def transferFrom (spender sender recipient : Address) (value : Uint256) (s : State) :
    Except Error (State × List Event) := do
  let s ← spendAllowance sender spender value s
  transfer sender recipient value s

/-! ## The sum of the balances -/

/-- All addresses. -/
def addresses : Finset Address :=
  (Finset.univ : Finset (Fin (2 ^ 160))).map ⟨BitVec.ofFin, fun _ _ h => BitVec.ofFin.inj h⟩

theorem mem_addresses (a : Address) : a ∈ addresses :=
  Finset.mem_map.2 ⟨a.toFin, Finset.mem_univ _, rfl⟩

/-- The sum of the balances. -/
def sum (balances : Address → Uint256) : ℕ := ∑ a ∈ addresses, (balances a).toNat

/-- The balances add up to the total supply. -/
def Balanced (s : State) : Prop := sum s.balances = s.totalSupply.toNat

/-- A balance is at most the sum. -/
theorem le_sum (balances : Address → Uint256) (a : Address) : (balances a).toNat ≤ sum balances :=
  Finset.single_le_sum (f := fun a => (balances a).toNat) (fun _ _ => Nat.zero_le _)
    (mem_addresses a)

/-- Changing one balance changes the sum by the difference. -/
theorem sum_update (balances : Address → Uint256) (a : Address) (value : Uint256) :
    sum (Function.update balances a value) + (balances a).toNat = sum balances + value.toNat := by
  have hrest : ∑ b ∈ addresses.erase a, (Function.update balances a value b).toNat =
      ∑ b ∈ addresses.erase a, (balances b).toNat := by
    refine Finset.sum_congr rfl fun b hb => ?_
    rw [Function.update_of_ne (Finset.ne_of_mem_erase hb)]
  rw [sum, sum, ← Finset.add_sum_erase _ _ (mem_addresses a),
    ← Finset.add_sum_erase _ (fun b => (balances b).toNat) (mem_addresses a), hrest,
    Function.update_self]
  omega

theorem toNat_sub_of_le {a b : Uint256} (h : b.toNat ≤ a.toNat) :
    (a - b).toNat = a.toNat - b.toNat := by
  have ha := a.isLt
  rw [BitVec.toNat_sub]
  omega

theorem toNat_add_of_lt {a b : Uint256} (h : a.toNat + b.toNat < 2 ^ 256) :
    (a + b).toNat = a.toNat + b.toNat := by
  rw [BitVec.toNat_add]
  exact Nat.mod_eq_of_lt h

/-! ## What an update does -/

/-- The first half of an update: the value is taken from the sender, or added to the supply. -/
theorem sum_sub {balances : Address → Uint256} {a : Address} {value : Uint256}
    (h : value.toNat ≤ (balances a).toNat) :
    sum (Function.update balances a (balances a - value)) + value.toNat = sum balances := by
  have hsum := sum_update balances a (balances a - value)
  rw [toNat_sub_of_le h] at hsum
  omega

/-- The second half: the value is given to the recipient, if there is room for it. -/
theorem sum_add {balances : Address → Uint256} {a : Address} {value : Uint256}
    (h : sum balances + value.toNat < 2 ^ 256) :
    sum (Function.update balances a (balances a + value)) = sum balances + value.toNat := by
  have hle := le_sum balances a
  have hsum := sum_update balances a (balances a + value)
  rw [toNat_add_of_lt (by omega)] at hsum
  omega

/-- What an update mints: it comes from the zero address. -/
def minted (sender : Address) (value : Uint256) : ℕ := if sender = 0 then value.toNat else 0

/-- What an update burns: it goes to the zero address. -/
def burned (recipient : Address) (value : Uint256) : ℕ := if recipient = 0 then value.toNat else 0

/-- After the first half the value is missing from the balances. -/
theorem debit_ok {sender : Address} {value : Uint256} {s s' : State} (hs : Balanced s)
    (h : debit sender value s = .ok s') :
    sum s'.balances + value.toNat = s'.totalSupply.toNat ∧
      s'.totalSupply.toNat = s.totalSupply.toNat + minted sender value := by
  unfold debit at h
  split at h
  · rename_i hsender
    split at h
    · rename_i totalSupply hadd
      cases h
      have hsum : sum s.balances = s.totalSupply.toNat := hs
      have htotal := Solidity.checkedAdd_eq_some hadd
      rw [minted, if_pos hsender]
      exact ⟨hsum ▸ htotal.symm, htotal⟩
    · cases h
  · rename_i hsender
    split at h
    · cases h
    · rename_i hbalance
      cases h
      rw [BitVec.not_lt, BitVec.le_def] at hbalance
      rw [minted, if_neg hsender]
      exact ⟨(sum_sub hbalance).trans hs, rfl⟩

/-- The second half puts it back, or takes it out of the supply. -/
theorem credit_ok {recipient : Address} {value : Uint256} {s : State}
    (h : sum s.balances + value.toNat = s.totalSupply.toNat) :
    Balanced (credit recipient value s) ∧
      (credit recipient value s).totalSupply.toNat + burned recipient value =
        s.totalSupply.toNat := by
  have hlt := s.totalSupply.isLt
  unfold credit
  split
  · rename_i hrecipient
    have hsub : (s.totalSupply - value).toNat = s.totalSupply.toNat - value.toNat :=
      toNat_sub_of_le (by omega)
    rw [burned, if_pos hrecipient, Balanced]
    simp only [hsub]
    omega
  · rename_i hrecipient
    rw [burned, if_neg hrecipient]
    exact ⟨(sum_add (by omega)).trans h, rfl⟩

/-- **What an update does**: it keeps the balances adding up to the supply, and changes the supply
by what it mints and burns. -/
theorem update_ok {sender recipient : Address} {value : Uint256} {s s' : State} (hs : Balanced s)
    (h : update sender recipient value s = .ok s') :
    Balanced s' ∧ s'.totalSupply.toNat + burned recipient value =
      s.totalSupply.toNat + minted sender value := by
  obtain ⟨s₁, hdebit, h⟩ := bind_eq_ok.1 h
  cases h
  obtain ⟨hmissing, hsupply⟩ := debit_ok hs hdebit
  obtain ⟨hbalanced, hburned⟩ := credit_ok hmissing
  exact ⟨hbalanced, hburned.trans hsupply⟩

/-! ## What the functions do -/

section Functions

variable {s s' : State} {events : List Event} {value : Uint256}

theorem balanced_empty : Balanced .empty := by
  rw [Balanced, sum]
  exact Finset.sum_eq_zero fun _ _ => rfl

theorem mint_ok {account : Address} (hs : Balanced s)
    (h : mint account value s = .ok (s', events)) :
    Balanced s' ∧ s'.totalSupply.toNat = s.totalSupply.toNat + value.toNat := by
  unfold mint at h
  split at h
  · cases h
  rename_i haccount
  obtain ⟨s₁, hupdate, h⟩ := bind_eq_ok.1 h
  cases h
  have hok := update_ok hs hupdate
  rw [burned, if_neg haccount, minted, if_pos rfl, Nat.add_zero] at hok
  exact hok

theorem burn_ok {account : Address} (hs : Balanced s)
    (h : burn account value s = .ok (s', events)) :
    Balanced s' ∧ s'.totalSupply.toNat + value.toNat = s.totalSupply.toNat := by
  unfold burn at h
  split at h
  · cases h
  rename_i haccount
  obtain ⟨s₁, hupdate, h⟩ := bind_eq_ok.1 h
  cases h
  have hok := update_ok hs hupdate
  rw [burned, if_pos rfl, minted, if_neg haccount, Nat.add_zero] at hok
  exact hok

theorem transfer_ok {sender recipient : Address} (hs : Balanced s)
    (h : transfer sender recipient value s = .ok (s', events)) :
    Balanced s' ∧ s'.totalSupply.toNat = s.totalSupply.toNat := by
  unfold transfer at h
  split at h
  · cases h
  rename_i hsender
  split at h
  · cases h
  rename_i hrecipient
  obtain ⟨s₁, hupdate, h⟩ := bind_eq_ok.1 h
  cases h
  have hok := update_ok hs hupdate
  rw [burned, if_neg hrecipient, minted, if_neg hsender, Nat.add_zero, Nat.add_zero] at hok
  exact hok

/-- An allowance changes neither the balances nor the supply. -/
theorem setAllowance_ok {owner spender : Address}
    (h : setAllowance owner spender value s = .ok s') :
    s'.balances = s.balances ∧ s'.totalSupply = s.totalSupply := by
  unfold setAllowance at h
  split at h
  · cases h
  split at h
  · cases h
  cases h
  exact ⟨rfl, rfl⟩

theorem Balanced.of_eq (hs : Balanced s)
    (h : s'.balances = s.balances ∧ s'.totalSupply = s.totalSupply) : Balanced s' := by
  rw [Balanced, h.1, h.2]
  exact hs

theorem approve_ok {owner spender : Address} (hs : Balanced s)
    (h : approve owner spender value s = .ok (s', events)) :
    Balanced s' ∧ s'.totalSupply.toNat = s.totalSupply.toNat := by
  unfold approve at h
  obtain ⟨s₁, hallowance, h⟩ := bind_eq_ok.1 h
  cases h
  have hsame := setAllowance_ok hallowance
  exact ⟨hs.of_eq hsame, congrArg BitVec.toNat hsame.2⟩

theorem spendAllowance_ok {owner spender : Address}
    (h : spendAllowance owner spender value s = .ok s') :
    s'.balances = s.balances ∧ s'.totalSupply = s.totalSupply := by
  unfold spendAllowance at h
  dsimp only at h
  split at h
  · split at h
    · cases h
    · exact setAllowance_ok h
  · cases h
    exact ⟨rfl, rfl⟩

theorem transferFrom_ok {spender sender recipient : Address} (hs : Balanced s)
    (h : transferFrom spender sender recipient value s = .ok (s', events)) :
    Balanced s' ∧ s'.totalSupply.toNat = s.totalSupply.toNat := by
  unfold transferFrom at h
  obtain ⟨s₁, hspend, h⟩ := bind_eq_ok.1 h
  have hsame := spendAllowance_ok hspend
  have hok := transfer_ok (hs.of_eq hsame) h
  exact ⟨hok.1, hok.2.trans (congrArg BitVec.toNat hsame.2)⟩

end Functions

/-! ## The library -/

/-- Balances that add up to the total supply, with the owner and the pause. -/
structure Storage where
  token : State
  balanced : Balanced token
  owner : Address
  paused : Bool

/-- The balances add up after a function as before it. -/
def KeepsBalanced (f : State → Except Error (State × List Event)) : Prop :=
  ∀ {s s' events}, Balanced s → f s = .ok (s', events) → Balanced s'

section Keeps

variable (msgSender account : Address) (value : Uint256)

theorem keeps_mint : KeepsBalanced (mint account value) := fun hs h => (mint_ok hs h).1

theorem keeps_burn : KeepsBalanced (burn account value) := fun hs h => (burn_ok hs h).1

theorem keeps_transfer : KeepsBalanced (transfer msgSender account value) :=
  fun hs h => (transfer_ok hs h).1

theorem keeps_transferFrom (sender : Address) :
    KeepsBalanced (transferFrom msgSender sender account value) :=
  fun hs h => (transferFrom_ok hs h).1

theorem keeps_approve : KeepsBalanced (approve msgSender account value) :=
  fun hs h => (approve_ok hs h).1

end Keeps

/-- A function that keeps the balances adding up, on the storage. -/
def onToken (f : State → Except Error (State × List Event)) (hf : KeepsBalanced f) (s : Storage) :
    Except Error (Storage × List Event) :=
  match h : f s.token with
  | .ok (token, events) => .ok ({ s with token, balanced := hf s.balanced h }, events)
  | .error e => .error e

theorem onToken_ok {f : State → Except Error (State × List Event)} (hf : KeepsBalanced f)
    {s s' : Storage} {events : List Event} (h : onToken f hf s = .ok (s', events)) :
    f s.token = .ok (s'.token, events) := by
  unfold onToken at h
  split at h
  · rename_i hrun
    cases h
    exact hrun
  · cases h

def onlyOwner (msgSender : Address) (s : Storage) : Except Error Unit :=
  if msgSender = s.owner then .ok () else .error (.OwnableUnauthorizedAccount msgSender)

def whenNotPaused (s : Storage) : Except Error Unit :=
  if s.paused then .error .EnforcedPause else .ok ()

def pause (msgSender : Address) (s : Storage) : Except Error (Storage × List Event) :=
  if s.paused then .error .EnforcedPause else .ok ({ s with paused := true }, [.Paused msgSender])

def unpause (msgSender : Address) (s : Storage) : Except Error (Storage × List Event) :=
  if s.paused then .ok ({ s with paused := false }, [.Unpaused msgSender])
  else .error .ExpectedPause

/-- `_transferOwnership`. -/
def setOwner (newOwner : Address) (s : Storage) : Storage × List Event :=
  ({ s with owner := newOwner }, [.OwnershipTransferred s.owner newOwner])

def construct (initialOwner : Address) : Except Error (Storage × List Event) :=
  if initialOwner = 0 then .error (.OwnableInvalidOwner 0)
  else
    .ok (⟨.empty, balanced_empty, initialOwner, false⟩, [.OwnershipTransferred 0 initialOwner])

def inherited (msgSender : Address) (call : ERC20Call) (s : Storage) :
    Except Error (Storage × List Event) :=
  match call with
  | .transfer recipient value =>
    onToken (transfer msgSender recipient value) (keeps_transfer msgSender recipient value) s
  | .transferFrom sender recipient value =>
    onToken (transferFrom msgSender sender recipient value)
      (keeps_transferFrom msgSender recipient value sender) s
  | .approve spender value =>
    onToken (approve msgSender spender value) (keeps_approve msgSender spender value) s
  | .transferOwnership newOwner => do
    onlyOwner msgSender s
    if newOwner = 0 then .error (.OwnableInvalidOwner 0) else .ok (setOwner newOwner s)
  | .renounceOwnership => do
    onlyOwner msgSender s
    .ok (setOwner 0 s)

def library : ERC20Library where
  Storage := Storage
  Event := Event
  Error := Error
  construct := fun _ _ initialOwner => construct initialOwner
  decimals := fun _ => 18
  totalSupply := fun s => s.token.totalSupply
  paused := Storage.paused
  onlyOwner := onlyOwner
  whenNotPaused := whenNotPaused
  _pause := pause
  _unpause := unpause
  _mint := fun account value => onToken (mint account value) (keeps_mint account value)
  _burn := fun account value => onToken (burn account value) (keeps_burn account value)
  inherited := inherited

theorem inherited_totalSupply {msgSender : Address} {call : ERC20Call} {s s' : Storage}
    {events : List Event} (h : inherited msgSender call s = .ok (s', events)) :
    s'.token.totalSupply = s.token.totalSupply := by
  cases call with
  | transfer recipient value =>
    exact BitVec.eq_of_toNat_eq (transfer_ok s.balanced (onToken_ok (keeps_transfer _ _ _) h)).2
  | transferFrom sender recipient value =>
    exact BitVec.eq_of_toNat_eq
      (transferFrom_ok s.balanced (onToken_ok (keeps_transferFrom _ _ _ _) h)).2
  | approve spender value =>
    exact BitVec.eq_of_toNat_eq (approve_ok s.balanced (onToken_ok (keeps_approve _ _ _) h)).2
  | transferOwnership newOwner =>
    obtain ⟨_, -, h⟩ := bind_eq_ok.1 h
    split at h
    · cases h
    · cases h
      rfl
  | renounceOwnership =>
    obtain ⟨_, -, h⟩ := bind_eq_ok.1 h
    cases h
    rfl

/-- **The library behaves as documented.** -/
theorem documented : library.Documented where
  construct {name symbol initialOwner s events} h := by
    change construct initialOwner = .ok (s, events) at h
    unfold construct at h
    split at h
    · cases h
    · cases h
      rfl
  decimals s := rfl
  whenNotPaused {s} h := by
    change whenNotPaused s = .ok () at h
    unfold whenNotPaused at h
    split at h
    · cases h
    · rename_i hpaused
      exact Bool.eq_false_iff.2 hpaused
  _mint {account value s s' events} h := (mint_ok s.balanced (onToken_ok (keeps_mint _ _) h)).2
  _burn {account value s s' events} h := (burn_ok s.balanced (onToken_ok (keeps_burn _ _) h)).2
  _pause {msgSender s s' events} h := by
    change pause msgSender s = .ok (s', events) at h
    unfold pause at h
    split at h
    · cases h
    · cases h
      rfl
  _unpause {msgSender s s' events} h := by
    change unpause msgSender s = .ok (s', events) at h
    unfold unpause at h
    split at h
    · cases h
      rfl
    · cases h
  inherited {msgSender call s s' events} h := inherited_totalSupply h

end ERC20

end OpenTTT
