import OpenTTT.Contracts.Solidity
import OpenTTT.Foundations.Reentrancy
import Mathlib.Logic.Function.Basic

/-!
# The fee contract

`ProtocolFee.sol`. The token of a fee is a contract that the caller chooses, so
`safeTransferFrom` is a call to unknown code: it may enter the contract again, in frames of its own
that succeed or revert, before it succeeds or fails (`Reentrancy.Script`). A call that runs out of
gas is a frame that reverts. The state of the contract is undone with the frame that changed it, and
so is the log of its events.

`collectFee` raises the nonce of the payer before it calls the token. `Extends` says what that is
good for: between the start and the end of any frame the nonce of a payer has grown by the number of
fees collected from it, with the nonces in between used once each. The hash functions and the
recovery of a signer are parameters.
-/

namespace OpenTTT

namespace ProtocolFee

/-- The library functions of the contract. -/
structure Primitives where
  keccak256 : Buffer → Bytes32
  /-- `_hashTypedDataV4`, for the domain of the contract. -/
  hashTypedDataV4 : Bytes32 → Bytes32
  /-- `ECDSA.recover`, which reverts on a malformed signature. -/
  recover : Bytes32 → Buffer → Option Address

/-- The event `FeeCollected`, with the recipient of the transfer that it reports. -/
structure FeeCollected where
  payer : Address
  token : Address
  amount : Uint256
  nonce : Uint256
  recipient : Address
  deriving DecidableEq

/-- The storage of the contract, and the fees collected so far. -/
structure State where
  owner : Address
  feeRecipient : Address
  nonces : Address → Uint256
  collected : List FeeCollected

/-- A new contract. -/
def deployed (owner feeRecipient : Address) : State := ⟨owner, feeRecipient, fun _ => 0, []⟩

/-- The constructor, called by the owner. -/
def deploy (owner feeRecipient : Address) : Option State :=
  if feeRecipient = 0 then none else some (deployed owner feeRecipient)

inductive FeeError
  | InvalidSignature
  | ExpiredDeadline
  | InsufficientPayment
  | ZeroAddress
  /-- A `require` with its message. -/
  | require (message : String)
  /-- The error of `ECDSA.recover`. -/
  | ecdsa
  /-- An addition that overflows. -/
  | overflow
  | OwnableUnauthorizedAccount (account : Address)
  deriving DecidableEq

/-- The arguments of `collectFee`, and its caller. -/
structure CollectFee where
  sender : Address
  token : Address
  amount : Uint256
  signature : Buffer
  nonce : Uint256
  deadline : Uint256
  deriving DecidableEq

/-! ## The functions -/

variable (lib : Primitives)

def FEE_TYPEHASH : Bytes32 :=
  lib.keccak256 (Buffer.ofAscii
    "CollectFee(address token,uint256 amount,uint256 nonce,uint256 deadline)")

/-- `abi.encode` of the struct: every value in a word of 32 bytes. -/
def encodeStruct (token : Address) (amount nonce deadline : Uint256) : Buffer :=
  (FEE_TYPEHASH lib).toList ++ toBeBytes 32 token.toNat ++ toBeBytes 32 amount.toNat ++
    toBeBytes 32 nonce.toNat ++ toBeBytes 32 deadline.toNat

/-- What the payer signs. -/
def digest (token : Address) (amount nonce deadline : Uint256) : Bytes32 :=
  lib.hashTypedDataV4 (lib.keccak256 (encodeStruct lib token amount nonce deadline))

/-- The part of `collectFee` before the transfer. -/
def beforeTransfer (blockTimestamp : Uint256) (c : CollectFee) (s : State) :
    Except FeeError State :=
  if blockTimestamp > c.deadline then .error .ExpiredDeadline
  else if c.amount = 0 then .error .InsufficientPayment
  else if c.token = 0 then .error .ZeroAddress
  else if s.nonces c.sender ≠ c.nonce then .error (.require "Invalid nonce")
  else
    match lib.recover (digest lib c.token c.amount c.nonce c.deadline) c.signature with
    | none => .error .ecdsa
    | some signer =>
      if signer ≠ c.sender then .error .InvalidSignature
      else
        match Solidity.checkedAdd c.nonce 1 with
        | some nonce => .ok { s with nonces := Function.update s.nonces c.sender nonce }
        | none => .error .overflow

/-- The part of `collectFee` after a transfer to `recipient`. -/
def afterTransfer (c : CollectFee) (recipient : Address) (s : State) : State :=
  { s with collected := s.collected ++ [⟨c.sender, c.token, c.amount, c.nonce, recipient⟩] }

def setFeeRecipient (sender newRecipient : Address) (s : State) : Except FeeError State :=
  if sender ≠ s.owner then .error (.OwnableUnauthorizedAccount sender)
  else if newRecipient = 0 then .error .ZeroAddress
  else .ok { s with feeRecipient := newRecipient }

/-- The functions that change the state. -/
inductive Entry
  | collectFee (c : CollectFee)
  | setFeeRecipient (sender newRecipient : Address)

/-- A function as an entry point. `collectFee` calls the token in its middle, and goes on if
`safeTransferFrom` does not revert. -/
def run (blockTimestamp : Uint256) : Entry → State → Reentrancy.Outcome State
  | .collectFee c, s =>
    match beforeTransfer lib blockTimestamp c s with
    | .error _ => .revert
    | .ok s₁ => .call s₁ fun s₂ => some (afterTransfer c s.feeRecipient s₂)
  | .setFeeRecipient sender newRecipient, s =>
    match setFeeRecipient sender newRecipient s with
    | .error _ => .revert
    | .ok s₁ => .done s₁

/-- A transaction, at the time of its block. -/
abbrev Transaction := Uint256 × Reentrancy.Script Entry

/-- The state after transactions. -/
def after (s : State) (txs : List Transaction) : State := Reentrancy.after (run lib) s txs

/-! ## What a frame does -/

/-- What passes when the part before the transfer succeeds. -/
theorem beforeTransfer_ok {blockTimestamp : Uint256} {c : CollectFee} {s s₁ : State}
    (h : beforeTransfer lib blockTimestamp c s = .ok s₁) :
    s.nonces c.sender = c.nonce ∧
      lib.recover (digest lib c.token c.amount c.nonce c.deadline) c.signature = some c.sender ∧
      ∃ nonce : Uint256, nonce.toNat = c.nonce.toNat + 1 ∧
        s₁ = { s with nonces := Function.update s.nonces c.sender nonce } := by
  unfold beforeTransfer at h
  split at h
  · cases h
  split at h
  · cases h
  split at h
  · cases h
  split at h
  · cases h
  rename_i hnonce
  split at h
  · cases h
  rename_i signer hrecover
  split at h
  · cases h
  rename_i hsigner
  split at h
  · rename_i nonce hnext
    rw [not_not.1 hsigner] at hrecover
    exact ⟨not_not.1 hnonce, hrecover, nonce, Solidity.checkedAdd_eq_some hnext,
      (Except.ok.inj h).symm⟩
  · cases h

/-- The payer of a fee has signed it. -/
def Authorised (e : FeeCollected) : Prop :=
  ∃ deadline signature,
    lib.recover (digest lib e.token e.amount e.nonce deadline) signature = some e.payer

/-- **What a frame does**: it collects fees, each signed by its payer, and raises the nonce of every
payer by the number of fees collected from it, each of which used one of the nonces in between. -/
structure ExtendsBy (s s' : State) (fees : List FeeCollected) : Prop where
  collected : s'.collected = s.collected ++ fees
  count : ∀ p, (s'.nonces p).toNat = (s.nonces p).toNat + fees.countP fun e => e.payer = p
  between : ∀ e ∈ fees, (s.nonces e.payer).toNat ≤ e.nonce.toNat ∧
    e.nonce.toNat < (s'.nonces e.payer).toNat
  nodup : (fees.map fun e => (e.payer, e.nonce)).Nodup
  authorised : ∀ e ∈ fees, Authorised lib e

def Extends (s s' : State) : Prop := ∃ fees, ExtendsBy lib s s' fees

theorem Extends.of_eq {s s' : State} (hnonces : s'.nonces = s.nonces)
    (hcollected : s'.collected = s.collected) : Extends lib s s' := by
  refine ⟨[], ?_, fun p => ?_, nofun, List.nodup_nil, nofun⟩
  · rw [hcollected, List.append_nil]
  · rw [hnonces]
    rfl

theorem Extends.refl (s : State) : Extends lib s s := .of_eq lib rfl rfl

theorem ExtendsBy.le {s s' : State} {fees : List FeeCollected} (h : ExtendsBy lib s s' fees)
    (p : Address) : (s.nonces p).toNat ≤ (s'.nonces p).toNat := by
  rw [h.count]
  exact Nat.le_add_right _ _

/-- Two frames one after the other: the nonces that the first used are below those of the second. -/
theorem Extends.trans {s s' s'' : State} (h : Extends lib s s') (h' : Extends lib s' s'') :
    Extends lib s s'' := by
  obtain ⟨fees, h⟩ := h
  obtain ⟨fees', h'⟩ := h'
  refine ⟨fees ++ fees', ?_, fun p => ?_, fun e he => ?_, ?_, fun e he => ?_⟩
  · rw [h'.collected, h.collected, List.append_assoc]
  · rw [h'.count, h.count, List.countP_append, Nat.add_assoc]
  · rcases List.mem_append.1 he with he | he
    · exact ⟨(h.between e he).1, (h.between e he).2.trans_le (h'.le lib e.payer)⟩
    · exact ⟨(h.le lib e.payer).trans (h'.between e he).1, (h'.between e he).2⟩
  · rw [List.map_append]
    refine List.nodup_append.2 ⟨h.nodup, h'.nodup, ?_⟩
    intro a ha b hb hab
    obtain ⟨e, he, rfl⟩ := List.mem_map.1 ha
    obtain ⟨e', he', rfl⟩ := List.mem_map.1 hb
    obtain ⟨hpayer, hnonce⟩ := Prod.mk.inj hab
    have hbelow := (h.between e he).2
    have habove := (h'.between e' he').1
    rw [← hpayer, ← hnonce] at habove
    omega
  · rcases List.mem_append.1 he with he | he
    · exact h.authorised e he
    · exact h'.authorised e he

/-- **`collectFee` around a transfer that does anything**: the nonce is raised before the transfer,
so no fee that is collected during it has the same payer and nonce. -/
theorem extends_collectFee {blockTimestamp : Uint256} {c : CollectFee} {s s₁ s₂ : State}
    (hbefore : beforeTransfer lib blockTimestamp c s = .ok s₁) (h : Extends lib s₁ s₂)
    (recipient : Address) : Extends lib s (afterTransfer c recipient s₂) := by
  obtain ⟨hnonce, hrecover, nonce, hnext, rfl⟩ := beforeTransfer_ok lib hbefore
  obtain ⟨fees, h⟩ := h
  have hsender : (Function.update s.nonces c.sender nonce c.sender).toNat =
      c.nonce.toNat + 1 := by
    rw [Function.update_self, hnext]
  have hother : ∀ p, (s.nonces p).toNat + (if c.sender = p then 1 else 0) =
      (Function.update s.nonces c.sender nonce p).toNat := by
    intro p
    by_cases hp : c.sender = p
    · rw [← hp, hsender, if_pos rfl, hnonce]
    · rw [if_neg hp, Function.update_of_ne (Ne.symm hp), Nat.add_zero]
  refine ⟨fees ++ [⟨c.sender, c.token, c.amount, c.nonce, recipient⟩], ?_, fun p => ?_,
    fun e he => ?_, ?_, fun e he => ?_⟩
  · rw [afterTransfer, h.collected, List.append_assoc]
  · have hcount := h.count p
    rw [← hother p] at hcount
    rw [afterTransfer, hcount, List.countP_append, List.countP_singleton]
    simp only [decide_eq_true_eq]
    omega
  · rcases List.mem_append.1 he with he | he
    · refine ⟨le_trans ?_ (h.between e he).1, (h.between e he).2⟩
      rw [← hother]
      exact Nat.le_add_right _ _
    · obtain rfl := List.mem_singleton.1 he
      have hle := h.le lib c.sender
      rw [hsender] at hle
      rw [hnonce]
      exact ⟨le_rfl, hle⟩
  · rw [List.map_append, List.map_singleton, List.nodup_append]
    refine ⟨h.nodup, List.nodup_singleton _, ?_⟩
    intro a ha b hb hab
    obtain ⟨e, he, rfl⟩ := List.mem_map.1 ha
    obtain rfl := List.mem_singleton.1 hb
    have hpayer : e.payer = c.sender := congrArg Prod.fst hab
    have hsame : e.nonce = c.nonce := congrArg Prod.snd hab
    have habove := (h.between e he).1
    rw [hpayer, hsender, hsame] at habove
    omega
  · rcases List.mem_append.1 he with he | he
    · exact h.authorised e he
    · obtain rfl := List.mem_singleton.1 he
      exact ⟨c.deadline, c.signature, hrecover⟩

/-- The owner's function does not touch the nonces. -/
theorem extends_setFeeRecipient {sender newRecipient : Address} {s s₁ : State}
    (h : setFeeRecipient sender newRecipient s = .ok s₁) : Extends lib s s₁ := by
  unfold setFeeRecipient at h
  split at h
  · cases h
  split at h
  · cases h
  cases h
  exact .of_eq lib rfl rfl

/-- The entry points keep `Extends`, and so does every script. -/
theorem kept (blockTimestamp : Uint256) :
    Reentrancy.Kept (run lib blockTimestamp) (Extends lib) where
  refl := Extends.refl lib
  trans := Extends.trans lib
  done {entry s s₁} h := by
    cases entry with
    | collectFee c =>
      simp only [run] at h
      split at h <;> cases h
    | setFeeRecipient sender newRecipient =>
      simp only [run] at h
      split at h
      · cases h
      · rename_i s₁' hset
        cases h
        exact extends_setFeeRecipient lib hset
  call {entry s s₁ resume s₂ s₃} h hcall hresume := by
    cases entry with
    | collectFee c =>
      simp only [run] at h
      split at h
      · cases h
      · rename_i s₁' hbefore
        cases h
        cases hresume
        exact extends_collectFee lib hbefore hcall s.feeRecipient
    | setFeeRecipient sender newRecipient =>
      simp only [run] at h
      split at h <;> cases h

theorem extends_after (s : State) (txs : List Transaction) : Extends lib s (after lib s txs) :=
  Reentrancy.Kept.after (Extends.refl lib) (kept lib) s txs

/-- **Replay safety under reentrancy**: after any transactions, whatever the tokens do in the middle
of the calls, the nonce of a payer is the number of fees collected from it; no two of these have the
same payer and nonce; each was signed by its payer; and a call that does not succeed leaves the
state, and with it every nonce, as it was. -/
theorem collectFee_replay_safe (owner feeRecipient : Address) (txs : List Transaction) :
    (∀ p, ((after lib (deployed owner feeRecipient) txs).nonces p).toNat =
      (after lib (deployed owner feeRecipient) txs).collected.countP
        fun e => e.payer = p) ∧
    ((after lib (deployed owner feeRecipient) txs).collected.map
      fun e => (e.payer, e.nonce)).Nodup ∧
    (∀ e ∈ (after lib (deployed owner feeRecipient) txs).collected, Authorised lib e) ∧
    ∀ (blockTimestamp : Uint256) (c : CollectFee) (s : State) (token : State → Bool × State),
      ((run lib blockTimestamp (.collectFee c) s).settle s token).1 = true ∨
        ((run lib blockTimestamp (.collectFee c) s).settle s token).2 = s := by
  obtain ⟨fees, h⟩ := extends_after lib (deployed owner feeRecipient) txs
  have hcollected : (after lib (deployed owner feeRecipient) txs).collected = fees :=
    h.collected.trans (List.nil_append fees)
  rw [hcollected]
  refine ⟨fun p => ?_, h.nodup, h.authorised, fun blockTimestamp c s token =>
    Reentrancy.settle_reverted _ s token⟩
  have hzero : ((deployed owner feeRecipient).nonces p).toNat = 0 := rfl
  rw [h.count, hzero, Nat.zero_add]

/-- A call of the payer 7 for a token, with a signature that recovers to it. -/
def payment (nonce : Uint256) : CollectFee := ⟨7, 1, 5, [], nonce, 100⟩

/-- The token answers a payment with the same payment, which fails, and with the next one, which
succeeds. The inner payment is the first one to be logged. -/
example : (after ⟨fun _ => Vector.replicate 32 0, id, fun _ _ => some 7⟩ (deployed 2 3)
    [(0, .enter (.collectFee (payment 0))
      (.enter (.collectFee (payment 0)) (.finish true)
        fun success => if success then .finish false
          else .enter (.collectFee (payment 1)) (.finish true) .finish)
      .finish)]).collected.map FeeCollected.nonce = [1, 0] := by
  rfl

end ProtocolFee

end OpenTTT
