import OpenTTT.Contracts.Solidity
import OpenTTT.Foundations.Transactions
import OpenTTT.Runtime.Errors
import Mathlib.Logic.Function.Basic

/-!
# The standalone hook

`TTTHookSimple.sol`. `verifySwap` reads the balance of the swapper from the token contract, which is
a static call to a contract that is not known, so it answers anything and may fail. The storage of a
state is that of the contract; the events are the logs of its transactions.

`verifySwap_ok` and `setFeeConfig_ok` say what a transaction that succeeds has done.
-/

namespace OpenTTT

namespace TTTHookSimple

/-- The event `SwapVerified`. -/
structure SwapVerified where
  sender : Address
  pool : Bytes32
  hook : Address
  mode : String
  feeAmount : Uint256
  potHash : Bytes32

/-- The storage, with the address of the contract and the holders of `HOOK_OPERATOR_ROLE`. -/
structure State where
  this : Address
  operators : Address → Bool
  ttt : Address
  tttTokenId : Uint256
  minTTTBalance : Uint256
  turboFee : Uint24
  fullFee : Uint24
  totalSwaps : Uint256
  turboSwaps : Uint256
  fullSwaps : Uint256

inductive HookError
  | ZeroAddress
  | AccessControlUnauthorizedAccount (account : Address)
  /-- `balanceOf` reverts. -/
  | balanceOf
  /-- An increment that overflows. -/
  | overflow
  deriving DecidableEq

/-- A new contract, the caller of the constructor an operator. -/
def deployed (this msgSender ttt : Address) (minBalance : Uint256) (turboFee fullFee : Uint24) :
    State where
  this := this
  operators := Function.update (fun _ => false) msgSender true
  ttt := ttt
  tttTokenId := 0
  minTTTBalance := minBalance
  turboFee := turboFee
  fullFee := fullFee
  totalSwaps := 0
  turboSwaps := 0
  fullSwaps := 0

/-- The constructor. -/
def deploy (this msgSender ttt : Address) (minBalance : Uint256) (turboFee fullFee : Uint24) :
    Except HookError State :=
  if ttt = 0 then .error .ZeroAddress
  else .ok (deployed this msgSender ttt minBalance turboFee fullFee)

/-- `++` on a counter. -/
def increment (n : Uint256) : Except HookError Uint256 :=
  match Solidity.checkedAdd n 1 with
  | some m => .ok m
  | none => .error .overflow

/-- `onlyRole(HOOK_OPERATOR_ROLE)`. -/
def onlyOperator (msgSender : Address) (s : State) : Except HookError Unit :=
  if s.operators msgSender then .ok () else .error (.AccessControlUnauthorizedAccount msgSender)

/-- `abi.encodePacked(sender, block.timestamp, swapDelta)`. -/
def encodePacked (sender : Address) (timestamp swapDelta : Uint256) : Buffer :=
  toBeBytes 20 sender.toNat ++ toBeBytes 32 timestamp.toNat ++ toBeBytes 32 swapDelta.toNat

/-- The arguments of `verifySwap`, with the answer of the token contract to `balanceOf`. -/
structure VerifySwap where
  sender : Address
  pool : Bytes32
  swapDelta : BitVec 256
  balanceOf : Address → Uint256 → Option Uint256

/-- Whether a balance selects the turbo mode. -/
def isTurbo (s : State) (balance : Uint256) : Bool := decide (s.minTTTBalance ≤ balance)

def verifySwap (keccak256 : Buffer → Bytes32) (msgSender : Address) (timestamp : Uint256)
    (c : VerifySwap) (s : State) : Except HookError (State × List SwapVerified) := do
  onlyOperator msgSender s
  match c.balanceOf c.sender s.tttTokenId with
  | none => .error .balanceOf
  | some balance =>
    let turbo := isTurbo s balance
    let fee := if turbo then s.turboFee else s.fullFee
    let mode := if turbo then "turbo" else "full"
    let potHash := keccak256 (encodePacked c.sender timestamp c.swapDelta)
    let totalSwaps ← increment s.totalSwaps
    let event : SwapVerified := ⟨c.sender, c.pool, s.this, mode, fee.setWidth 256, potHash⟩
    if turbo then
      let turboSwaps ← increment s.turboSwaps
      return ({ s with totalSwaps, turboSwaps }, [event])
    else
      let fullSwaps ← increment s.fullSwaps
      return ({ s with totalSwaps, fullSwaps }, [event])

def setFeeConfig (msgSender : Address) (minBalance : Uint256) (turboFee fullFee : Uint24)
    (tttTokenId : Uint256) (s : State) : Except HookError (State × List SwapVerified) := do
  onlyOperator msgSender s
  return ({ s with minTTTBalance := minBalance, turboFee, fullFee, tttTokenId }, [])

/-- The functions that change the state. -/
inductive Call
  | verifySwap (c : VerifySwap)
  | setFeeConfig (minBalance : Uint256) (turboFee fullFee : Uint24) (tttTokenId : Uint256)

/-- The body of a call, with the events that it emits. -/
def Call.body (keccak256 : Buffer → Bytes32) (msgSender : Address) (timestamp : Uint256) :
    Call → State → Except HookError (State × List SwapVerified)
  | .verifySwap c, s => TTTHookSimple.verifySwap keccak256 msgSender timestamp c s
  | .setFeeConfig minBalance turboFee fullFee tttTokenId, s =>
    TTTHookSimple.setFeeConfig msgSender minBalance turboFee fullFee tttTokenId s

/-- A transaction with its block: the sender, the time and the height of the block, the hash of the
transaction, and the index in the block of the log that it emits, if any. -/
structure Transaction where
  msgSender : Address
  timestamp : Uint256
  number : Uint256
  txHash : Bytes32
  logIndex : Uint256
  call : Call

/-- An event as the chain logs it. -/
structure Log where
  timestamp : Uint256
  number : Uint256
  txHash : Bytes32
  logIndex : Uint256
  params : SwapVerified

/-- A transaction with the logs that it leaves. -/
def run (keccak256 : Buffer → Bytes32) (t : Transaction) (s : State) :
    Except HookError (State × List Log) := do
  let (s', events) ← t.call.body keccak256 t.msgSender t.timestamp s
  return (s', events.map fun event => ⟨t.timestamp, t.number, t.txHash, t.logIndex, event⟩)

/-! ## What a transaction does -/

theorem increment_ok {n m : Uint256} (h : increment n = .ok m) : m.toNat = n.toNat + 1 := by
  unfold increment at h
  split at h
  · rename_i m' hadd
    cases h
    exact Solidity.checkedAdd_eq_some hadd
  · cases h

/-- The counters after one more swap. -/
structure Counts (s s' : State) (turbo : Bool) : Prop where
  totalSwaps : s'.totalSwaps.toNat = s.totalSwaps.toNat + 1
  turboSwaps : s'.turboSwaps.toNat = s.turboSwaps.toNat + if turbo then 1 else 0
  fullSwaps : s'.fullSwaps.toNat = s.fullSwaps.toNat + if turbo then 0 else 1

/-- **A swap that is verified** emits one event and counts it under its mode. -/
theorem verifySwap_ok {keccak256 : Buffer → Bytes32} {msgSender : Address} {timestamp : Uint256}
    {c : VerifySwap} {s s' : State} {events : List SwapVerified}
    (h : verifySwap keccak256 msgSender timestamp c s = .ok (s', events)) :
    ∃ balance, c.balanceOf c.sender s.tttTokenId = some balance ∧
      Counts s s' (isTurbo s balance) ∧
      events = [⟨c.sender, c.pool, s.this, if isTurbo s balance then "turbo" else "full",
        (if isTurbo s balance then s.turboFee else s.fullFee).setWidth 256,
        keccak256 (encodePacked c.sender timestamp c.swapDelta)⟩] := by
  unfold verifySwap at h
  obtain ⟨_, -, h⟩ := bind_eq_ok.1 h
  split at h
  · cases h
  rename_i balance hbalance
  refine ⟨balance, hbalance, ?_⟩
  obtain ⟨total, htotal, h⟩ := bind_eq_ok.1 h
  cases hturbo : isTurbo s balance with
  | true =>
    rw [hturbo, if_pos rfl] at h
    obtain ⟨turboSwaps, hswaps, h⟩ := bind_eq_ok.1 h
    cases h
    exact ⟨⟨increment_ok htotal, increment_ok hswaps, rfl⟩, rfl⟩
  | false =>
    rw [hturbo, if_neg Bool.false_ne_true] at h
    obtain ⟨fullSwaps, hswaps, h⟩ := bind_eq_ok.1 h
    cases h
    exact ⟨⟨increment_ok htotal, rfl, increment_ok hswaps⟩, rfl⟩

/-- A new configuration emits nothing and leaves the counters. -/
theorem setFeeConfig_ok {msgSender : Address} {minBalance : Uint256} {turboFee fullFee : Uint24}
    {tttTokenId : Uint256} {s s' : State} {events : List SwapVerified}
    (h : setFeeConfig msgSender minBalance turboFee fullFee tttTokenId s = .ok (s', events)) :
    s' = { s with minTTTBalance := minBalance, turboFee, fullFee, tttTokenId } ∧ events = [] := by
  unfold setFeeConfig at h
  obtain ⟨_, -, h⟩ := bind_eq_ok.1 h
  cases h
  exact ⟨rfl, rfl⟩

end TTTHookSimple

end OpenTTT
