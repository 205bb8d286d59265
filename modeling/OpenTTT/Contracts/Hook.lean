import OpenTTT.Contracts.ERC1155
import OpenTTT.Contracts.TTT
import OpenTTT.Foundations.Mealy

/-!
# The hook and the token contract

`_afterSwap` and `setFeeConfig` of `TTTHook.sol`, together with the token contract that the hook
reads and calls, over any library that this one inherits from. `_afterSwap` calls `anchorPoT` of the
token contract and goes on when the call is reverted, which undoes what the callee has done. A state
is that of both contracts; a run is a list of transactions, swaps among them, that each succeed with
their events or are reverted.

`afterSwap_of_poolManager` says what a swap does: the token contract has no `anchorPoT`, so nothing
is anchored. `everySwapAnchored_iff` is what this comes to for runs.
-/

namespace OpenTTT

namespace TTTHook

open OpenZeppelin (ERC1155Library)

/-- The storage, with the address of the contract, the one of the pool manager and the holders of
`HOOK_OPERATOR_ROLE`. -/
structure State where
  this : Address
  poolManager : Address
  operators : Address → Bool
  tttTokenId : Uint256
  minTTTBalance : Uint256
  turboFee : Uint24
  fullFee : Uint24

inductive Event
  | SwapVerified (sender : Address) (isTurbo : Bool) (fee : Uint256) (potHash : Bytes32)
  | FeeConfigUpdated (minTTTBalance : Uint256) (turboFee fullFee : Uint24) (tttTokenId : Uint256)

inductive Error
  | FeeTooLarge (fee : Uint24)
  | ZeroAddress
  | NotPoolManager
  | AccessControlUnauthorizedAccount (account : Address)

/-- `LPFeeLibrary.MAX_LP_FEE`. -/
def MAX_LP_FEE : Uint24 := 1000000

/-- The test of a fee. -/
def checkFee (fee : Uint24) : Except Error Unit :=
  if MAX_LP_FEE < fee then .error (.FeeTooLarge fee) else .ok ()

/-- The constructor. -/
def deploy (this msgSender manager ttt : Address) (minBalance : Uint256)
    (turboFee fullFee : Uint24) : Except Error State :=
  if ttt = 0 then .error .ZeroAddress
  else do
    checkFee turboFee
    checkFee fullFee
    .ok
      { this
        poolManager := manager
        operators := Function.update (fun _ => false) msgSender true
        tttTokenId := 0
        minTTTBalance := minBalance
        turboFee
        fullFee }

structure Block where
  number : Uint256
  timestamp : Uint256

section Functions

variable (lib : ERC1155Library)

/-- The hook and the token contract that it was deployed with. -/
structure World where
  hook : State
  ttt : lib.Storage

/-- An event of one of the two contracts. -/
inductive Log
  | hook (e : Event)
  | ttt (e : TTT.Event lib)

variable {lib}

/-! ## The functions -/

/-- `abi.encodePacked(sender, block.timestamp, BalanceDelta.unwrap(delta))`. -/
def encodePot (sender : Address) (timestamp : Uint256) (delta : BitVec 256) : Buffer :=
  toBeBytes 20 sender.toNat ++ toBeBytes 32 timestamp.toNat ++ toBeBytes 32 delta.toNat

/-- `abi.encodePacked(sender, block.number)`. -/
def encodeGrg (sender : Address) (number : Uint256) : Buffer :=
  toBeBytes 20 sender.toNat ++ toBeBytes 32 number.toNat

/-- The selector of `ITTT.anchorPoT`. -/
def anchorPoT : BitVec 32 := 0xe8612166

/-- The data of the call of `anchorPoT`. -/
def anchorCall (number : Uint256) (grgHash potHash : Bytes32) : Buffer :=
  Solidity.encodeCall anchorPoT
    [number.toNat, (Solidity.toUint256 grgHash).toNat, (Solidity.toUint256 potHash).toNat]

/-- `try ITTT(address(ttt)).anchorPoT(block.number, grgHash, potHash) {} catch {}`. -/
def tryAnchor (keccak256 : Buffer → Bytes32) (o : TTT.Outside lib) (this : Address) (block : Block)
    (grgHash potHash : Bytes32) (ttt : lib.Storage) :
    lib.Storage × List (TTT.Event lib) :=
  match TTT.call keccak256 o this block.timestamp (anchorCall block.number grgHash potHash) ttt with
  | .ok result => result
  | .error _ => (ttt, [])

/-- Whether the balance of a sender selects the turbo mode. -/
def isTurbo (w : World lib) (sender : Address) : Bool :=
  decide (w.hook.minTTTBalance ≤ lib.balanceOf sender w.hook.tttTokenId w.ttt)

/-- The fee of a sender. -/
def appliedFee (w : World lib) (sender : Address) : Uint24 :=
  if isTurbo w sender then w.hook.turboFee else w.hook.fullFee

def afterSwap (keccak256 : Buffer → Bytes32) (o : TTT.Outside lib) (block : Block)
    (msgSender sender : Address) (delta : BitVec 256) (w : World lib) :
    Except Error (World lib × List (Log lib)) :=
  if msgSender ≠ w.hook.poolManager then .error .NotPoolManager
  else
    let potHash := keccak256 (encodePot sender block.timestamp delta)
    let event : Event :=
      .SwapVerified sender (isTurbo w sender) ((appliedFee w sender).setWidth 256) potHash
    let grgHash := keccak256 (encodeGrg sender block.number)
    let (ttt, events) := tryAnchor keccak256 o w.hook.this block grgHash potHash w.ttt
    .ok ({ w with ttt }, .hook event :: events.map .ttt)

def setFeeConfig (msgSender : Address) (minBalance : Uint256) (turboFee fullFee : Uint24)
    (tttTokenId : Uint256) (w : World lib) : Except Error (World lib × List (Log lib)) :=
  if w.hook.operators msgSender then do
    checkFee turboFee
    checkFee fullFee
    .ok ({ w with
        hook := { w.hook with minTTTBalance := minBalance, turboFee, fullFee, tttTokenId } },
      [.hook (.FeeConfigUpdated minBalance turboFee fullFee tttTokenId)])
  else .error (.AccessControlUnauthorizedAccount msgSender)

/-! ## Runs -/

/-- What is called in a transaction: the hook by the pool manager after a swap, the hook by an
operator, or the token contract. -/
inductive Call
  | afterSwap (sender : Address) (delta : BitVec 256)
  | setFeeConfig (minBalance : Uint256) (turboFee fullFee : Uint24) (tttTokenId : Uint256)
  | ttt (data : Buffer)

def Call.isSwap : Call → Bool
  | .afterSwap _ _ => true
  | _ => false

variable (lib) in
/-- A transaction, in its block, with what is done outside of the two contracts. -/
structure Transaction where
  block : Block
  msgSender : Address
  outside : TTT.Outside lib
  call : Call

/-- What a transaction ends in: its events, or `none` if it is reverted. -/
def settle {ε : Type} (w : World lib) (result : Except ε (World lib × List (Log lib))) :
    Option (List (Log lib)) × World lib :=
  match result with
  | .ok (w', logs) => (some logs, w')
  | .error _ => (none, w)

/-- A call of the token contract that does not come from the hook. -/
def callToken (keccak256 : Buffer → Bytes32) (t : Transaction lib) (data : Buffer) (w : World lib) :
    Except (TTT.Error lib) (World lib × List (Log lib)) := do
  let (ttt, events) ← TTT.call keccak256 t.outside t.msgSender t.block.timestamp data w.ttt
  .ok ({ w with ttt }, events.map .ttt)

def step (keccak256 : Buffer → Bytes32) (w : World lib) (t : Transaction lib) :
    Option (List (Log lib)) × World lib :=
  match t.call with
  | .afterSwap sender delta =>
    settle w (afterSwap keccak256 t.outside t.block t.msgSender sender delta w)
  | .setFeeConfig minBalance turboFee fullFee tttTokenId =>
    settle w (setFeeConfig t.msgSender minBalance turboFee fullFee tttTokenId w)
  | .ttt data => settle w (callToken keccak256 t data w)

/-- The events of the swaps of a run. -/
def swapLogs (keccak256 : Buffer → Bytes32) : World lib → List (Transaction lib) → List (Log lib)
  | _, [] => []
  | w, t :: ts =>
    (if t.call.isSwap then (step keccak256 w t).1.getD [] else []) ++
      swapLogs keccak256 (step keccak256 w t).2 ts

def Log.isSwapVerified : Log lib → Bool
  | .hook (.SwapVerified _ _ _ _) => true
  | _ => false

def Log.isPoTAnchored : Log lib → Bool
  | .ttt (.PoTAnchored _ _ _ _) => true
  | _ => false

/-- The events of a swap tell that it was verified, and that its hash was anchored with the number
of the block. -/
def SwapAnchored (block : Block) (logs : List (Log lib)) : Prop :=
  ∃ sender turbo fee potHash grgHash timestamp,
    .hook (.SwapVerified sender turbo fee potHash) ∈ logs ∧
      .ttt (.PoTAnchored block.number grgHash potHash timestamp) ∈ logs

/-- Every swap of a run that is not reverted is anchored, and the swaps anchor as often as they are
verified. -/
structure EverySwapAnchored (keccak256 : Buffer → Bytes32) (w : World lib)
    (ts : List (Transaction lib)) : Prop where
  anchored : ∀ (i : ℕ) (t : Transaction lib) (logs : List (Log lib)),
    ts[i]? = some t → t.call.isSwap = true →
    (Mealy.outputs (step keccak256) w ts)[i]? = some (some logs) → SwapAnchored t.block logs
  counts : (swapLogs keccak256 w ts).countP Log.isSwapVerified =
    (swapLogs keccak256 w ts).countP Log.isPoTAnchored

/-! ## What a swap does -/

/-- The token contract has no such function. -/
theorem selector_ne_anchorPoT (m : TTT.Method) : m.selector ≠ anchorPoT := by
  cases m <;> simp [TTT.Method.selector, anchorPoT]

theorem dispatch_anchorPoT : TTT.dispatch anchorPoT = none := by
  rw [TTT.dispatch, List.find?_eq_none]
  intro m _ h
  exact selector_ne_anchorPoT m (of_decide_eq_true h)

theorem call_anchorCall (keccak256 : Buffer → Bytes32) (o : TTT.Outside lib) (this : Address)
    (timestamp number : Uint256) (grgHash potHash : Bytes32) (ttt : lib.Storage) :
    TTT.call keccak256 o this timestamp (anchorCall number grgHash potHash) ttt =
      .error .noFunction := by
  rw [anchorCall]
  exact TTT.call_of_dispatch_eq_none keccak256 dispatch_anchorPoT o this timestamp _ ttt

theorem tryAnchor_eq (keccak256 : Buffer → Bytes32) (o : TTT.Outside lib) (this : Address)
    (block : Block) (grgHash potHash : Bytes32) (ttt : lib.Storage) :
    tryAnchor keccak256 o this block grgHash potHash ttt = (ttt, []) := by
  unfold tryAnchor
  rw [call_anchorCall]

/-- **What a swap does**: it is verified, and the call of the token contract is undone. -/
theorem afterSwap_of_poolManager (keccak256 : Buffer → Bytes32) (o : TTT.Outside lib)
    (block : Block) (sender : Address) (delta : BitVec 256) (w : World lib) :
    afterSwap keccak256 o block w.hook.poolManager sender delta w =
      .ok (w, [.hook (.SwapVerified sender (isTurbo w sender) ((appliedFee w sender).setWidth 256)
        (keccak256 (encodePot sender block.timestamp delta)))]) := by
  rw [afterSwap, if_neg (not_not.2 rfl)]
  simp only [tryAnchor_eq, List.map_nil]

theorem afterSwap_of_ne {keccak256 : Buffer → Bytes32} {o : TTT.Outside lib} {block : Block}
    {msgSender sender : Address} {delta : BitVec 256} {w : World lib}
    (h : msgSender ≠ w.hook.poolManager) :
    afterSwap keccak256 o block msgSender sender delta w = .error .NotPoolManager := by
  rw [afterSwap, if_pos h]

/-- The pool manager is that of the constructor. -/
theorem poolManager_step (keccak256 : Buffer → Bytes32) (w : World lib) (t : Transaction lib) :
    (step keccak256 w t).2.hook.poolManager = w.hook.poolManager := by
  obtain ⟨block, msgSender, o, call⟩ := t
  cases call with
  | afterSwap sender delta =>
    simp only [step]
    by_cases h : msgSender = w.hook.poolManager
    · rw [h, afterSwap_of_poolManager]
      rfl
    · rw [afterSwap_of_ne h]
      rfl
  | setFeeConfig minBalance turboFee fullFee tttTokenId =>
    simp only [step]
    cases h : setFeeConfig msgSender minBalance turboFee fullFee tttTokenId w with
    | error e => rfl
    | ok result =>
      unfold setFeeConfig at h
      split at h
      · simp only [bind_eq_ok] at h
        obtain ⟨_, -, _, -, h⟩ := h
        cases h
        rfl
      · cases h
  | ttt data =>
    simp only [step]
    cases h : callToken keccak256 ⟨block, msgSender, o, .ttt data⟩ data w with
    | error e => rfl
    | ok result =>
      simp only [callToken, bind_eq_ok] at h
      obtain ⟨_, -, h⟩ := h
      cases h
      rfl

theorem poolManager_after (keccak256 : Buffer → Bytes32) (w : World lib)
    (ts : List (Transaction lib)) :
    (Mealy.after (step keccak256) w ts).hook.poolManager = w.hook.poolManager :=
  Mealy.invariant_history (step keccak256)
    (P := fun _ w' => w'.hook.poolManager = w.hook.poolManager)
    (fun _ t w' h => (poolManager_step keccak256 w' t).trans h) rfl ts

/-- The output of a swap: one event, or none if it is not the pool manager that calls. -/
theorem step_of_isSwap (keccak256 : Buffer → Bytes32) (w : World lib) {t : Transaction lib}
    (ht : t.call.isSwap = true) :
    (t.msgSender = w.hook.poolManager ∧ ∃ e, (step keccak256 w t).1 = some [.hook e]) ∨
      t.msgSender ≠ w.hook.poolManager ∧ (step keccak256 w t).1 = none := by
  obtain ⟨block, msgSender, o, call⟩ := t
  cases call with
  | afterSwap sender delta =>
    by_cases h : msgSender = w.hook.poolManager
    · refine Or.inl ⟨h, ?_⟩
      simp only [step]
      rw [h, afterSwap_of_poolManager]
      exact ⟨_, rfl⟩
    · refine Or.inr ⟨h, ?_⟩
      simp only [step]
      rw [afterSwap_of_ne h]
      rfl
  | setFeeConfig minBalance turboFee fullFee tttTokenId => cases ht
  | ttt data => cases ht

/-- Swaps that the pool manager does not call leave no events. -/
theorem swapLogs_eq_nil {keccak256 : Buffer → Bytes32} {w : World lib} {ts : List (Transaction lib)}
    (h : ∀ t ∈ ts, t.call.isSwap = true → t.msgSender ≠ w.hook.poolManager) :
    swapLogs keccak256 w ts = [] := by
  induction ts generalizing w with
  | nil => rfl
  | cons t ts ih =>
    have hrest : swapLogs keccak256 (step keccak256 w t).2 ts = [] := by
      refine ih fun t' ht' hswap => ?_
      rw [poolManager_step]
      exact h t' (List.mem_cons_of_mem t ht') hswap
    rw [swapLogs, hrest, List.append_nil]
    split
    · rename_i hswap
      rcases step_of_isSwap keccak256 w hswap with ⟨hcaller, -⟩ | ⟨-, hnone⟩
      · exact absurd hcaller (h t List.mem_cons_self hswap)
      · rw [hnone]
        rfl
    · rfl

/-- The events of one of the hook alone anchor nothing. -/
theorem not_swapAnchored (block : Block) (e : Event) :
    ¬ SwapAnchored block ([.hook e] : List (Log lib)) := by
  rintro ⟨sender, turbo, fee, potHash, grgHash, timestamp, -, hmem⟩
  rw [List.mem_singleton] at hmem
  cases hmem

/-- **In which runs every swap is anchored**: those in which the pool manager calls for none. -/
theorem everySwapAnchored_iff (keccak256 : Buffer → Bytes32) (w : World lib)
    (ts : List (Transaction lib)) :
    EverySwapAnchored keccak256 w ts ↔
      ∀ t ∈ ts, t.call.isSwap = true → t.msgSender ≠ w.hook.poolManager := by
  constructor
  · intro h t ht hswap hcaller
    obtain ⟨i, hi⟩ := List.mem_iff_getElem?.1 ht
    have hout := Mealy.outputs_getElem? (step keccak256) w hi
    rcases step_of_isSwap keccak256 (Mealy.after (step keccak256) w (ts.take i)) hswap with
      ⟨-, e, he⟩ | ⟨hne, -⟩
    · rw [he] at hout
      exact not_swapAnchored t.block e (h.anchored i t _ hi hswap hout)
    · rw [poolManager_after] at hne
      exact hne hcaller
  · intro h
    refine ⟨fun i t logs hi hswap hout => ?_, by rw [swapLogs_eq_nil h]; rfl⟩
    have hcaller := h t (List.mem_of_getElem? hi) hswap
    have hstep := Mealy.outputs_getElem? (step keccak256) w hi
    rcases step_of_isSwap keccak256 (Mealy.after (step keccak256) w (ts.take i)) hswap with
      ⟨heq, -⟩ | ⟨-, hnone⟩
    · rw [poolManager_after] at heq
      exact absurd heq hcaller
    · rw [hnone, hout, Option.some.injEq] at hstep
      cases hstep

end Functions

/-- A hook and a token contract, both new. -/
def sampleWorld : World ERC1155.library where
  hook :=
    { this := 3
      poolManager := 1
      operators := Function.update (fun _ => false) 2 true
      tttTokenId := 0
      minTTTBalance := 1
      turboFee := 500
      fullFee := 3000 }
  ttt := (TTT.deploy ERC1155.library (fun _ => Solidity.zeroBytes32) 2).1

/-- A swap that the pool manager calls for. -/
def sampleSwap : Transaction ERC1155.library where
  block := ⟨100, 1700000000⟩
  msgSender := 1
  outside := ⟨fun _ _ => .error .noFunction, fun ttt => .ok (ttt, [])⟩
  call := .afterSwap 4 1000

/-- The first swap is not anchored. -/
theorem not_everySwapAnchored : ¬ ∀ lib : ERC1155Library, lib.Documented →
    ∀ (keccak256 : Buffer → Bytes32) (w : World lib) (ts : List (Transaction lib)),
      lib.paused w.ttt = false → (∀ t ∈ ts, t.call.isSwap = true) →
      EverySwapAnchored keccak256 w ts := by
  intro h
  have hrun := h ERC1155.library ERC1155.documented (fun _ => Solidity.zeroBytes32) sampleWorld
    [sampleSwap] rfl (by simp; rfl)
  rcases step_of_isSwap (fun _ => Solidity.zeroBytes32) sampleWorld
    (show sampleSwap.call.isSwap = true from rfl) with ⟨-, e, he⟩ | ⟨hne, -⟩
  · refine not_swapAnchored sampleSwap.block e (hrun.anchored 0 sampleSwap _ rfl rfl ?_)
    rw [← he]
    rfl
  · exact hne rfl

end TTTHook

end OpenTTT
