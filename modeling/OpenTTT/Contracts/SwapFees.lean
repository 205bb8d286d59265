import OpenTTT.Contracts.Hook
import Mathlib.Data.Nat.Bitwise

/-!
# The fee of a swap

`_beforeSwap` of `TTTHook.sol` answers the pool manager with the fee that the swap is to be charged,
marked by a flag in one of its bits; `_afterSwap` computes the fee once more and reports it. Both
read the storage of the hook and the balance of the sender in the token contract, and nothing that
the hook is told.

`fee_of_swap` says that the two agree in every run of a hook that could be deployed: without its
flag the answer is the fee that is reported, and no greater than the greatest fee of a pool. This
rests on the tests of the constructor and of `setFeeConfig` (`fees_after`), as the bit of the flag
is one that a fee could have.
-/

namespace OpenTTT

/-- A bit that is not set in a word is set and cleared again. -/
theorem or_twoPow_and_not {w k : ℕ} {x : BitVec w} (hx : x.toNat < 2 ^ k) :
    (x ||| BitVec.twoPow w k) &&& ~~~BitVec.twoPow w k = x := by
  ext i hi
  rw [BitVec.getElem_and, BitVec.getElem_or, BitVec.getElem_not, BitVec.getElem_twoPow]
  by_cases hik : i = k
  · subst hik
    have hbit : x[i] = false := by
      rw [BitVec.getElem_eq_testBit_toNat]
      exact Nat.testBit_lt_two_pow hx
    simp [hbit]
  · simp [hik]

/-- The bit that is set is read back. -/
theorem or_twoPow_and {w k : ℕ} (x : BitVec w) :
    (x ||| BitVec.twoPow w k) &&& BitVec.twoPow w k = BitVec.twoPow w k := by
  ext i hi
  rw [BitVec.getElem_and, BitVec.getElem_or, BitVec.getElem_twoPow]
  by_cases hik : i = k <;> simp [hik]

namespace TTTHook

/-- `LPFeeLibrary.OVERRIDE_FEE_FLAG`. -/
def OVERRIDE_FEE_FLAG : Uint24 := 0x400000

/-- `BeforeSwapDeltaLibrary.ZERO_DELTA`. -/
def ZERO_DELTA : BitVec 256 := 0

/-- `IHooks.beforeSwap.selector`. -/
def beforeSwapSelector : BitVec 32 := 0x575e24b4

open OpenZeppelin (ERC1155Library)

variable {lib : ERC1155Library}

def beforeSwap (msgSender sender : Address) (w : World lib) :
    Except Error (BitVec 32 × BitVec 256 × Uint24) :=
  if msgSender ≠ w.hook.poolManager then .error .NotPoolManager
  else
    let balance := lib.balanceOf sender w.hook.tttTokenId w.ttt
    let selectedFee := if w.hook.minTTTBalance ≤ balance then w.hook.turboFee else w.hook.fullFee
    let feeWithOverride := selectedFee ||| OVERRIDE_FEE_FLAG
    .ok (beforeSwapSelector, ZERO_DELTA, feeWithOverride)

theorem beforeSwap_of_poolManager (sender : Address) (w : World lib) :
    beforeSwap w.hook.poolManager sender w =
      .ok (beforeSwapSelector, ZERO_DELTA, appliedFee w sender ||| OVERRIDE_FEE_FLAG) := by
  rw [beforeSwap, if_neg (not_not.2 rfl)]
  simp only [appliedFee, isTurbo, decide_eq_true_eq]

/-! ## The fees of a run -/

/-- Both fees of a hook are fees of a pool. -/
structure Fees (hook : State) : Prop where
  turboFee : hook.turboFee ≤ MAX_LP_FEE
  fullFee : hook.fullFee ≤ MAX_LP_FEE

theorem checkFee_eq_ok {fee : Uint24} {u : Unit} (h : checkFee fee = .ok u) : fee ≤ MAX_LP_FEE := by
  unfold checkFee at h
  split at h
  · cases h
  · rename_i hle
    exact BitVec.not_lt.1 hle

theorem fees_deploy {this msgSender manager ttt : Address} {minBalance : Uint256}
    {turboFee fullFee : Uint24} {hook : State}
    (h : deploy this msgSender manager ttt minBalance turboFee fullFee = .ok hook) : Fees hook := by
  unfold deploy at h
  split at h
  · cases h
  · simp only [bind_eq_ok] at h
    obtain ⟨_, hturbo, _, hfull, h⟩ := h
    cases h
    exact ⟨checkFee_eq_ok hturbo, checkFee_eq_ok hfull⟩

theorem poolManager_deploy {this msgSender manager ttt : Address} {minBalance : Uint256}
    {turboFee fullFee : Uint24} {hook : State}
    (h : deploy this msgSender manager ttt minBalance turboFee fullFee = .ok hook) :
    hook.poolManager = manager := by
  unfold deploy at h
  split at h
  · cases h
  · simp only [bind_eq_ok] at h
    obtain ⟨_, -, _, -, h⟩ := h
    cases h
    rfl

/-- What `setFeeConfig` leaves: the fees that it has tested. -/
theorem fees_setFeeConfig {msgSender : Address} {minBalance tttTokenId : Uint256}
    {turboFee fullFee : Uint24} {w : World lib} {result : World lib × List (Log lib)}
    (h : setFeeConfig msgSender minBalance turboFee fullFee tttTokenId w = .ok result) :
    Fees result.1.hook := by
  unfold setFeeConfig at h
  split at h
  · simp only [bind_eq_ok] at h
    obtain ⟨_, hturbo, _, hfull, h⟩ := h
    cases h
    exact ⟨checkFee_eq_ok hturbo, checkFee_eq_ok hfull⟩
  · cases h

/-- Calls of the token contract leave the hook as it is. -/
theorem hook_callToken {keccak256 : Buffer → Bytes32} {t : Transaction lib} {data : Buffer}
    {w : World lib} {result : World lib × List (Log lib)}
    (h : callToken keccak256 t data w = .ok result) : result.1.hook = w.hook := by
  simp only [callToken, bind_eq_ok] at h
  obtain ⟨_, -, h⟩ := h
  cases h
  rfl

theorem fees_settle {ε : Type} {w : World lib} {result : Except ε (World lib × List (Log lib))}
    (hw : Fees w.hook) (hresult : ∀ r, result = .ok r → Fees r.1.hook) :
    Fees (settle w result).2.hook := by
  cases result with
  | error e => exact hw
  | ok r => exact hresult r rfl

theorem fees_step (keccak256 : Buffer → Bytes32) {w : World lib} (hw : Fees w.hook)
    (t : Transaction lib) : Fees (step keccak256 w t).2.hook := by
  unfold step
  split
  · refine fees_settle hw fun r hr => ?_
    by_cases hcaller : t.msgSender = w.hook.poolManager
    · rw [hcaller, afterSwap_of_poolManager] at hr
      cases hr
      exact hw
    · rw [afterSwap_of_ne hcaller] at hr
      cases hr
  · exact fees_settle hw fun r hr => fees_setFeeConfig hr
  · exact fees_settle hw fun r hr => (hook_callToken hr).symm ▸ hw

theorem fees_after (keccak256 : Buffer → Bytes32) {w : World lib} (hw : Fees w.hook)
    (ts : List (Transaction lib)) : Fees (Mealy.after (step keccak256) w ts).hook :=
  Mealy.invariant_history (step keccak256) (P := fun _ w' => Fees w'.hook)
    (fun _ t _ h => fees_step keccak256 h t) hw ts

/-! ## The fee that is charged -/

theorem overrideFeeFlag_eq : OVERRIDE_FEE_FLAG = BitVec.twoPow 24 22 := rfl

/-- The flag is not a bit of a fee that has been tested. -/
theorem toNat_lt_of_le_max {fee : Uint24} (h : fee ≤ MAX_LP_FEE) : fee.toNat < 2 ^ 22 := by
  have hle : fee.toNat ≤ 1000000 := BitVec.le_def.1 h
  omega

theorem appliedFee_le {w : World lib} (hw : Fees w.hook) (sender : Address) :
    appliedFee w sender ≤ MAX_LP_FEE := by
  unfold appliedFee
  split
  · exact hw.turboFee
  · exact hw.fullFee

/-- The answer to the pool manager tells a swap of a sender to be charged a fee. -/
structure Charges (w : World lib) (sender : Address) (fee : Uint24) : Prop where
  /-- The answer has the flag and, without it, is the fee. -/
  answer : ∃ feeWithOverride,
    beforeSwap w.hook.poolManager sender w =
        .ok (beforeSwapSelector, ZERO_DELTA, feeWithOverride) ∧
      feeWithOverride &&& OVERRIDE_FEE_FLAG = OVERRIDE_FEE_FLAG ∧
      feeWithOverride &&& ~~~OVERRIDE_FEE_FLAG = fee
  /-- It is the fee of a pool. -/
  le_max : fee ≤ MAX_LP_FEE

theorem charges_appliedFee {w : World lib} (hw : Fees w.hook) (sender : Address) :
    Charges w sender (appliedFee w sender) := by
  have hle := appliedFee_le hw sender
  refine ⟨⟨_, beforeSwap_of_poolManager sender w, ?_, ?_⟩, hle⟩
  · rw [overrideFeeFlag_eq]
    exact or_twoPow_and _
  · rw [overrideFeeFlag_eq]
    exact or_twoPow_and_not (toNat_lt_of_le_max hle)

/-- **What a swap is charged is what is reported**: in every state that a hook reaches, the swap of
any sender, with any result and in any block, is to be charged the fee that `SwapVerified` tells. -/
theorem fee_of_swap (keccak256 : Buffer → Bytes32) {this deployer manager token : Address}
    {minBalance : Uint256} {turboFee fullFee : Uint24} {hook : State}
    (hdeploy : deploy this deployer manager token minBalance turboFee fullFee = .ok hook)
    (ttt : lib.Storage) (ts : List (Transaction lib)) (o : TTT.Outside lib) (block : Block)
    (sender : Address) (delta : BitVec 256) :
    ∃ turbo fee potHash,
      afterSwap keccak256 o block manager sender delta
          (Mealy.after (step keccak256) ⟨hook, ttt⟩ ts) =
        .ok (Mealy.after (step keccak256) ⟨hook, ttt⟩ ts,
          [.hook (.SwapVerified sender turbo (fee.setWidth 256) potHash)]) ∧
      Charges (Mealy.after (step keccak256) ⟨hook, ttt⟩ ts) sender fee := by
  have hfees := fees_after keccak256 (w := ⟨hook, ttt⟩) (fees_deploy hdeploy) ts
  have hswap := afterSwap_of_poolManager keccak256 o block sender delta
    (Mealy.after (step keccak256) ⟨hook, ttt⟩ ts)
  rw [poolManager_after, poolManager_deploy hdeploy] at hswap
  exact ⟨_, _, _, hswap, charges_appliedFee hfees sender⟩

/-- The hook of a deployment. -/
theorem fee_of_swap_deployed :
    deploy 3 2 1 7 1 500 3000 = .ok sampleWorld.hook ∧
      ∃ turbo fee potHash,
        afterSwap (fun _ => Solidity.zeroBytes32) sampleSwap.outside ⟨100, 1700000000⟩ 1 4 1000
            (Mealy.after (step fun _ => Solidity.zeroBytes32) ⟨sampleWorld.hook, sampleWorld.ttt⟩
              [sampleSwap]) =
          .ok (Mealy.after (step fun _ => Solidity.zeroBytes32)
              ⟨sampleWorld.hook, sampleWorld.ttt⟩ [sampleSwap],
            [.hook (.SwapVerified 4 turbo (BitVec.setWidth 256 fee) potHash)]) ∧
        Charges (Mealy.after (step fun _ => Solidity.zeroBytes32)
          ⟨sampleWorld.hook, sampleWorld.ttt⟩ [sampleSwap]) 4 fee :=
  have hdeploy : deploy 3 2 1 7 1 500 3000 = .ok sampleWorld.hook := rfl
  ⟨hdeploy, fee_of_swap (fun _ => Solidity.zeroBytes32) hdeploy sampleWorld.ttt [sampleSwap]
    sampleSwap.outside ⟨100, 1700000000⟩ 4 1000⟩

end TTTHook

end OpenTTT
