import OpenTTT.Pot.Verifier
import OpenTTT.Runtime.Words

/-!
# The recency check of the embedded verifier

`check_recency` of `no_std_verify.rs` with its table of tiers, beside the recency check of the frame
verifier. The one counts nanoseconds and saturates at zero, the other counts milliseconds of a
timestamp that is cut to them; where the tolerances are the same this makes no difference
(`tolerance_lt_latency_iff`). They are the same but for one tier: the table of the frame verifier
has no `T_space`, which then gets the tolerance of tier 1 (`recencyChecks_agree_iff`).
-/

namespace OpenTTT.Roughtime

def TIER_BY_INDEX : List (String × UInt64) :=
  [("T0_epoch", 60000000000), ("T1_block", 2000000000), ("T2_slot", 12000000000),
    ("T3_micro", 100000000), ("T_space", 3000000000)]

def tierIndex (tier : String) : UInt8 :=
  if tier = "T0_epoch" then 0x0
  else if tier = "T1_block" then 0x1
  else if tier = "T2_slot" then 0x2
  else if tier = "T3_micro" then 0x3
  else if tier = "T_space" then 0x4
  else 0x1

def tierName (index : UInt8) : String :=
  match (index &&& 0x0F).toNat with
  | 0 => "T0_epoch"
  | 1 => "T1_block"
  | 2 => "T2_slot"
  | 3 => "T3_micro"
  | 4 => "T_space"
  | _ => "T1_block"

theorem tierIndex_lt (tier : String) : (tierIndex tier).toNat < TIER_BY_INDEX.length := by
  unfold tierIndex
  split_ifs <;> decide

def tierToleranceNs (tier : String) : UInt64 :=
  (TIER_BY_INDEX.get ⟨(tierIndex tier).toNat, tierIndex_lt tier⟩).2

/-- `VerifyResult`. -/
inductive NoStdVerifyResult
  | Ok
  | HmacFailed
  | Stale (deltaNs : UInt64)
  | ChainDigestMismatch
  | UnknownVersion
  | BindingKeyMismatch
  deriving DecidableEq

def checkRecency (potNs submitNs : UInt64) (tier : String) : NoStdVerifyResult :=
  let tolerance := tierToleranceNs tier
  let delta := saturatingSub submitNs potNs
  if delta > tolerance then .Stale delta else .Ok

theorem checkRecency_eq_ok_iff {potNs submitNs : UInt64} {tier : String} :
    checkRecency potNs submitNs tier = .Ok ↔
      submitNs.toNat - potNs.toNat ≤ (tierToleranceNs tier).toNat := by
  rw [← toNat_saturatingSub, ← UInt64.le_iff_toNat_le, ← UInt64.not_lt, checkRecency]
  split <;> simp_all

/-- The tolerances of the tiers in the two tables. -/
theorem tierToleranceNs_tierName {tier : ℕ} (h : tier < 16) :
    (tierToleranceNs (tierName (UInt8.ofNat tier))).toNat =
      1000000 * (if tier = 4 then 3000 else (PotVerifier.tolerance tier).toNat) := by
  interval_cases tier <;> rfl

/-- **Milliseconds and nanoseconds**: a timestamp cut to milliseconds is too old by a number of
milliseconds if and only if the whole timestamp is. -/
theorem tolerance_lt_latency_iff (nowMs timestamp tolerance : ℕ) :
    (tolerance : ℤ) < nowMs - (timestamp / 1000000 : ℕ) ↔
      1000000 * tolerance < nowMs * 1000000 - timestamp := by
  omega

/-- **Where the recency checks agree**: on every frame but one of tier 4 whose timestamp is more
than two and at most three seconds old. -/
theorem recencyChecks_agree_iff (parsed : PotFrame) (nowMs : ℕ) (htier : parsed.tier < 16)
    (htimestamp : parsed.timestamp < 2 ^ 64) (hnow : nowMs * 1000000 < 2 ^ 64) :
    (¬ PotVerifier.latency nowMs parsed > PotVerifier.tolerance parsed.tier ↔
        checkRecency (UInt64.ofNat parsed.timestamp) (UInt64.ofNat (nowMs * 1000000))
          (tierName (UInt8.ofNat parsed.tier)) = .Ok) ↔
      ¬ (parsed.tier = 4 ∧ 2000 * 1000000 < nowMs * 1000000 - parsed.timestamp ∧
        nowMs * 1000000 - parsed.timestamp ≤ 3000 * 1000000) := by
  have hnonneg : 0 ≤ PotVerifier.tolerance parsed.tier := by
    obtain ⟨tier, htier'⟩ : ∃ tier, parsed.tier = tier := ⟨_, rfl⟩
    rw [htier'] at htier ⊢
    interval_cases tier <;> decide
  have hstale := tolerance_lt_latency_iff nowMs parsed.timestamp
    (PotVerifier.tolerance parsed.tier).toNat
  rw [Int.toNat_of_nonneg hnonneg] at hstale
  rw [checkRecency_eq_ok_iff, tierToleranceNs_tierName htier, PotVerifier.latency, gt_iff_lt,
    hstale, not_lt, UInt64.toNat_ofNat', UInt64.toNat_ofNat', Nat.mod_eq_of_lt hnow,
    Nat.mod_eq_of_lt htimestamp]
  by_cases h4 : parsed.tier = 4
  · have htolerance : (PotVerifier.tolerance 4).toNat = 2000 := rfl
    rw [if_pos h4, h4, htolerance]
    omega
  · simp [h4]

/-- The two recency checks agree on every frame. -/
def RecencyChecksAgree : Prop :=
  ∀ (parsed : PotFrame) (nowMs : ℕ), parsed.tier < 16 → parsed.timestamp < 2 ^ 64 →
    nowMs * 1000000 < 2 ^ 64 →
      (¬ PotVerifier.latency nowMs parsed > PotVerifier.tolerance parsed.tier ↔
        checkRecency (UInt64.ofNat parsed.timestamp) (UInt64.ofNat (nowMs * 1000000))
          (tierName (UInt8.ofNat parsed.tier)) = .Ok)

/-- The frame of a record of tier 4. -/
def spaceFrame : PotFrame :=
  PotRecord.frame { versionTier := 0x14, sourceCount := 3, reserved := 0,
                    timestamp := 1700000000000000000, confidence := 500000,
                    nonce := Vector.replicate 32 7, grgCommit := Vector.replicate 32 8,
                    ed25519Sig := Vector.replicate 64 9 } (Vector.replicate 32 1)

/-- On its arrival from nearby. -/
theorem recencyChecks_agree_near :
    (¬ PotVerifier.latency 1700000001300 spaceFrame > PotVerifier.tolerance spaceFrame.tier ↔
        checkRecency (UInt64.ofNat spaceFrame.timestamp) (UInt64.ofNat (1700000001300 * 1000000))
          (tierName (UInt8.ofNat spaceFrame.tier)) = .Ok) ↔
      ¬ (spaceFrame.tier = 4 ∧
        2000 * 1000000 < 1700000001300 * 1000000 - spaceFrame.timestamp ∧
          1700000001300 * 1000000 - spaceFrame.timestamp ≤ 3000 * 1000000) :=
  recencyChecks_agree_iff spaceFrame 1700000001300 (by decide) (by decide) (by decide)

/-- After the way to the moon and back. -/
theorem not_recencyChecksAgree : ¬ RecencyChecksAgree := by
  intro h
  have hmoon := h spaceFrame 1700000002600 (by decide) (by decide) (by decide)
  revert hmoon
  decide

end OpenTTT.Roughtime
