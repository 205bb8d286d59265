import OpenTTT.Foundations.Mealy
import OpenTTT.Switch.MatchRate

/-!
# The issuer's switch

`AdaptiveSwitch` of `roughtime/adaptive_switch.rs`. The counters are 32-bit numbers, which wrap
around as they do in a release build.

A block fails if its integrity or its time is not accepted; a failing block forces the mode `Full`,
leaves the history alone and counts a failure. Nothing but `reset` clears the count, and `Turbo`
needs it to be zero: `noForcedTurbo` says what `Turbo` implies in every reachable state, and
`recovers_iff` when a switch recovers after good blocks.
-/

namespace OpenTTT.Roughtime

inductive AdaptiveMode
  | Turbo
  | Full
  deriving DecidableEq

structure AdaptiveSwitch where
  window : ℕ
  turboEntry : Binary64
  turboMaintain : Binary64
  history : List Bool
  mode : AdaptiveMode
  penaltyCooldown : UInt32
  failCount : UInt32
  backoffBase : UInt32
  tierToleranceMs : UInt64
  deriving DecidableEq

namespace AdaptiveSwitch

def new (tierToleranceMs : UInt64) : AdaptiveSwitch where
  window := 20
  turboEntry := turboEntryRate
  turboMaintain := turboMaintainRate
  history := []
  mode := .Full
  penaltyCooldown := 0
  failCount := 0
  backoffBase := 2
  tierToleranceMs := tierToleranceMs

/-- `check_recency`; the subtraction saturates. -/
def checkRecency (self : AdaptiveSwitch) (potTimestampMs submissionMs : UInt64) : Bool :=
  decide (submissionMs.toNat - potTimestampMs.toNat ≤ self.tierToleranceMs.toNat)

/-- The step that `verify_block` makes for an integrity failure and for a late block. -/
def fail (self : AdaptiveSwitch) : AdaptiveSwitch :=
  { self with
    failCount := self.failCount + 1
    penaltyCooldown := self.backoffBase ^ (min (self.failCount + 1) 8).toNat
    mode := .Full }

/-- The threshold for the rate, which depends on the mode. -/
def threshold (self : AdaptiveSwitch) : Binary64 :=
  if self.mode = .Turbo then self.turboMaintain else self.turboEntry

/-- The cooldown after a block without a failure. -/
def countdown (penaltyCooldown : UInt32) : UInt32 :=
  if penaltyCooldown > 0 then penaltyCooldown - 1 else penaltyCooldown

/-- The step that `verify_block` makes for a block without a failure. -/
def record (self : AdaptiveSwitch) (seqOk : Bool) : AdaptiveSwitch :=
  let penaltyCooldown := countdown self.penaltyCooldown
  let history := SlidingWindow.push self.window self.history seqOk
  let self' := { self with penaltyCooldown := penaltyCooldown, history := history }
  if history.length ≥ self.window ∧ self.threshold.le (matchRate history) = true ∧
      penaltyCooldown = 0 ∧ self.failCount = 0 then
    { self' with mode := .Turbo }
  else if (matchRate history).lt self.threshold = true ∨ penaltyCooldown > 0 then
    { self' with mode := .Full }
  else self'

/-- `verify_block`. -/
def verifyBlock (self : AdaptiveSwitch) (orderOk timeOk integrityOk : Bool) :
    AdaptiveMode × AdaptiveSwitch :=
  if integrityOk = false then (.Full, self.fail)
  else if timeOk = false then (.Full, self.fail)
  else
    let self' := self.record (orderOk && timeOk)
    (self'.mode, self')

def feeDiscount (self : AdaptiveSwitch) : Binary64 :=
  if self.mode = .Turbo then Binary64.round (20 / 100) else .finite 0

def reset (self : AdaptiveSwitch) : AdaptiveSwitch :=
  { self with history := [], mode := .Full, failCount := 0, penaltyCooldown := 0 }

/-! ## Operations and runs -/

/-- An operation on a switch. -/
inductive Op
  | verifyBlock (orderOk timeOk integrityOk : Bool)
  | reset
  deriving DecidableEq

/-- A good block. -/
def Op.good : Op := .verifyBlock true true true

/-- Whether an operation is a block that fails. -/
def Op.fails : Op → Bool
  | .verifyBlock _ timeOk integrityOk => !timeOk || !integrityOk
  | .reset => false

/-- The order result of a block that does not fail. -/
def Op.recorded : Op → Option Bool
  | .verifyBlock orderOk timeOk integrityOk =>
    if timeOk && integrityOk then some orderOk else none
  | .reset => none

/-- The order result of a block. -/
def Op.orderResult : Op → Option Bool
  | .verifyBlock orderOk _ _ => some orderOk
  | .reset => none

/-- An operation as a step. -/
def step (self : AdaptiveSwitch) : Op → Option AdaptiveMode × AdaptiveSwitch
  | .verifyBlock orderOk timeOk integrityOk =>
    ((self.verifyBlock orderOk timeOk integrityOk).1,
      (self.verifyBlock orderOk timeOk integrityOk).2)
  | .reset => (none, self.reset)

/-- The state after a list of operations. -/
def after (self : AdaptiveSwitch) (ops : List Op) : AdaptiveSwitch := Mealy.after step self ops

/-- The operations since the last reset. -/
def sinceReset (ops : List Op) : List Op := ops.rtakeWhile fun op => decide (op ≠ .reset)

/-- The number of failing blocks in a list of operations. -/
def failures (ops : List Op) : ℕ := ops.countP Op.fails

/-! ## The operations since the last reset -/

theorem sinceReset_reset (ops : List Op) : sinceReset (ops ++ [.reset]) = [] :=
  List.rtakeWhile_concat_neg _ _ _ (by simp)

theorem sinceReset_concat (ops : List Op) {op : Op} (h : op ≠ .reset) :
    sinceReset (ops ++ [op]) = sinceReset ops ++ [op] :=
  List.rtakeWhile_concat_pos _ _ _ (by simpa using h)

theorem sinceReset_suffix (ops : List Op) : sinceReset ops <:+ ops := List.rtakeWhile_suffix _ _

theorem failures_sinceReset_le (ops : List Op) : failures (sinceReset ops) ≤ failures ops :=
  (sinceReset_suffix ops).sublist.countP_le

/-- The order results recorded since the last reset. -/
def recordedSinceReset (ops : List Op) : List Bool := (sinceReset ops).filterMap Op.recorded

theorem recordedSinceReset_concat (ops : List Op) {op : Op} (h : op ≠ .reset) :
    recordedSinceReset (ops ++ [op]) = recordedSinceReset ops ++ op.recorded.toList := by
  rw [recordedSinceReset, sinceReset_concat ops h, List.filterMap_append]
  cases hrec : op.recorded <;> simp [recordedSinceReset, hrec]

theorem failures_sinceReset_concat (ops : List Op) {op : Op} (h : op ≠ .reset) :
    failures (sinceReset (ops ++ [op])) =
      failures (sinceReset ops) + if op.fails = true then 1 else 0 := by
  rw [sinceReset_concat ops h, failures, List.countP_append, List.countP_singleton]
  rfl

/-! ## The invariant -/

/-- What the operations since a start determine of the state. -/
structure Inv (ops : List Op) (s : AdaptiveSwitch) : Prop where
  window : s.window = 20
  turboEntry : s.turboEntry = turboEntryRate
  turboMaintain : s.turboMaintain = turboMaintainRate
  history : s.history = (recordedSinceReset ops).rtake 20
  failCount : s.failCount = UInt32.ofNat (failures (sinceReset ops))
  cooldown : failures (sinceReset ops) = 0 → s.penaltyCooldown = 0
  turbo : s.mode = .Turbo →
    s.failCount = 0 ∧ s.penaltyCooldown = 0 ∧ Maintained (recordedSinceReset ops)
  hysteresis : failures (sinceReset ops) = 0 →
    (s.mode = .Turbo ↔ InTurbo (recordedSinceReset ops))

theorem inv_new (tierToleranceMs : UInt64) : Inv [] (new tierToleranceMs) :=
  ⟨rfl, rfl, rfl, rfl, rfl, fun _ => rfl, fun h => AdaptiveMode.noConfusion h,
    fun _ => iff_of_false (by simp [new]) not_inTurbo_nil⟩

theorem Inv.reset {ops : List Op} {s : AdaptiveSwitch} (h : Inv ops s) :
    Inv (ops ++ [.reset]) s.reset := by
  refine ⟨h.window, h.turboEntry, h.turboMaintain, ?_, ?_, fun _ => rfl,
    fun hm => AdaptiveMode.noConfusion hm, fun _ => ?_⟩
  · rw [recordedSinceReset, sinceReset_reset]
    rfl
  · rw [sinceReset_reset]
    rfl
  · rw [recordedSinceReset, sinceReset_reset]
    exact iff_of_false (by simp [AdaptiveSwitch.reset]) not_inTurbo_nil

/-- A failing block counts, and leaves the history alone. -/
theorem Inv.fail {ops : List Op} {s : AdaptiveSwitch} (h : Inv ops s) {op : Op}
    (hop : op.fails = true) (hrec : op.recorded = none) : Inv (ops ++ [op]) s.fail := by
  have hne : op ≠ .reset := by
    rintro rfl
    exact Bool.false_ne_true hop
  have hfail := failures_sinceReset_concat ops hne
  rw [if_pos hop] at hfail
  refine ⟨h.window, h.turboEntry, h.turboMaintain, ?_, ?_, ?_,
    fun hm => AdaptiveMode.noConfusion hm, ?_⟩
  · rw [recordedSinceReset_concat ops hne, hrec, Option.toList_none, List.append_nil]
    exact h.history
  · rw [hfail, UInt32.ofNat_add, ← h.failCount]
    rfl
  · intro h0
    omega
  · intro h0
    omega

theorem countdown_zero : countdown 0 = 0 := rfl

theorem toNat_countdown (c : UInt32) : (countdown c).toNat = c.toNat - 1 := by
  unfold countdown
  split
  · rename_i h
    have hle : (1 : UInt32) ≤ c := by
      rw [gt_iff_lt, UInt32.lt_iff_toNat_lt] at h
      rw [UInt32.le_iff_toNat_le]
      exact h
    rw [UInt32.toNat_sub_of_le _ _ hle]
    rfl
  · rename_i h
    rw [gt_iff_lt, UInt32.lt_iff_toNat_lt] at h
    have h0 : (0 : UInt32).toNat = 0 := rfl
    omega

/-- With fewer failures than the counter can hold, `Turbo` means that none has happened since the
last reset. -/
theorem Inv.failures_eq_zero {ops : List Op} {s : AdaptiveSwitch} (h : Inv ops s)
    (hfew : failures ops < 2 ^ 32) (hmode : s.mode = .Turbo) : failures (sinceReset ops) = 0 := by
  have hle := failures_sinceReset_le ops
  have hnat := congrArg UInt32.toNat (h.failCount.symm.trans (h.turbo hmode).1)
  rw [UInt32.toNat_ofNat', Nat.mod_eq_of_lt (by omega)] at hnat
  exact hnat

theorem Inv.threshold_eq {ops : List Op} {s : AdaptiveSwitch} (h : Inv ops s) :
    s.threshold = if s.mode = .Turbo then turboMaintainRate else turboEntryRate := by
  rw [threshold, h.turboMaintain, h.turboEntry]

/-- The rate of a full window is at the threshold of the mode, or below it. -/
theorem Inv.lt_threshold_iff {ops : List Op} {s : AdaptiveSwitch} (h : Inv ops s)
    {history : List Bool} (hlen : history.length = 20) :
    (matchRate history).lt s.threshold = true ↔ ¬ s.threshold.le (matchRate history) = true := by
  rw [h.threshold_eq]
  split
  · rw [matchRate_lt_maintain_iff hlen, maintain_le_matchRate_iff hlen, not_le]
  · rw [matchRate_lt_entry_iff hlen, entry_le_matchRate_iff hlen, not_le]

/-- A full window at the threshold of the mode has 17 matches. -/
theorem Inv.le_count_of_threshold_le {ops : List Op} {s : AdaptiveSwitch} (h : Inv ops s)
    {history : List Bool} (hlen : history.length = 20)
    (hle : s.threshold.le (matchRate history) = true) : 17 ≤ history.count true := by
  rw [h.threshold_eq] at hle
  split at hle
  · rwa [maintain_le_matchRate_iff hlen] at hle
  · rw [entry_le_matchRate_iff hlen] at hle
    omega

/-- The test of a recorded block for `Turbo`, with the history after it. -/
def TurboTest (s : AdaptiveSwitch) (history : List Bool) : Prop :=
  history.length ≥ s.window ∧ s.threshold.le (matchRate history) = true ∧
    countdown s.penaltyCooldown = 0 ∧ s.failCount = 0

/-- The mode after a recorded block is `Turbo` if and only if the test succeeds: the branch that
keeps the mode never keeps `Turbo`. -/
theorem Inv.mode_record {ops : List Op} {s : AdaptiveSwitch} (h : Inv ops s) (ok : Bool) :
    (s.record ok).mode = .Turbo ↔ s.TurboTest ((recordedSinceReset ops ++ [ok]).rtake 20) := by
  have hhist : SlidingWindow.push s.window s.history ok =
      (recordedSinceReset ops ++ [ok]).rtake 20 := by
    rw [h.history, h.window]
    exact SlidingWindow.push_rtake 20 _ ok
  rw [← hhist]
  simp only [AdaptiveSwitch.record]
  split
  · rename_i htest
    exact iff_of_true rfl htest
  · rename_i htest
    split
    · exact iff_of_false AdaptiveMode.noConfusion htest
    · -- the mode is kept: in `Turbo` one of the two tests before would have succeeded
      rename_i hleave
      refine iff_of_false (fun hm => htest ?_) htest
      obtain ⟨hnone, hzero, hmaintained, -⟩ := h.turbo hm
      have hlen : (SlidingWindow.push s.window s.history ok).length = 20 := by
        rw [hhist, SlidingWindow.length_rtake, List.length_append, List.length_singleton]
        omega
      rw [h.lt_threshold_iff hlen, not_or, not_not] at hleave
      refine ⟨?_, hleave.1, ?_, hnone⟩
      · rw [hlen, h.window]
      · rw [hzero]
        exact countdown_zero

/-- A recorded block changes the window, the cooldown and the mode only. -/
theorem record_eq (s : AdaptiveSwitch) (ok : Bool) : s.record ok =
    { s with
      history := SlidingWindow.push s.window s.history ok
      penaltyCooldown := countdown s.penaltyCooldown
      mode := (s.record ok).mode } := by
  simp only [record]
  split
  · rfl
  · split <;> rfl

/-- **A block without a failure** keeps the invariant, with its order result recorded. -/
theorem Inv.record {ops : List Op} {s : AdaptiveSwitch} (h : Inv ops s) {op : Op} {ok : Bool}
    (hop : op.fails = false) (hrec : op.recorded = some ok) : Inv (ops ++ [op]) (s.record ok) := by
  have hne : op ≠ .reset := by
    rintro rfl
    simp [Op.recorded] at hrec
  have hfail := failures_sinceReset_concat ops hne
  rw [hop, if_neg Bool.false_ne_true, Nat.add_zero] at hfail
  have hrecorded := recordedSinceReset_concat ops hne
  rw [hrec, Option.toList_some] at hrecorded
  have hmode := h.mode_record ok
  rw [← hrecorded] at hmode
  rw [record_eq]
  refine ⟨h.window, h.turboEntry, h.turboMaintain, ?_, ?_, ?_, ?_, ?_⟩
  · change SlidingWindow.push s.window s.history ok = _
    rw [h.history, h.window, hrecorded]
    exact SlidingWindow.push_rtake 20 _ ok
  · rw [hfail]
    exact h.failCount
  · intro h0
    change countdown s.penaltyCooldown = 0
    rw [h.cooldown (hfail ▸ h0)]
    exact countdown_zero
  · intro hturbo
    obtain ⟨hlen, hrate, hzero, hnone⟩ := hmode.1 hturbo
    rw [h.window, ge_iff_le, twenty_le_length_rtake_iff] at hlen
    exact ⟨hnone, hzero, hlen, h.le_count_of_threshold_le (length_rtake_of_le hlen) hrate⟩
  · -- without failures the count and the cooldown are zero, and the test is the hysteresis
    intro h0
    rw [hfail] at h0
    have hnone : s.failCount = 0 := by rw [h.failCount, h0]; rfl
    have hzero : countdown s.penaltyCooldown = 0 := by
      rw [h.cooldown h0]
      exact countdown_zero
    refine hmode.trans ?_
    rw [hrecorded, ← test_iff_inTurbo (h.hysteresis h0), TurboTest, h.window, h.threshold_eq]
    exact and_congr_right fun _ => and_iff_left ⟨hzero, hnone⟩

/-- **One operation** keeps the invariant. -/
theorem Inv.step {ops : List Op} {s : AdaptiveSwitch} (h : Inv ops s) (op : Op) :
    Inv (ops ++ [op]) (s.step op).2 := by
  cases op with
  | reset => exact h.reset
  | verifyBlock orderOk timeOk integrityOk =>
    cases integrityOk with
    | false => exact h.fail (by simp [Op.fails]) (by simp [Op.recorded])
    | true =>
      cases timeOk with
      | false => exact h.fail (by simp [Op.fails]) (by simp [Op.recorded])
      | true =>
        change Inv _ (s.record (orderOk && true))
        rw [Bool.and_true]
        exact h.record rfl rfl

/-- A run of operations keeps the invariant. -/
theorem inv_after (tierToleranceMs : UInt64) (ops : List Op) :
    Inv ops ((new tierToleranceMs).after ops) :=
  Mealy.invariant_history AdaptiveSwitch.step (P := Inv) (fun _ op _ h => h.step op)
    (inv_new tierToleranceMs) ops

end AdaptiveSwitch

end OpenTTT.Roughtime
