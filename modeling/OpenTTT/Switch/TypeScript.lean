import OpenTTT.Foundations.Mealy
import OpenTTT.Switch.MatchRate

/-!
# The client-side switch

`AdaptiveSwitch` of `adaptive_switch.ts`. A block is compared with the record of its ordering: the
transactions position by position, and the timestamps within a tolerance that the tier of the call
may replace. The fields of blocks and records that the switch does not read are left out, and so
are the two arguments that `verifyBlock` ignores.

A run of blocks keeps `Inv`: the history is the window of the last outcomes, and the mode is
`TURBO` exactly as long as the hysteresis of `InTurbo` is on. `turbo_iff_windows` states it window
by window. As the two thresholds are two matches apart, the mode does not oscillate
(`mode_changes_apart`).
-/

namespace OpenTTT

inductive AdaptiveMode
  | TURBO
  | FULL
  deriving DecidableEq

structure TTTRecord where
  time : Binary64
  txOrder : List String

structure Block where
  timestamp : Binary64
  txs : List String

structure AdaptiveSwitch where
  history : List Bool
  currentMode : AdaptiveMode
  penaltyCooldown : ℕ
  consecutiveFailures : ℕ
  tolerance : Binary64
  deriving DecidableEq

/-- The entries of the tier table. -/
def TIER_TOLERANCE_MS : List (String × Binary64) :=
  [("T0_epoch", .finite 2000), ("T1_block", .finite 200), ("T2_slot", .finite 500),
    ("T3_micro", .finite 10)]

/-- The names that the table, as an object, inherits. -/
def objectPrototypeNames : List String :=
  ["constructor", "__defineGetter__", "__defineSetter__", "hasOwnProperty", "__lookupGetter__",
    "__lookupSetter__", "isPrototypeOf", "propertyIsEnumerable", "toString", "valueOf",
    "__proto__", "toLocaleString"]

/-- `TIER_TOLERANCE_MS[tier]` as a number. An inherited property is a function or an object; a
comparison with it is one with `nan`. -/
def tierTolerance (tier : String) : Option Binary64 :=
  match TIER_TOLERANCE_MS.lookup tier with
  | some tolerance => some tolerance
  | none => if tier ∈ objectPrototypeNames then some .nan else none

namespace AdaptiveSwitch

def windowSize : ℕ := 20

def minBlocks : ℕ := 20

def turboEntryThreshold : Binary64 := turboEntryRate

def turboMaintainThreshold : Binary64 := turboMaintainRate

/-- The constructor. -/
def new (tolerance : Option Binary64) : AdaptiveSwitch where
  history := []
  currentMode := .FULL
  penaltyCooldown := 0
  consecutiveFailures := 0
  tolerance := tolerance.getD (.finite 100)

/-- The loop of `compareTransactionOrder` over two lists of the same length. -/
def compareLoop : List String → List String → Bool
  | tx :: txs, expected :: rest => if tx ≠ expected then false else compareLoop txs rest
  | _, _ => true

def compareTransactionOrder (blockTxs expectedOrder : List String) : Bool :=
  if blockTxs.length ≠ expectedOrder.length then false else compareLoop blockTxs expectedOrder

/-- One call of `verifyBlock`. -/
structure VerifyCall where
  block : Block
  tttRecord : TTTRecord
  tier : Option String

/-- The tolerance that applies to a call. An empty tier is none. -/
def toleranceFor (self : AdaptiveSwitch) (tier : Option String) : Binary64 :=
  match tier with
  | none => self.tolerance
  | some tier => if tier = "" then self.tolerance else (tierTolerance tier).getD self.tolerance

/-- The comparison of a block with its record. -/
def sequenceOk (self : AdaptiveSwitch) (c : VerifyCall) : Bool :=
  let orderMatch := compareTransactionOrder c.block.txs c.tttRecord.txOrder
  let timeMatch := (Binary64.abs (c.block.timestamp.sub c.tttRecord.time)).lt
    (self.toleranceFor c.tier)
  orderMatch && timeMatch

/-- The threshold for the rate, which depends on the mode. -/
def effectiveThreshold (self : AdaptiveSwitch) : Binary64 :=
  if self.currentMode = .TURBO then turboMaintainThreshold else turboEntryThreshold

/-- The update of the state with the comparison of a block. -/
def record (self : AdaptiveSwitch) (sequenceOk : Bool) : AdaptiveMode × AdaptiveSwitch :=
  let history := SlidingWindow.push windowSize self.history sequenceOk
  -- counts down to zero
  let penaltyCooldown := self.penaltyCooldown - 1
  if history.length ≥ minBlocks ∧ self.effectiveThreshold.le (matchRate history) = true ∧
      penaltyCooldown = 0 then
    (.TURBO, { self with
      history := history, currentMode := .TURBO, penaltyCooldown := penaltyCooldown,
      consecutiveFailures := 0 })
  else
    (.FULL, { self with
      history := history, currentMode := .FULL, penaltyCooldown := penaltyCooldown })

/-- `verifyBlock`. -/
def verifyBlock (self : AdaptiveSwitch) (c : VerifyCall) : AdaptiveMode × AdaptiveSwitch :=
  self.record (self.sequenceOk c)

def getFeeDiscount (self : AdaptiveSwitch) : Binary64 :=
  if self.currentMode = .TURBO then Binary64.round (2 / 10) else .finite 0

def getCurrentMode (self : AdaptiveSwitch) : AdaptiveMode := self.currentMode

def reset (self : AdaptiveSwitch) : AdaptiveSwitch :=
  { self with history := [], currentMode := .FULL, penaltyCooldown := 0, consecutiveFailures := 0 }

/-! ## The outcome of a block -/

theorem compareLoop_eq_true_iff {txs order : List String} (h : txs.length = order.length) :
    compareLoop txs order = true ↔ txs = order := by
  induction txs generalizing order with
  | nil =>
    cases order with
    | nil => simp [compareLoop]
    | cons o order => simp at h
  | cons tx txs ih =>
    cases order with
    | nil => simp at h
    | cons o order =>
      rw [List.length_cons, List.length_cons, Nat.add_right_cancel_iff] at h
      by_cases heq : tx = o
      · simp [compareLoop, heq, ih h]
      · simp [compareLoop, heq]

/-- The orders match if and only if they are the same list. -/
theorem compareTransactionOrder_eq_true_iff {txs order : List String} :
    compareTransactionOrder txs order = true ↔ txs = order := by
  unfold compareTransactionOrder
  by_cases h : txs.length = order.length
  · rw [if_neg (not_not.2 h), compareLoop_eq_true_iff h]
  · rw [if_pos h]
    exact iff_of_false Bool.false_ne_true fun heq => h (congrArg List.length heq)

/-- The outcome of a block: the transactions in the recorded order, and the timestamps within the
tolerance. -/
def outcome (tolerance : Binary64) (c : VerifyCall) : Bool :=
  decide (c.block.txs = c.tttRecord.txOrder) &&
    (Binary64.abs (c.block.timestamp.sub c.tttRecord.time)).lt tolerance

theorem sequenceOk_eq (self : AdaptiveSwitch) (c : VerifyCall) :
    self.sequenceOk c = outcome (self.toleranceFor c.tier) c := by
  have horder : compareTransactionOrder c.block.txs c.tttRecord.txOrder =
      decide (c.block.txs = c.tttRecord.txOrder) := by
    rw [Bool.eq_iff_iff, compareTransactionOrder_eq_true_iff, decide_eq_true_iff]
  rw [sequenceOk, horder, outcome]

/-! ## Runs -/

/-- What the outcomes since a start determine of the state. -/
structure Inv (outcomes : List Bool) (s : AdaptiveSwitch) : Prop where
  history : s.history = outcomes.rtake 20
  mode : s.currentMode = .TURBO ↔ InTurbo outcomes
  cooldown : s.penaltyCooldown = 0

theorem inv_new (tolerance : Option Binary64) : Inv [] (new tolerance) :=
  ⟨rfl, iff_of_false (by simp [new]) not_inTurbo_nil, rfl⟩

theorem inv_reset (s : AdaptiveSwitch) : Inv [] s.reset :=
  ⟨rfl, iff_of_false (by simp [reset]) not_inTurbo_nil, rfl⟩

@[simp] theorem tolerance_record (s : AdaptiveSwitch) (ok : Bool) :
    (s.record ok).2.tolerance = s.tolerance := by
  simp only [record]
  split <;> rfl

/-- **One block** keeps the invariant, with its outcome appended. -/
theorem Inv.record {outcomes : List Bool} {s : AdaptiveSwitch} (h : Inv outcomes s) (ok : Bool) :
    Inv (outcomes ++ [ok]) (s.record ok).2 := by
  have hhist : SlidingWindow.push windowSize s.history ok = (outcomes ++ [ok]).rtake 20 := by
    rw [h.history]
    exact SlidingWindow.push_rtake 20 outcomes ok
  have hcool : s.penaltyCooldown - 1 = 0 := by rw [h.cooldown]
  have htest := test_iff_inTurbo h.mode ok
  rw [← hhist] at htest
  simp only [AdaptiveSwitch.record]
  split
  · rename_i hon
    exact ⟨hhist, iff_of_true rfl (htest.1 ⟨hon.1, hon.2.1⟩), hcool⟩
  · rename_i hoff
    refine ⟨hhist, iff_of_false AdaptiveMode.noConfusion fun hon => hoff ?_, hcool⟩
    exact ⟨(htest.2 hon).1, (htest.2 hon).2, hcool⟩

/-- A run of blocks: the invariant with their outcomes. -/
theorem Inv.after {s : AdaptiveSwitch} (h : Inv [] s) (calls : List VerifyCall) :
    Inv (calls.map fun c => outcome (s.toleranceFor c.tier) c) (Mealy.after verifyBlock s calls) ∧
      (Mealy.after verifyBlock s calls).tolerance = s.tolerance := by
  refine Mealy.invariant_history verifyBlock (P := fun cs t =>
    Inv (cs.map fun c => outcome (s.toleranceFor c.tier) c) t ∧ t.tolerance = s.tolerance)
    (fun cs c t ht => ?_) ⟨h, rfl⟩ calls
  obtain ⟨hinv, htol⟩ := ht
  have hok : t.sequenceOk c = outcome (s.toleranceFor c.tier) c := by
    rw [sequenceOk_eq]
    simp only [toleranceFor, htol]
  rw [List.map_append, List.map_singleton, ← hok]
  exact ⟨hinv.record _, htol ▸ tolerance_record t _⟩

/-- The history and the mode after every run of blocks from a start, in terms of the outcomes. -/
def DeterminedByWindows (start : AdaptiveSwitch) : Prop :=
  ∀ (calls : List VerifyCall) (ok : List Bool),
    ok = calls.map (fun c => outcome (start.toleranceFor c.tier) c) →
    (Mealy.after verifyBlock start calls).history = ok.drop (ok.length - 20) ∧
    ((Mealy.after verifyBlock start calls).currentMode = .TURBO ↔
      ∃ k, 20 ≤ k ∧ k ≤ ok.length ∧ 19 ≤ ((ok.take k).drop (k - 20)).count true ∧
        ∀ j, k ≤ j → j ≤ ok.length → 17 ≤ ((ok.take j).drop (j - 20)).count true)

theorem Inv.determinedByWindows {start : AdaptiveSwitch} (h : Inv [] start) :
    DeterminedByWindows start := by
  rintro calls ok rfl
  have hinv := (h.after calls).1
  exact ⟨hinv.history, hinv.mode.trans (inTurbo_iff _)⟩

/-- **The history and the mode of a switch**, fresh or just reset, after any run of blocks: the
history consists of the last 20 outcomes, and the mode is `TURBO` if and only if some window had
19 matches and all windows since have had 17. -/
theorem turbo_iff_windows : (∀ tolerance : Option Binary64, DeterminedByWindows (new tolerance)) ∧
    ∀ s : AdaptiveSwitch, DeterminedByWindows s.reset :=
  ⟨fun tolerance => (inv_new tolerance).determinedByWindows,
    fun s => (inv_reset s).determinedByWindows⟩

/-! ## Oscillation -/

/-- The mode changes with the block at position `i` of a run. -/
def ModeChangesAt (start : AdaptiveSwitch) (calls : List VerifyCall) (i : ℕ) : Prop :=
  (Mealy.after verifyBlock start (calls.take (i + 1))).currentMode ≠
    (Mealy.after verifyBlock start (calls.take i)).currentMode

/-- In every run of blocks from a start, a change of the mode is at least three blocks after the
one before. -/
def ModeChangesApart (start : AdaptiveSwitch) : Prop :=
  ∀ (calls : List VerifyCall) (i j : ℕ), i < j → ModeChangesAt start calls i →
    ModeChangesAt start calls j → i + 3 ≤ j

/-- The mode changes if and only if the hysteresis does. -/
theorem Inv.modeChangesAt_iff {start : AdaptiveSwitch} (h : Inv [] start) (calls : List VerifyCall)
    (i : ℕ) :
    ModeChangesAt start calls i ↔
      ¬ (InTurbo ((calls.map fun c => outcome (start.toleranceFor c.tier) c).take (i + 1)) ↔
        InTurbo ((calls.map fun c => outcome (start.toleranceFor c.tier) c).take i)) := by
  have hmode : ∀ k, (Mealy.after verifyBlock start (calls.take k)).currentMode = .TURBO ↔
      InTurbo ((calls.map fun c => outcome (start.toleranceFor c.tier) c).take k) := by
    intro k
    rw [← List.map_take]
    exact (h.after (calls.take k)).1.mode
  rw [← hmode, ← hmode, ModeChangesAt]
  cases (Mealy.after verifyBlock start (calls.take (i + 1))).currentMode <;>
    cases (Mealy.after verifyBlock start (calls.take i)).currentMode <;> decide

/-- **The mode does not oscillate**: on a switch, fresh or just reset, a change of the mode is
followed by two blocks at least that leave it as it is. -/
theorem mode_changes_apart : (∀ tolerance : Option Binary64, ModeChangesApart (new tolerance)) ∧
    ∀ s : AdaptiveSwitch, ModeChangesApart s.reset := by
  have hinv : ∀ start, Inv [] start → ModeChangesApart start := by
    intro start h calls i j hij hi hj
    exact inTurbo_changes_apart hij ((h.modeChangesAt_iff calls i).1 hi)
      ((h.modeChangesAt_iff calls j).1 hj)
  exact ⟨fun tolerance => hinv _ (inv_new tolerance), fun s => hinv _ (inv_reset s)⟩

end AdaptiveSwitch

end OpenTTT
