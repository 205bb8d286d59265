import OpenTTT.Switch.Rust

/-!
# Safety and recovery of the issuer's switch

`NoForcedTurbo` and `DelayRejectionTriggersFull`: in every reachable state, the mode `Turbo` is
justified by the last 20 blocks and the absence of failures since the last reset
(`noForcedTurbo`).

`EventualTurbo`: a switch that has seen no failure since the last reset is in `Turbo` after its
cooldown and 20 good blocks. One failure is enough to keep it out until the next reset, since the
count of failures is never cleared by good blocks (`recovers_iff`).
-/

namespace OpenTTT.Roughtime

namespace AdaptiveSwitch

/-! ## Safety -/

/-- What the mode `Turbo` implies after a run of operations. -/
structure TurboJustified (ops : List Op) (s : AdaptiveSwitch) : Prop where
  /-- The history consists of the order results of the last 20 blocks. -/
  history : s.history = (ops.filterMap Op.orderResult).rtake 20
  full : s.history.length = 20
  hits : 17 ≤ s.history.count true
  noFailure : ∀ op ∈ sinceReset ops, op.fails = false
  cooldown : s.penaltyCooldown = 0

theorem Op.orderResult_eq_recorded {op : Op} (h : op.fails = false) :
    op.orderResult = op.recorded := by
  cases op with
  | reset => rfl
  | verifyBlock orderOk timeOk integrityOk => simp_all [Op.fails, Op.orderResult, Op.recorded]

theorem noFailure_of_failures_eq_zero {ops : List Op} (h : failures ops = 0) :
    ∀ op ∈ ops, op.fails = false := by
  intro op hop
  rw [failures, List.countP_eq_zero] at h
  simpa using h op hop

/-- Without failures since the reset, the window of the recorded results is that of the last
blocks of the whole run. -/
theorem rtake_recordedSinceReset {ops : List Op} (hno : ∀ op ∈ sinceReset ops, op.fails = false)
    (hlen : 20 ≤ (recordedSinceReset ops).length) :
    (recordedSinceReset ops).rtake 20 = (ops.filterMap Op.orderResult).rtake 20 := by
  have heq : recordedSinceReset ops = (sinceReset ops).filterMap Op.orderResult :=
    List.filterMap_congr fun op hop => (Op.orderResult_eq_recorded (hno op hop)).symm
  obtain ⟨before, hbefore⟩ := sinceReset_suffix ops
  have hsplit : ops.filterMap Op.orderResult =
      before.filterMap Op.orderResult ++ recordedSinceReset ops := by
    rw [heq, ← List.filterMap_append, hbefore]
  rw [hsplit, SlidingWindow.rtake_append_of_le hlen]

/-- With fewer failures than the counter can hold, `Turbo` is justified. -/
theorem Inv.turboJustified {ops : List Op} {s : AdaptiveSwitch} (h : Inv ops s)
    (hfew : failures ops < 2 ^ 32) (hmode : s.mode = .Turbo) : TurboJustified ops s := by
  obtain ⟨-, hcool, hlen, hcount⟩ := h.turbo hmode
  have hno := noFailure_of_failures_eq_zero (h.failures_eq_zero hfew hmode)
  refine ⟨?_, ?_, ?_, hno, hcool⟩
  · rw [h.history, rtake_recordedSinceReset hno hlen]
  · rw [h.history, length_rtake_of_le hlen]
  · rw [h.history]
    exact hcount

/-- A recorded block that takes the mode from `Full` to `Turbo` completes a window with 19
matches. -/
theorem Inv.entry_record {ops : List Op} {s : AdaptiveSwitch} (h : Inv ops s) {ok : Bool}
    (hfull : s.mode = .Full) (hturbo : (s.record ok).mode = .Turbo) :
    (s.record ok).history.length = 20 ∧ 19 ≤ (s.record ok).history.count true := by
  obtain ⟨hlen, hrate, -, -⟩ := (h.mode_record ok).1 hturbo
  have hhist : (s.record ok).history = (recordedSinceReset ops ++ [ok]).rtake 20 := by
    rw [record_eq]
    change SlidingWindow.push s.window s.history ok = _
    rw [h.window, h.history]
    exact SlidingWindow.push_rtake 20 _ ok
  have hwindow : ((recordedSinceReset ops ++ [ok]).rtake 20).length = 20 := by
    rw [h.window, ge_iff_le, twenty_le_length_rtake_iff] at hlen
    exact length_rtake_of_le hlen
  rw [h.threshold_eq, if_neg (by simp [hfull]), entry_le_matchRate_iff hwindow] at hrate
  rw [hhist]
  exact ⟨hwindow, hrate⟩

/-- A failing block forces the mode `Full`. -/
theorem mode_verifyBlock_of_fails (s : AdaptiveSwitch) (orderOk : Bool) {timeOk integrityOk : Bool}
    (h : integrityOk = false ∨ timeOk = false) :
    (s.verifyBlock orderOk timeOk integrityOk).1 = .Full ∧
      (s.verifyBlock orderOk timeOk integrityOk).2.mode = .Full := by
  unfold verifyBlock
  rcases h with rfl | rfl
  · exact ⟨rfl, rfl⟩
  · cases integrityOk <;> exact ⟨rfl, rfl⟩

/-- The step into `Turbo` completes a window with 19 matches. -/
theorem Inv.entry {ops : List Op} {s : AdaptiveSwitch} (h : Inv ops s)
    {orderOk timeOk integrityOk : Bool} (hfull : s.mode = .Full)
    (hturbo : (s.verifyBlock orderOk timeOk integrityOk).2.mode = .Turbo) :
    (s.verifyBlock orderOk timeOk integrityOk).2.history.length = 20 ∧
      19 ≤ (s.verifyBlock orderOk timeOk integrityOk).2.history.count true := by
  by_cases hfail : integrityOk = false ∨ timeOk = false
  · have hmode := (s.mode_verifyBlock_of_fails orderOk hfail).2
    exact AdaptiveMode.noConfusion (hmode.symm.trans hturbo)
  · rw [not_or, Bool.not_eq_false, Bool.not_eq_false] at hfail
    obtain ⟨rfl, rfl⟩ := hfail
    exact h.entry_record hfull hturbo

/-- **No forced Turbo**: after every run of operations with fewer than `2 ^ 32` failing blocks,
the mode `Turbo` is justified by the last 20 blocks, the step into it needs 19 matches of 20, and
a block that fails its integrity or its time check leaves the mode `Full`. -/
theorem noForcedTurbo (tierToleranceMs : UInt64) (ops : List Op) (hfew : failures ops < 2 ^ 32) :
    (((new tierToleranceMs).after ops).mode = .Turbo →
      TurboJustified ops ((new tierToleranceMs).after ops)) ∧
    (∀ orderOk timeOk integrityOk : Bool, ((new tierToleranceMs).after ops).mode = .Full →
      (((new tierToleranceMs).after ops).verifyBlock orderOk timeOk integrityOk).2.mode = .Turbo →
      (((new tierToleranceMs).after ops).verifyBlock orderOk timeOk
          integrityOk).2.history.length = 20 ∧
        19 ≤ (((new tierToleranceMs).after ops).verifyBlock orderOk timeOk
          integrityOk).2.history.count true) ∧
    ∀ orderOk timeOk integrityOk : Bool, integrityOk = false ∨ timeOk = false →
      (((new tierToleranceMs).after ops).verifyBlock orderOk timeOk integrityOk).1 = .Full ∧
      (((new tierToleranceMs).after ops).verifyBlock orderOk timeOk
        integrityOk).2.mode = .Full := by
  have hinv := inv_after tierToleranceMs ops
  refine ⟨hinv.turboJustified hfew, ?_, ?_⟩
  · intro orderOk timeOk integrityOk hfull hturbo
    exact hinv.entry hfull hturbo
  · intro orderOk timeOk integrityOk hfail
    exact mode_verifyBlock_of_fails _ orderOk hfail

/-- Twenty good blocks after a late one and a reset. -/
theorem noForcedTurbo_after_reset :
    TurboJustified (.verifyBlock true false true :: .reset :: List.replicate 20 .good)
      ((new 100).after (.verifyBlock true false true :: .reset :: List.replicate 20 .good)) :=
  (noForcedTurbo 100 (.verifyBlock true false true :: .reset :: List.replicate 20 .good)
    (by decide)).1 (by decide +kernel)

/-! ## Recovery -/

theorem sinceReset_append_good (ops : List Op) (n : ℕ) :
    sinceReset (ops ++ List.replicate n .good) = sinceReset ops ++ List.replicate n .good := by
  induction n with
  | zero => simp
  | succ n ih =>
    rw [List.replicate_succ', ← List.append_assoc, sinceReset_concat _ (by simp [Op.good]), ih,
      List.append_assoc]

theorem recordedSinceReset_append_good (ops : List Op) (n : ℕ) :
    recordedSinceReset (ops ++ List.replicate n .good) =
      recordedSinceReset ops ++ List.replicate n true := by
  rw [recordedSinceReset, sinceReset_append_good, List.filterMap_append,
    List.filterMap_replicate_of_some (show Op.recorded .good = some true from rfl)]
  rfl

theorem failures_append_good (ops : List Op) (n : ℕ) :
    failures (sinceReset (ops ++ List.replicate n .good)) = failures (sinceReset ops) := by
  rw [sinceReset_append_good, failures, List.countP_append, List.countP_replicate]
  rfl

/-- The cooldown runs down over good blocks. -/
theorem toNat_penaltyCooldown_good (s : AdaptiveSwitch) (n : ℕ) :
    (s.after (List.replicate n .good)).penaltyCooldown.toNat = s.penaltyCooldown.toNat - n := by
  induction n with
  | zero => rfl
  | succ n ih =>
    rw [List.replicate_succ', after, Mealy.after_concat]
    change ((s.after (List.replicate n .good)).record true).penaltyCooldown.toNat = _
    rw [record_eq]
    change (countdown (s.after (List.replicate n .good)).penaltyCooldown).toNat = _
    rw [toNat_countdown, ih]
    omega

/-- A good block completes a window of matches: with the cooldown over and no failure counted, the
mode is `Turbo`. -/
theorem Inv.mode_record_true {ops : List Op} {s : AdaptiveSwitch} (h : Inv ops s)
    (hcool : s.penaltyCooldown = 0) (hnone : s.failCount = 0)
    (hwindow : (recordedSinceReset ops ++ [true]).rtake 20 = List.replicate 20 true) :
    (s.record true).mode = .Turbo := by
  rw [h.mode_record, hwindow]
  refine ⟨?_, ?_, ?_, hnone⟩
  · rw [h.window, List.length_replicate]
  · rw [h.threshold_eq]
    split
    · rw [maintain_le_matchRate_iff List.length_replicate, List.count_replicate_self]
      omega
    · rw [entry_le_matchRate_iff List.length_replicate, List.count_replicate_self]
      omega
  · rw [hcool]
    exact countdown_zero

/-- **When a switch recovers**: after the cooldown and 20 more good blocks it is in `Turbo` if and
only if no failure is counted. -/
theorem Inv.mode_after_good_iff {ops : List Op} {s : AdaptiveSwitch} (h : Inv ops s) :
    (s.after (List.replicate (s.penaltyCooldown.toNat + 20) .good)).mode = .Turbo ↔
      s.failCount = 0 := by
  have hinv : ∀ n, Inv (ops ++ List.replicate n .good) (s.after (List.replicate n .good)) := by
    intro n
    induction n with
    | zero => exact (List.append_nil ops).symm ▸ h
    | succ n ih =>
      rw [List.replicate_succ', ← List.append_assoc, after, Mealy.after_concat]
      exact ih.step .good
  have hcount : ∀ n, (s.after (List.replicate n .good)).failCount = s.failCount := by
    intro n
    rw [(hinv n).failCount, failures_append_good, h.failCount]
  constructor
  · intro hmode
    rw [← hcount]
    exact ((hinv _).turbo hmode).1
  · intro hnone
    -- the last of the good blocks finds the cooldown over and completes the window
    set n := s.penaltyCooldown.toNat + 19 with hn
    rw [show s.penaltyCooldown.toNat + 20 = n + 1 by omega, List.replicate_succ', after,
      Mealy.after_concat]
    change ((s.after (List.replicate n .good)).record true).mode = .Turbo
    refine (hinv n).mode_record_true ?_ ((hcount n).trans hnone) ?_
    · rw [← UInt32.toNat_inj, toNat_penaltyCooldown_good]
      change _ = 0
      omega
    · rw [recordedSinceReset_append_good, List.append_assoc, ← List.replicate_succ',
        SlidingWindow.rtake_append_of_le (by rw [List.length_replicate]; omega), List.rtake,
        List.length_replicate, List.drop_replicate]
      congr 1
      omega

/-- **When a switch recovers**, in every reachable state: after the cooldown and 20 more good
blocks it is in `Turbo` if and only if no block has failed since the last reset (or the count of
failures has wrapped around to zero). -/
theorem recovers_iff (tierToleranceMs : UInt64) (ops : List Op) :
    ((new tierToleranceMs).after (ops ++ List.replicate
        (((new tierToleranceMs).after ops).penaltyCooldown.toNat + 20) .good)).mode = .Turbo ↔
      failures (sinceReset ops) % 2 ^ 32 = 0 := by
  have hinv := inv_after tierToleranceMs ops
  rw [after, Mealy.after_append]
  refine hinv.mode_after_good_iff.trans ?_
  rw [hinv.failCount, ← UInt32.toNat_inj, UInt32.toNat_ofNat']
  rfl

/-- Recovery from every reachable state. -/
def EventualTurbo : Prop :=
  ∀ (tierToleranceMs : UInt64) (ops : List Op),
    ((new tierToleranceMs).after (ops ++ List.replicate
      (((new tierToleranceMs).after ops).penaltyCooldown.toNat + 20) .good)).mode = .Turbo

/-- A single late block keeps a fresh switch out of `Turbo`. -/
theorem not_eventualTurbo : ¬ EventualTurbo := by
  intro h
  have hmode := h 100 [.verifyBlock true false true]
  rw [after, Mealy.after_append] at hmode
  have hnone := (inv_after 100 [.verifyBlock true false true]).mode_after_good_iff.1 hmode
  exact absurd hnone (by decide +kernel)

end AdaptiveSwitch

end OpenTTT.Roughtime
