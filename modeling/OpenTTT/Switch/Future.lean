import OpenTTT.Switch.Rust

/-!
# What a switch will do

Two issuer's switches have the same future if every list of further blocks returns the same modes
from both (`SameFuture`). For switches with the same mode, failure count and cooldown this depends
on their windows alone, and not on all of these: `sameFuture_iff` says which part counts.

In `Full` it is the number of mismatches among the last `j` order results for every `j < 20`, as far
as it is below 2, since a window with two of them cannot enter `Turbo`; in `Turbo` it is the same
number as far as it is below 4. That nothing less determines the future is shown by runs: the
failure count, which wraps around, is run back to zero first, and then the blocks that tell the
windows apart are added.
-/

namespace OpenTTT.Roughtime

namespace AdaptiveSwitch

open SlidingWindow

/-- The results of the checks of a block. -/
structure Block where
  orderOk : Bool
  timeOk : Bool
  integrityOk : Bool
  deriving DecidableEq

/-- A block without a failure. -/
def Block.ofOrder (orderOk : Bool) : Block := ⟨orderOk, true, true⟩

/-- A block that fails its integrity check. -/
def Block.failing : Block := ⟨true, true, false⟩

/-- `verify_block` as a step. -/
def block (s : AdaptiveSwitch) (b : Block) : AdaptiveMode × AdaptiveSwitch :=
  s.verifyBlock b.orderOk b.timeOk b.integrityOk

/-- Any further blocks return the same modes. -/
def SameFuture (s t : AdaptiveSwitch) : Prop :=
  ∀ bs : List Block, Mealy.outputs block s bs = Mealy.outputs block t bs

/-- The number of mismatches with which a full window fails the test of a mode. -/
def mismatchLimit : AdaptiveMode → ℕ
  | .Turbo => 4
  | .Full => 2

/-- The states of a switch. -/
def Reachable (s : AdaptiveSwitch) : Prop :=
  ∃ tierToleranceMs ops, s = (new tierToleranceMs).after ops

/-! ## One block -/

theorem block_fst (s : AdaptiveSwitch) (b : Block) : (s.block b).1 = (s.block b).2.mode := by
  unfold block verifyBlock
  split
  · rfl
  · split <;> rfl

theorem block_ofOrder (s : AdaptiveSwitch) (ok : Bool) :
    (s.block (.ofOrder ok)).2 = s.record ok := by
  simp [block, verifyBlock, Block.ofOrder]

theorem block_failing (s : AdaptiveSwitch) : (s.block .failing).2 = s.fail := rfl

/-- A block fails, or is one without a failure. -/
theorem block_cases (b : Block) :
    (∀ s : AdaptiveSwitch, s.block b = (.Full, s.fail)) ∨ b = .ofOrder b.orderOk := by
  obtain ⟨orderOk, timeOk, integrityOk⟩ := b
  cases integrityOk with
  | false => exact Or.inl fun s => rfl
  | true =>
    cases timeOk with
    | false => exact Or.inl fun s => rfl
    | true => exact Or.inr rfl

theorem Reachable.new (tierToleranceMs : UInt64) : Reachable (new tierToleranceMs) :=
  ⟨tierToleranceMs, [], rfl⟩

theorem Reachable.inv {s : AdaptiveSwitch} (h : Reachable s) : ∃ ops, Inv ops s := by
  obtain ⟨tierToleranceMs, ops, rfl⟩ := h
  exact ⟨ops, inv_after tierToleranceMs ops⟩

theorem Reachable.block {s : AdaptiveSwitch} (h : Reachable s) (b : Block) :
    Reachable (s.block b).2 := by
  obtain ⟨tierToleranceMs, ops, rfl⟩ := h
  refine ⟨tierToleranceMs, ops ++ [.verifyBlock b.orderOk b.timeOk b.integrityOk], ?_⟩
  rw [AdaptiveSwitch.after, AdaptiveSwitch.after, Mealy.after_concat]
  rfl

theorem Reachable.after {s : AdaptiveSwitch} (h : Reachable s) (bs : List Block) :
    Reachable (Mealy.after AdaptiveSwitch.block s bs) := by
  induction bs generalizing s with
  | nil => exact h
  | cons b bs ih => exact ih (h.block b)

theorem backoffBase_step (s : AdaptiveSwitch) (op : Op) :
    (s.step op).2.backoffBase = s.backoffBase := by
  cases op with
  | reset => rfl
  | verifyBlock orderOk timeOk integrityOk =>
    simp only [step, verifyBlock]
    split
    · rfl
    · split
      · rfl
      · rw [record_eq]

theorem Reachable.backoffBase {s : AdaptiveSwitch} (h : Reachable s) : s.backoffBase = 2 := by
  obtain ⟨tierToleranceMs, ops, rfl⟩ := h
  exact Mealy.invariant_history step (P := fun _ s => s.backoffBase = 2)
    (fun _ op s hs => (backoffBase_step s op).trans hs) rfl ops

theorem Reachable.length_le {s : AdaptiveSwitch} (h : Reachable s) : s.history.length ≤ 20 := by
  obtain ⟨ops, hinv⟩ := h.inv
  rw [hinv.history, length_rtake]
  exact Nat.min_le_left 20 _

theorem Reachable.window {s : AdaptiveSwitch} (h : Reachable s) : s.window = 20 := by
  obtain ⟨ops, hinv⟩ := h.inv
  exact hinv.window

theorem Reachable.history_record {s : AdaptiveSwitch} (h : Reachable s) (ok : Bool) :
    (s.record ok).history = push 20 s.history ok := by
  rw [record_eq, h.window]

theorem count_true_add_countP_not (l : List Bool) : l.count true + l.countP not = l.length := by
  induction l with
  | nil => rfl
  | cons ok l ih => cases ok <;> simp <;> omega

/-- **The test of a mode** on a window, in terms of the mismatches in it. -/
theorem Reachable.test_iff {s : AdaptiveSwitch} (h : Reachable s) {w : List Bool}
    (hw : w.length ≤ 20) :
    (w.length ≥ s.window ∧ s.threshold.le (matchRate w) = true) ↔
      missesIn not (mismatchLimit s.mode) w 20 < mismatchLimit s.mode := by
  obtain ⟨ops, hinv⟩ := h.inv
  rw [hinv.window, missesIn_lt_iff]
  refine and_congr_right fun hlen => ?_
  have hfull : w.length = 20 := by omega
  have hcount := count_true_add_countP_not w
  have hrtake : w.rtake 20 = w := by rw [List.rtake, hfull, List.drop_zero]
  rw [hinv.threshold_eq, hrtake]
  cases hmode : s.mode with
  | Turbo =>
    rw [if_pos rfl, maintain_le_matchRate_iff hfull, mismatchLimit]
    omega
  | Full =>
    rw [if_neg (by simp), entry_le_matchRate_iff hfull, mismatchLimit]
    omega

/-- The mode after a block without a failure. -/
theorem Reachable.mode_record_iff {s : AdaptiveSwitch} (h : Reachable s) (ok : Bool) :
    (s.record ok).mode = .Turbo ↔
      missesIn not (mismatchLimit s.mode) (push 20 s.history ok) 20 < mismatchLimit s.mode ∧
        countdown s.penaltyCooldown = 0 ∧ s.failCount = 0 := by
  rw [← h.test_iff (length_push_le h.length_le ok)]
  obtain ⟨ops, hinv⟩ := h.inv
  have hhist : push 20 s.history ok = (recordedSinceReset ops ++ [ok]).rtake 20 := by
    rw [hinv.history]
    exact push_rtake 20 _ ok
  rw [hinv.mode_record, ← hhist, TurboTest, and_assoc]

theorem mode_eq_of_iff {m m' : AdaptiveMode} (h : m = .Turbo ↔ m' = .Turbo) : m = m' := by
  cases m <;> cases m' <;> simp_all

/-! ## Equal futures -/

/-- The parts of two states that decide about their future are the same. -/
structure Alike (s t : AdaptiveSwitch) : Prop where
  mode : s.mode = t.mode
  failCount : s.failCount = t.failCount
  penaltyCooldown : s.penaltyCooldown = t.penaltyCooldown
  windows : SlidingWindow.Alike not 20 (mismatchLimit s.mode) s.history t.history

theorem Alike.refl (s : AdaptiveSwitch) : Alike s s := ⟨rfl, rfl, rfl, fun _ _ => rfl⟩

theorem mismatchLimit_full_le (m : AdaptiveMode) : mismatchLimit .Full ≤ mismatchLimit m := by
  cases m <;> simp [mismatchLimit]

theorem Alike.fail {s t : AdaptiveSwitch} (h : Alike s t) (hs : Reachable s) (ht : Reachable t) :
    Alike s.fail t.fail := by
  have hbase : s.backoffBase = t.backoffBase := hs.backoffBase.trans ht.backoffBase.symm
  refine ⟨rfl, ?_, ?_, h.windows.of_le (mismatchLimit_full_le s.mode)⟩
  · simp only [AdaptiveSwitch.fail, h.failCount]
  · simp only [AdaptiveSwitch.fail, h.failCount, hbase]

/-- The windows after a block without a failure are alike for the mode after it. -/
theorem Alike.windows_record {s t : AdaptiveSwitch} (h : Alike s t) (hs : Reachable s)
    (ht : Reachable t) {ok : Bool} (hmode : (s.record ok).mode = (t.record ok).mode) :
    SlidingWindow.Alike not 20 (mismatchLimit (s.record ok).mode) (s.record ok).history
      (t.record ok).history := by
  have hpush := h.windows.push hs.length_le ht.length_le ok
  rw [hs.history_record, ht.history_record]
  cases hm : s.mode with
  | Turbo =>
    rw [hm] at hpush
    exact hpush.of_le (by cases (s.record ok).mode <;> simp [mismatchLimit])
  | Full =>
    rw [hm] at hpush
    cases hm' : (s.record ok).mode with
    | Full => exact hpush
    | Turbo =>
      -- a window that enters has so few mismatches that the larger bound sees no more
      have henter := (hs.mode_record_iff ok).1 hm'
      have henter' := (ht.mode_record_iff ok).1 (hmode ▸ hm')
      rw [hm] at henter
      rw [← h.mode, hm] at henter'
      exact hpush.of_lt henter.1 henter'.1 (by simp [mismatchLimit])

theorem Alike.record {s t : AdaptiveSwitch} (h : Alike s t) (hs : Reachable s) (ht : Reachable t)
    (ok : Bool) : Alike (s.record ok) (t.record ok) := by
  have hmode : (s.record ok).mode = (t.record ok).mode := by
    refine mode_eq_of_iff ?_
    rw [hs.mode_record_iff, ht.mode_record_iff, ← h.mode, ← h.failCount, ← h.penaltyCooldown,
      missesIn_push hs.length_le (by omega), missesIn_push ht.length_le (by omega),
      h.windows 19 (by omega)]
  refine ⟨hmode, ?_, ?_, h.windows_record hs ht hmode⟩
  · rw [record_eq, record_eq t]
    exact h.failCount
  · rw [record_eq, record_eq t]
    exact congrArg countdown h.penaltyCooldown

/-- **One block** returns the same mode from states that are alike, and keeps them so. -/
theorem Alike.block {s t : AdaptiveSwitch} (h : Alike s t) (hs : Reachable s) (ht : Reachable t)
    (b : Block) :
    (s.block b).1 = (t.block b).1 ∧ Alike (s.block b).2 (t.block b).2 := by
  have hnext : Alike (s.block b).2 (t.block b).2 := by
    rcases block_cases b with hfail | hok
    · rw [hfail, hfail]
      exact h.fail hs ht
    · rw [hok, block_ofOrder, block_ofOrder]
      exact h.record hs ht b.orderOk
  rw [block_fst, block_fst]
  exact ⟨hnext.mode, hnext⟩

theorem Alike.sameFuture {s t : AdaptiveSwitch} (h : Alike s t) (hs : Reachable s)
    (ht : Reachable t) : SameFuture s t := by
  intro bs
  have hsim : Mealy.outputs AdaptiveSwitch.block s bs =
      Mealy.outputs AdaptiveSwitch.block t (bs.map id) := by
    refine Mealy.outputs_eq_of_simulation AdaptiveSwitch.block (Q := fun _ => True)
      (R := fun s t => Alike s t ∧ Reachable s ∧ Reachable t) ?_ ⟨h, hs, ht⟩ fun _ _ => trivial
    rintro s t b ⟨halike, hs, ht⟩ -
    obtain ⟨hout, hnext⟩ := halike.block hs ht b
    exact ⟨hout, hnext, hs.block b, ht.block b⟩
  rwa [List.map_id] at hsim

/-! ## Blocks that tell windows apart -/

theorem SameFuture.symm {s t : AdaptiveSwitch} (h : SameFuture s t) : SameFuture t s :=
  fun bs => (h bs).symm

theorem SameFuture.after {s t : AdaptiveSwitch} (h : SameFuture s t) (bs : List Block) :
    SameFuture (Mealy.after block s bs) (Mealy.after block t bs) := by
  intro cs
  have hcs := h (bs ++ cs)
  rw [Mealy.outputs_append, Mealy.outputs_append, h bs] at hcs
  exact List.append_cancel_left hcs

theorem SameFuture.mode_eq {s t : AdaptiveSwitch} (h : SameFuture s t) {bs : List Block}
    (hne : bs ≠ []) : (Mealy.after block s bs).mode = (Mealy.after block t bs).mode := by
  obtain ⟨bs, b, rfl⟩ := (List.eq_nil_or_concat' bs).resolve_left hne
  rw [Mealy.after_concat, Mealy.after_concat, ← block_fst, ← block_fst]
  exact Mealy.output_eq_of_outputs_concat block (h (bs ++ [b]))

/-- The state after blocks without a failure, by their order results. -/
def recordAll (s : AdaptiveSwitch) (oks : List Bool) : AdaptiveSwitch :=
  Mealy.after block s (oks.map .ofOrder)

@[simp] theorem recordAll_nil (s : AdaptiveSwitch) : s.recordAll [] = s := rfl

@[simp] theorem recordAll_cons (s : AdaptiveSwitch) (ok : Bool) (oks : List Bool) :
    s.recordAll (ok :: oks) = (s.record ok).recordAll oks := by
  rw [recordAll, List.map_cons, Mealy.after_cons, block_ofOrder, recordAll]

theorem SameFuture.mode_recordAll {s t : AdaptiveSwitch} (h : SameFuture s t) (oks : List Bool)
    (hne : oks ≠ []) : (s.recordAll oks).mode = (t.recordAll oks).mode :=
  h.mode_eq (by simpa using hne)

/-- Nothing but the window and the mode decides about `Turbo`: no failure is counted, and the next
block ends the cooldown. -/
structure Ready (s : AdaptiveSwitch) : Prop where
  reachable : Reachable s
  failCount : s.failCount = 0
  cooldown : countdown s.penaltyCooldown = 0

theorem Ready.record {s : AdaptiveSwitch} (h : Ready s) (ok : Bool) : Ready (s.record ok) := by
  refine ⟨block_ofOrder s ok ▸ h.reachable.block _, ?_, ?_⟩
  · rw [record_eq]
    exact h.failCount
  · rw [record_eq]
    change countdown (countdown s.penaltyCooldown) = 0
    rw [h.cooldown]
    exact countdown_zero

theorem Ready.mode_record_iff {s : AdaptiveSwitch} (h : Ready s) (ok : Bool) :
    (s.record ok).mode = .Turbo ↔
      missesIn not (mismatchLimit s.mode) (push 20 s.history ok) 20 < mismatchLimit s.mode := by
  rw [h.reachable.mode_record_iff]
  exact and_iff_left ⟨h.cooldown, h.failCount⟩

/-- A switch in `Turbo` is ready, and its window passes the test. -/
theorem Reachable.ready {s : AdaptiveSwitch} (h : Reachable s) (hmode : s.mode = .Turbo) :
    Ready s ∧ missesIn not 4 s.history 20 < 4 := by
  obtain ⟨ops, hinv⟩ := h.inv
  obtain ⟨hnone, hzero, hlen, hcount⟩ := hinv.turbo hmode
  refine ⟨⟨h, hnone, hzero ▸ countdown_zero⟩, ?_⟩
  have hfull := length_rtake_of_le hlen
  have hsum := count_true_add_countP_not ((recordedSinceReset ops).rtake 20)
  rw [hinv.history, missesIn_rtake le_rfl, missesIn_lt_iff]
  exact ⟨hlen, by omega⟩

theorem Reachable.missesIn_record {s : AdaptiveSwitch} (h : Reachable s) (b : ℕ) {j : ℕ}
    (hj : j < 20) (ok : Bool) :
    missesIn not b (s.record ok).history (j + 1) =
      min b (missesIn not b s.history j + (!ok).toNat) := by
  rw [h.history_record, missesIn_push h.length_le hj]

/-- One mismatch at most among the last `20 - k` results and the block `ok`: with `k` more matches
the switch is in `Turbo`. -/
theorem Ready.enters {k : ℕ} : ∀ {s : AdaptiveSwitch} {ok : Bool} {j : ℕ}, Ready s →
    j + (k + 1) = 20 → missesIn not 2 s.history j + (!ok).toNat < 2 →
    (s.recordAll (ok :: List.replicate k true)).mode = .Turbo := by
  induction k with
  | zero =>
    intro s ok j hs hj hlt
    have hwindow := hs.reachable.missesIn_record 2 (show j < 20 by omega) ok
    rw [hs.reachable.history_record, show j + 1 = 20 by omega] at hwindow
    have hfew : missesIn not 2 (push 20 s.history ok) 20 < 2 := by omega
    rw [List.replicate_zero, recordAll_cons, recordAll_nil, hs.mode_record_iff]
    rw [missesIn_lt_iff] at hfew ⊢
    exact ⟨hfew.1, lt_of_lt_of_le hfew.2 (mismatchLimit_full_le s.mode)⟩
  | succ k ih =>
    intro s ok j hs hj hlt
    have hwindow := hs.reachable.missesIn_record 2 (show j < 20 by omega) ok
    rw [recordAll_cons, List.replicate_succ]
    refine ih (hs.record ok) (show j + 1 + (k + 1) = 20 by omega) ?_
    rw [hwindow, Bool.not_true, Bool.toNat_false]
    omega

theorem mode_eq_full_iff {m : AdaptiveMode} : m = .Full ↔ m ≠ .Turbo := by
  cases m <;> simp

/-- Two mismatches among the last `j` results and the block `ok` keep the switch in `Full`. -/
theorem Ready.record_full {s : AdaptiveSwitch} {ok : Bool} {j : ℕ} (h : Ready s)
    (hmode : s.mode = .Full) (hj : j < 20) (hle : 2 ≤ missesIn not 2 s.history j + (!ok).toNat) :
    (s.record ok).mode = .Full ∧ missesIn not 2 (s.record ok).history (j + 1) = 2 := by
  have hwindow := h.reachable.missesIn_record 2 hj ok
  rw [Nat.min_eq_left hle] at hwindow
  refine ⟨mode_eq_full_iff.2 fun hturbo => ?_, hwindow⟩
  rw [h.mode_record_iff, hmode] at hturbo
  have hmono := missesIn_mono not 2 (s.record ok).history (show j + 1 ≤ 20 by omega)
  rw [hwindow, h.reachable.history_record] at hmono
  exact Nat.not_lt.2 hmono hturbo

/-- As long as these mismatches are in the window, more matches do not change the mode. -/
theorem Ready.stays_full {k : ℕ} : ∀ {s : AdaptiveSwitch} {ok : Bool} {j : ℕ}, Ready s →
    s.mode = .Full → j + (k + 1) ≤ 20 → 2 ≤ missesIn not 2 s.history j + (!ok).toNat →
    (s.recordAll (ok :: List.replicate k true)).mode = .Full := by
  induction k with
  | zero =>
    intro s ok j hs hmode hj hle
    rw [List.replicate_zero, recordAll_cons, recordAll_nil]
    exact (hs.record_full hmode (by omega) hle).1
  | succ k ih =>
    intro s ok j hs hmode hj hle
    obtain ⟨hmode', hwindow⟩ := hs.record_full hmode (by omega) hle
    rw [recordAll_cons, List.replicate_succ]
    exact ih (hs.record ok) hmode' (show j + 1 + (k + 1) ≤ 20 by omega) (by rw [hwindow]; simp)

/-- Matches keep a switch in `Turbo`, and move its mismatches towards the old end of the window. -/
theorem Ready.stays_turbo {k : ℕ} : ∀ {s : AdaptiveSwitch}, Ready s → s.mode = .Turbo →
    Ready (s.recordAll (List.replicate k true)) ∧
      (s.recordAll (List.replicate k true)).mode = .Turbo ∧
      ∀ j, j + k ≤ 20 → missesIn not 4 (s.recordAll (List.replicate k true)).history (j + k) =
        missesIn not 4 s.history j := by
  induction k with
  | zero => exact fun hs hmode => ⟨hs, hmode, fun j _ => rfl⟩
  | succ k ih =>
    intro s hs hmode
    have hfew := (hs.reachable.ready hmode).2
    have hmode' : (s.record true).mode = .Turbo := by
      have hmono := missesIn_mono not 4 s.history (show 19 ≤ 20 by omega)
      rw [hs.mode_record_iff, hmode, missesIn_push hs.reachable.length_le (by omega)]
      simp only [mismatchLimit, Bool.not_true, Bool.toNat_false]
      omega
    obtain ⟨hready, hturbo, hwindow⟩ := ih (hs.record true) hmode'
    rw [List.replicate_succ, recordAll_cons]
    refine ⟨hready, hturbo, fun j hj => ?_⟩
    have hle := missesIn_le not 4 s.history j
    rw [show j + (k + 1) = j + 1 + k by omega, hwindow (j + 1) (by omega),
      hs.reachable.missesIn_record 4 (by omega), Bool.not_true, Bool.toNat_false]
    omega

/-! ## The part of the window that decides -/

/-- **In `Full`** a difference up to two mismatches shows: one block that brings the window with
fewer mismatches to just one, and then matches, let this switch enter `Turbo` and not the other. -/
theorem SameFuture.missesIn_le {s t : AdaptiveSwitch} (h : SameFuture s t) (hs : Ready s)
    (ht : Ready t) (hmode : t.mode = .Full) {j : ℕ} (hj : j < 20) :
    missesIn not 2 t.history j ≤ missesIn not 2 s.history j := by
  by_contra hlt
  have hbound := SlidingWindow.missesIn_le not 2 t.history j
  obtain ⟨ok, hone⟩ : ∃ ok : Bool, missesIn not 2 s.history j + (!ok).toNat = 1 := by
    rcases Nat.eq_zero_or_pos (missesIn not 2 s.history j) with hzero | hpos
    · exact ⟨false, by rw [hzero]; rfl⟩
    · exact ⟨true, by simp only [Bool.not_true, Bool.toNat_false]; omega⟩
  have hturbo : (s.recordAll (ok :: List.replicate (19 - j) true)).mode = .Turbo :=
    hs.enters (show j + (19 - j + 1) = 20 by omega) (by omega)
  have hfull : (t.recordAll (ok :: List.replicate (19 - j) true)).mode = .Full :=
    ht.stays_full hmode (show j + (19 - j + 1) ≤ 20 by omega) (by omega)
  have hsame := h.mode_recordAll (ok :: List.replicate (19 - j) true) (by simp)
  rw [hturbo, hfull] at hsame
  exact AdaptiveMode.noConfusion hsame

/-- In `Turbo`, matches move the mismatches among the last `j` results to the old end of the window,
and then one more is tolerated if these were fewer than three. -/
theorem Reachable.mode_mismatch_iff {s : AdaptiveSwitch} (h : Reachable s) (hmode : s.mode = .Turbo)
    {j : ℕ} (hj : j < 20) :
    ((s.recordAll (List.replicate (19 - j) true)).record false).mode = .Turbo ↔
      missesIn not 4 s.history j < 3 := by
  obtain ⟨hready, hturbo, hwindow⟩ := (h.ready hmode).1.stays_turbo hmode (k := 19 - j)
  have hold := hwindow j (by omega)
  rw [show j + (19 - j) = 19 by omega] at hold
  rw [hready.mode_record_iff, hturbo, missesIn_push hready.reachable.length_le (by omega),
    mismatchLimit, hold, Bool.not_false, Bool.toNat_true]
  omega

/-- **In `Turbo`** the difference between two and three mismatches shows as well. -/
theorem SameFuture.lt_three_iff {s t : AdaptiveSwitch} (h : SameFuture s t) (hs : Reachable s)
    (ht : Reachable t) (hmode : s.mode = .Turbo) (hmode' : t.mode = .Turbo) {j : ℕ} (hj : j < 20) :
    missesIn not 4 s.history j < 3 ↔ missesIn not 4 t.history j < 3 := by
  rw [← hs.mode_mismatch_iff hmode hj, ← ht.mode_mismatch_iff hmode' hj]
  have hsame := (h.after ((List.replicate (19 - j) true).map .ofOrder)).mode_recordAll
    [false] (by simp)
  rw [recordAll_cons, recordAll_nil, recordAll_cons, recordAll_nil] at hsame
  exact iff_of_eq (congrArg (· = AdaptiveMode.Turbo) hsame)

/-! ## Failures until the count wraps around -/

/-- Failing blocks change the counters and the mode only. -/
theorem after_failing (s : AdaptiveSwitch) (n : ℕ) :
    Mealy.after block s (List.replicate (n + 1) .failing) =
      { s with
        failCount := s.failCount + UInt32.ofNat (n + 1)
        penaltyCooldown := s.backoffBase ^ (min (s.failCount + UInt32.ofNat (n + 1)) 8).toNat
        mode := .Full } := by
  induction n with
  | zero => rfl
  | succ n ih =>
    rw [List.replicate_succ', Mealy.after_concat, ih, block_failing, UInt32.ofNat_add (n + 1),
      ← UInt32.add_assoc]
    rfl

/-- After as many failing blocks as the count still can hold it is zero again, and the next block
ends the cooldown. -/
theorem exists_failing_ready (failCount : UInt32) : ∃ bs : List Block, ∀ {s : AdaptiveSwitch},
    Reachable s → s.failCount = failCount →
      Ready (Mealy.after block s bs) ∧ (Mealy.after block s bs).mode = .Full ∧
        (Mealy.after block s bs).history = s.history := by
  obtain ⟨n, hn⟩ : ∃ n, n + 1 = 2 ^ 32 - failCount.toNat :=
    ⟨2 ^ 32 - failCount.toNat - 1, by have := failCount.toNat_lt; omega⟩
  have hwrap : failCount + UInt32.ofNat (n + 1) = 0 := by
    rw [← UInt32.toNat_inj, UInt32.toNat_add, UInt32.toNat_ofNat', hn]
    have hlt := failCount.toNat_lt
    change (failCount.toNat + (2 ^ 32 - failCount.toNat) % 2 ^ 32) % 2 ^ 32 = 0
    omega
  refine ⟨List.replicate (n + 1) .failing, fun {s} hs hcount => ?_⟩
  have hready := hs.after (List.replicate (n + 1) .failing)
  have hzero : countdown (s.backoffBase ^ (min (0 : UInt32) 8).toNat) = 0 := by
    rw [hs.backoffBase]
    rfl
  rw [after_failing, hcount, hwrap] at hready ⊢
  exact ⟨⟨hready, rfl, hzero⟩, rfl, rfl⟩

/-! ## The future of two switches -/

/-- The windows of switches with the same future agree as far as `Full` sees them. -/
theorem SameFuture.alike_full {s t : AdaptiveSwitch} (h : SameFuture s t) (hs : Reachable s)
    (ht : Reachable t) (hcount : s.failCount = t.failCount) :
    SlidingWindow.Alike not 20 2 s.history t.history := by
  obtain ⟨bs, hbs⟩ := exists_failing_ready s.failCount
  obtain ⟨hready, hmode, hhist⟩ := hbs hs rfl
  obtain ⟨hready', hmode', hhist'⟩ := hbs ht hcount.symm
  intro j hj
  have hle := (h.after bs).missesIn_le hready hready' hmode' hj
  have hge := (h.after bs).symm.missesIn_le hready' hready hmode hj
  rw [hhist, hhist'] at hle hge
  exact le_antisymm hge hle

/-- **The future of two switches** with the same mode and counters is the same if and only if their
windows are alike for this mode. -/
theorem sameFuture_iff {s t : AdaptiveSwitch} (hs : Reachable s) (ht : Reachable t)
    (hmode : s.mode = t.mode) (hcount : s.failCount = t.failCount)
    (hcooldown : s.penaltyCooldown = t.penaltyCooldown) :
    SameFuture s t ↔ SlidingWindow.Alike not 20 (mismatchLimit s.mode) s.history t.history := by
  constructor
  · intro h
    have hfull := h.alike_full hs ht hcount
    cases hm : s.mode with
    | Full => exact hfull
    | Turbo =>
      intro j hj
      have hm' : t.mode = .Turbo := hmode ▸ hm
      have hthree := h.lt_three_iff hs ht hm hm' hj
      have htwo := hfull j hj
      have hlt := lt_of_le_of_lt (missesIn_mono not 4 s.history hj.le) (hs.ready hm).2
      have hlt' := lt_of_le_of_lt (missesIn_mono not 4 t.history hj.le) (ht.ready hm').2
      rw [← min_missesIn not (show 2 ≤ 4 by omega),
        ← min_missesIn not (show 2 ≤ 4 by omega)] at htwo
      change missesIn not 4 s.history j = missesIn not 4 t.history j
      omega
  · exact fun h => Alike.sameFuture ⟨hmode, hcount, hcooldown, h⟩ hs ht

end AdaptiveSwitch

end OpenTTT.Roughtime
