import OpenTTT.Switch.Store

/-!
# The contexts of the store

The calls of `AdaptiveSwitchStore` for different contexts share its two maps, and a switch is
created by the first call for its context, with the tolerance of that call. Seen from outside the
store is a family of switches, one for every context, that are there from the start:
`modes_eq_family` is the simulation. So a context does not see the calls for the others
(`context_isolated`).

The store relies on two facts about a switch: no block reads its tolerance, and none changes it.
-/

namespace OpenTTT.Roughtime

namespace AdaptiveSwitch

/-- A switch but for its tolerance. -/
def untoleranced (s : AdaptiveSwitch) : AdaptiveSwitch := { s with tierToleranceMs := 0 }

theorem record_untoleranced (s : AdaptiveSwitch) (ok : Bool) :
    s.untoleranced.record ok = (s.record ok).untoleranced := by
  simp only [record]
  rw [apply_ite untoleranced, apply_ite untoleranced]
  rfl

/-- No block reads the tolerance. -/
theorem block_untoleranced (s : AdaptiveSwitch) (b : Block) :
    s.untoleranced.block b = ((s.block b).1, (s.block b).2.untoleranced) := by
  rcases block_cases b with hfail | hgood
  · rw [hfail, hfail]
    rfl
  · have hsnd : (s.untoleranced.block b).2 = (s.block b).2.untoleranced := by
      rw [hgood, block_ofOrder, block_ofOrder, record_untoleranced]
    refine Prod.ext ?_ hsnd
    rw [block_fst, hsnd, block_fst]
    rfl

theorem after_untoleranced (s : AdaptiveSwitch) (bs : List Block) :
    Mealy.after block s.untoleranced bs = (Mealy.after block s bs).untoleranced := by
  induction bs generalizing s with
  | nil => rfl
  | cons b bs ih => rw [Mealy.after_cons, block_untoleranced, ih, Mealy.after_cons]

theorem outputs_untoleranced (s : AdaptiveSwitch) (bs : List Block) :
    Mealy.outputs block s.untoleranced bs = Mealy.outputs block s bs := by
  induction bs generalizing s with
  | nil => rfl
  | cons b bs ih => rw [Mealy.outputs, block_untoleranced, ih, Mealy.outputs]

/-- Whether a block fails. -/
def Block.fails (b : Block) : Bool := !(b.integrityOk && b.timeOk)

/-- **The failure count** is the number of failing blocks, as long as that fits into it. -/
theorem failCount_after (tierToleranceMs : UInt64) (bs : List Block) :
    (Mealy.after block (new tierToleranceMs) bs).failCount =
      UInt32.ofNat (bs.countP Block.fails) := by
  refine Mealy.invariant_history block
    (P := fun bs s => s.failCount = UInt32.ofNat (bs.countP Block.fails)) ?_ rfl bs
  intro bs b s hs
  rw [List.countP_append, List.countP_singleton, UInt32.ofNat_add, ← hs]
  obtain ⟨orderOk, timeOk, integrityOk⟩ := b
  cases integrityOk with
  | false => rfl
  | true =>
    cases timeOk with
    | false => rfl
    | true =>
      have hblock := block_ofOrder s orderOk
      rw [Block.ofOrder] at hblock
      rw [hblock, record_eq]
      exact (UInt32.add_zero _).symm

end AdaptiveSwitch

namespace AdaptiveSwitchStore

/-- A call as an input to a family of switches. -/
def Call.input (call : Call) : String × AdaptiveSwitch.Block := (call.ctxId, call.block)

/-- The blocks of the calls for a context. -/
def blocksFor (ctxId : String) (calls : List Call) : List AdaptiveSwitch.Block :=
  Mealy.inputsFor ctxId (calls.map Call.input)

/-- The modes that the calls for a context return. -/
def modesFor (ctxId : String) (calls : List Call) (modes : List AdaptiveMode) :
    List AdaptiveMode :=
  Mealy.outputsFor ctxId (calls.map Call.input) modes

/-! ## The store and a family of switches -/

/-- The next call for a context finds the switch that the family has for it. -/
def Shows (store : AdaptiveSwitchStore) (family : String → AdaptiveSwitch) : Prop :=
  ∀ ctxId tierToleranceMs, (store.switchFor ctxId tierToleranceMs).untoleranced = family ctxId

theorem shows_inMemory : Shows inMemory fun _ => (AdaptiveSwitch.new 0) := fun _ _ => rfl

/-- **One call** returns the mode that the switch of the family returns, and the two go on
alike. -/
theorem Shows.step {store : AdaptiveSwitchStore} {family : String → AdaptiveSwitch}
    (h : Shows store family) (call : Call) :
    (store.step call).1 = (Mealy.family AdaptiveSwitch.block family call.input).1 ∧
      Shows (store.step call).2 (Mealy.family AdaptiveSwitch.block family call.input).2 := by
  have hblock := AdaptiveSwitch.block_untoleranced
    (store.switchFor call.ctxId call.tierToleranceMs) call.block
  rw [h call.ctxId call.tierToleranceMs] at hblock
  refine ⟨?_, fun ctxId tierToleranceMs => ?_⟩
  · rw [step_fst]
    exact (congrArg Prod.fst hblock).symm
  · by_cases hctx : ctxId = call.ctxId
    · subst hctx
      rw [switchFor_step]
      exact (congrArg Prod.snd hblock).symm.trans
        (Function.update_self call.ctxId _ family).symm
    · have hother : (store.step call).2.switchFor ctxId tierToleranceMs =
          store.switchFor ctxId tierToleranceMs := by
        rw [switchFor, switches_step, if_neg hctx, switchFor]
      rw [hother, h]
      exact (Function.update_of_ne hctx _ family).symm

/-- **The store simulates the family.** -/
theorem modes_eq_family (calls : List Call) :
    inMemory.modes calls = Mealy.outputs (Mealy.family AdaptiveSwitch.block)
      (fun _ => AdaptiveSwitch.new 0) (calls.map Call.input) :=
  Mealy.outputs_eq_of_simulation AdaptiveSwitchStore.step (R := Shows) (Q := fun _ => True)
    (fun _ _ call h _ => h.step call) shows_inMemory fun _ _ => trivial

theorem shows_after (calls : List Call) :
    Shows (inMemory.after calls) (Mealy.after (Mealy.family AdaptiveSwitch.block)
      (fun _ => AdaptiveSwitch.new 0) (calls.map Call.input)) := by
  refine Mealy.invariant_history AdaptiveSwitchStore.step
    (P := fun calls store => Shows store (Mealy.after (Mealy.family AdaptiveSwitch.block)
      (fun _ => AdaptiveSwitch.new 0) (calls.map Call.input))) ?_ shows_inMemory calls
  intro calls call store h
  rw [List.map_append, List.map_singleton, Mealy.after_concat]
  exact (h.step call).2

/-- A context has a switch if and only if there was a call for it. -/
theorem switches_after_eq_none_iff (calls : List Call) (ctxId : String) :
    (inMemory.after calls).switches.get? ctxId = none ↔ blocksFor ctxId calls = [] := by
  refine Mealy.invariant_history AdaptiveSwitchStore.step
    (P := fun calls store => store.switches.get? ctxId = none ↔ blocksFor ctxId calls = []) ?_
    (iff_of_true rfl rfl) calls
  intro calls call store h
  rw [switches_step, blocksFor, List.map_append, List.map_singleton, Mealy.inputsFor_concat]
  by_cases hctx : call.ctxId = ctxId
  · rw [if_pos hctx.symm, if_pos (show call.input.1 = ctxId from hctx)]
    exact iff_of_false (by simp) (by simp)
  · rw [if_neg (Ne.symm hctx), if_neg (show ¬ call.input.1 = ctxId from hctx), List.append_nil]
    exact h

/-! ## Isolation -/

/-- The switch of a context is, but for its tolerance, one that saw its blocks alone. -/
theorem switchFor_after (calls : List Call) (ctxId : String) (tierToleranceMs : UInt64) :
    ((inMemory.after calls).switchFor ctxId tierToleranceMs).untoleranced =
      (Mealy.after AdaptiveSwitch.block (AdaptiveSwitch.new tierToleranceMs)
        (blocksFor ctxId calls)).untoleranced := by
  rw [shows_after calls ctxId tierToleranceMs, (Mealy.family_isolated _ _ _ ctxId).2,
    ← AdaptiveSwitch.after_untoleranced]
  rfl

theorem shown_untoleranced (sw : AdaptiveSwitch) : shown sw.untoleranced = shown sw := rfl

/-- **The contexts do not interfere**: for any interleaving of calls, the modes returned for a
context and what its snapshot shows are those of a switch of its own, fed the blocks of the context
alone; and a context without calls has no snapshot and is in `Full`. -/
theorem context_isolated (calls : List Call) (ctxId : String) (tierToleranceMs : UInt64) :
    modesFor ctxId calls (inMemory.modes calls) =
      Mealy.outputs AdaptiveSwitch.block (.new tierToleranceMs) (blocksFor ctxId calls) ∧
    ((inMemory.after calls).snapshots.get? ctxId).map
        (fun snap => (snap.mode, snap.failCount, snap.penaltyCooldown)) =
      (if blocksFor ctxId calls = [] then none
      else some (shown (Mealy.after AdaptiveSwitch.block (.new tierToleranceMs)
        (blocksFor ctxId calls)))) ∧
    (inMemory.after calls).currentMode ctxId =
      (Mealy.after AdaptiveSwitch.block (.new tierToleranceMs) (blocksFor ctxId calls)).mode ∧
    (ctxId ∉ calls.map Call.ctxId → (inMemory.after calls).currentMode ctxId = .Full) := by
  have hswitch := switchFor_after calls ctxId tierToleranceMs
  have hmode : (inMemory.after calls).currentMode ctxId =
      (Mealy.after AdaptiveSwitch.block (.new tierToleranceMs) (blocksFor ctxId calls)).mode := by
    have hmode := congrArg AdaptiveSwitch.mode hswitch
    rw [← mode_switchFor _ _ tierToleranceMs]
    exact hmode
  refine ⟨?_, ?_, hmode, fun hctx => ?_⟩
  · rw [modesFor, modes_eq_family, (Mealy.family_isolated _ _ _ ctxId).1,
      ← AdaptiveSwitch.outputs_untoleranced (.new tierToleranceMs)]
    rfl
  · rw [(inv_after calls).snapshot ctxId]
    split
    · rename_i hnone
      rw [(switches_after_eq_none_iff calls ctxId).2 hnone]
      rfl
    · rename_i hsome
      rw [← switches_after_eq_none_iff] at hsome
      obtain ⟨sw, hsw⟩ := Option.ne_none_iff_exists'.1 hsome
      rw [switchFor, hsw, Option.getD_some] at hswitch
      rw [hsw, Option.map_some, ← shown_untoleranced sw, hswitch, shown_untoleranced]
  · have hnone : blocksFor ctxId calls = [] := by
      rw [blocksFor, Mealy.inputsFor, List.map_eq_nil_iff, List.filter_eq_nil_iff]
      intro c hc
      obtain ⟨call, hcall, rfl⟩ := List.mem_map.1 hc
      rw [decide_eq_true_eq]
      rintro rfl
      exact hctx (List.mem_map_of_mem hcall)
    rw [hmode, hnone]
    rfl

/-- Two contexts in turn, one of them with a block that fails. -/
def turns : List Call :=
  [goodCall, ⟨"ctx2", .ofOrder true, 200, 0⟩, goodCall,
    ⟨"ctx2", ⟨true, false, true⟩, 200, 0⟩]

/-- A context with calls, between those of another one, and a context without calls. -/
theorem context_isolated_goodCall :
    modesFor "ctx2" turns (inMemory.modes turns) =
      Mealy.outputs AdaptiveSwitch.block (.new 200) (blocksFor "ctx2" turns) ∧
    ((inMemory.after turns).snapshots.get? "ctx2").map
        (fun snap => (snap.mode, snap.failCount, snap.penaltyCooldown)) =
      some (shown (Mealy.after AdaptiveSwitch.block (.new 200) (blocksFor "ctx2" turns))) ∧
    (inMemory.after turns).currentMode "ctx2" =
      (Mealy.after AdaptiveSwitch.block (.new 200) (blocksFor "ctx2" turns)).mode ∧
    (inMemory.after turns).currentMode "ctx3" = .Full := by
  have hblocks : blocksFor "ctx2" turns ≠ [] := by decide
  obtain ⟨hmodes, hsnapshot, hmode, -⟩ := context_isolated turns "ctx2" 200
  rw [if_neg hblocks] at hsnapshot
  exact ⟨hmodes, hsnapshot, hmode, (context_isolated turns "ctx3" 200).2.2.2 (by decide)⟩

end AdaptiveSwitchStore

end OpenTTT.Roughtime
