import OpenTTT.Foundations.InsertionMap
import OpenTTT.Switch.Future

/-!
# The store of the issuer's switches

`AdaptiveSwitchStore` of `roughtime/as_store.rs`: a switch for every context, and a snapshot of it
that every block replaces. The readings of the clock are arguments, and the order of the hash maps
plays no role.

The snapshot has a field for the history of the switch and always writes the empty list into it. So
equal snapshots do not make equal futures (`not_resumes`), and `resumes_iff` says when they do.
-/

namespace OpenTTT.Roughtime

/-- The text that `{:?}` writes. -/
def AdaptiveMode.debug : AdaptiveMode → String
  | .Turbo => "Turbo"
  | .Full => "Full"

theorem AdaptiveMode.debug_inj {m m' : AdaptiveMode} (h : m.debug = m'.debug) : m = m' := by
  cases m <;> cases m' <;> simp_all [debug]

structure AdaptiveSwitchSnapshot where
  ctxId : String
  history : List Bool
  mode : String
  failCount : UInt32
  penaltyCooldown : UInt32
  tierToleranceMs : UInt64
  lastUpdatedMs : UInt64
  deriving DecidableEq

/-- A snapshot without the time of its last update. -/
def AdaptiveSwitchSnapshot.untimed (snap : AdaptiveSwitchSnapshot) : AdaptiveSwitchSnapshot :=
  { snap with lastUpdatedMs := 0 }

structure AdaptiveSwitchStore where
  switches : InsertionMap String AdaptiveSwitch
  snapshots : InsertionMap String AdaptiveSwitchSnapshot

namespace AdaptiveSwitchStore

def inMemory : AdaptiveSwitchStore := ⟨.empty, .empty⟩

def getOrCreate (self : AdaptiveSwitchStore) (ctxId : String) (tierToleranceMs : UInt64) :
    AdaptiveSwitch × AdaptiveSwitchStore :=
  match self.switches.get? ctxId with
  | some sw => (sw, self)
  | none =>
    let sw := AdaptiveSwitch.new tierToleranceMs
    (sw, { self with switches := self.switches.set ctxId sw })

/-- `verify_and_persist`, at the time `nowMs`. -/
def verifyAndPersist (self : AdaptiveSwitchStore) (ctxId : String)
    (orderOk timeOk integrityOk : Bool) (tierToleranceMs nowMs : UInt64) :
    AdaptiveMode × AdaptiveSwitchStore :=
  let created := self.getOrCreate ctxId tierToleranceMs
  let result := created.1.verifyBlock orderOk timeOk integrityOk
  (result.1,
    { switches := created.2.switches.set ctxId result.2
      snapshots := created.2.snapshots.set ctxId
        { ctxId := ctxId
          history := []
          mode := result.1.debug
          failCount := result.2.failCount
          penaltyCooldown := result.2.penaltyCooldown
          tierToleranceMs := tierToleranceMs
          lastUpdatedMs := nowMs } })

def currentMode (self : AdaptiveSwitchStore) (ctxId : String) : AdaptiveMode :=
  ((self.switches.get? ctxId).map AdaptiveSwitch.mode).getD .Full

def allSnapshots (self : AdaptiveSwitchStore) : List AdaptiveSwitchSnapshot :=
  self.snapshots.entries.map Prod.snd

def len (self : AdaptiveSwitchStore) : ℕ := self.switches.size

/-! ## Runs -/

/-- The arguments of `verify_and_persist`, and the time of the call. -/
structure Call where
  ctxId : String
  block : AdaptiveSwitch.Block
  tierToleranceMs : UInt64
  nowMs : UInt64
  deriving DecidableEq

/-- A call without its time. -/
def Call.untimed (call : Call) : Call := { call with nowMs := 0 }

/-- A call as a step. -/
def step (self : AdaptiveSwitchStore) (call : Call) : AdaptiveMode × AdaptiveSwitchStore :=
  self.verifyAndPersist call.ctxId call.block.orderOk call.block.timeOk call.block.integrityOk
    call.tierToleranceMs call.nowMs

/-- The store after a list of calls. -/
def after (self : AdaptiveSwitchStore) (calls : List Call) : AdaptiveSwitchStore :=
  Mealy.after step self calls

/-- The modes that a list of calls returns. -/
def modes (self : AdaptiveSwitchStore) (calls : List Call) : List AdaptiveMode :=
  Mealy.outputs step self calls

/-- The snapshots of a context are equal in every field except the time of the last update. -/
def SameSnapshot (ctxId : String) (a b : AdaptiveSwitchStore) : Prop :=
  (a.snapshots.get? ctxId).map AdaptiveSwitchSnapshot.untimed =
    (b.snapshots.get? ctxId).map AdaptiveSwitchSnapshot.untimed

instance instDecidableSameSnapshot (ctxId : String) (a b : AdaptiveSwitchStore) :
    Decidable (SameSnapshot ctxId a b) :=
  inferInstanceAs (Decidable (_ = _))

/-- Any further calls for a context, the same ones but for their times, return the same modes. -/
def Resumes (ctxId : String) (a b : AdaptiveSwitchStore) : Prop :=
  ∀ calls calls' : List Call, (∀ call ∈ calls, call.ctxId = ctxId) →
    calls.map Call.untimed = calls'.map Call.untimed → a.modes calls = b.modes calls'

/-- The history of the switch of a context. -/
def historyOf (self : AdaptiveSwitchStore) (ctxId : String) : List Bool :=
  ((self.switches.get? ctxId).map AdaptiveSwitch.history).getD []

/-- The histories of the switches of a context agree as far as they decide about its future. -/
def AlikeHistories (ctxId : String) (a b : AdaptiveSwitchStore) : Prop :=
  SlidingWindow.Alike not 20 (AdaptiveSwitch.mismatchLimit (a.currentMode ctxId))
    (a.historyOf ctxId) (b.historyOf ctxId)

/-! ## The switch of a context -/

/-- The switch that the next call for a context uses. -/
def switchFor (self : AdaptiveSwitchStore) (ctxId : String) (tierToleranceMs : UInt64) :
    AdaptiveSwitch :=
  (self.switches.get? ctxId).getD (AdaptiveSwitch.new tierToleranceMs)

theorem getOrCreate_fst (self : AdaptiveSwitchStore) (ctxId : String) (tierToleranceMs : UInt64) :
    (self.getOrCreate ctxId tierToleranceMs).1 = self.switchFor ctxId tierToleranceMs := by
  unfold getOrCreate switchFor
  cases self.switches.get? ctxId <;> rfl

theorem getOrCreate_snapshots (self : AdaptiveSwitchStore) (ctxId : String)
    (tierToleranceMs : UInt64) :
    (self.getOrCreate ctxId tierToleranceMs).2.snapshots = self.snapshots := by
  unfold getOrCreate
  cases self.switches.get? ctxId <;> rfl

theorem getOrCreate_get? (self : AdaptiveSwitchStore) (ctxId : String) (tierToleranceMs : UInt64)
    {ctxId' : String} (h : ctxId' ≠ ctxId) :
    (self.getOrCreate ctxId tierToleranceMs).2.switches.get? ctxId' =
      self.switches.get? ctxId' := by
  unfold getOrCreate
  cases self.switches.get? ctxId with
  | some sw => rfl
  | none => exact (InsertionMap.get?_set _ _ _ _).trans (if_neg h)

/-- **One call**: the mode, and the switch of the context afterwards, are those of a block. -/
theorem step_fst (self : AdaptiveSwitchStore) (call : Call) :
    (self.step call).1 = ((self.switchFor call.ctxId call.tierToleranceMs).block call.block).1 := by
  rw [← getOrCreate_fst]
  rfl

theorem switches_step (self : AdaptiveSwitchStore) (call : Call) (ctxId : String) :
    (self.step call).2.switches.get? ctxId =
      if ctxId = call.ctxId then
        some ((self.switchFor call.ctxId call.tierToleranceMs).block call.block).2
      else self.switches.get? ctxId := by
  rw [← getOrCreate_fst]
  refine (InsertionMap.get?_set _ _ _ _).trans ?_
  split
  · rfl
  · rename_i hne
    exact getOrCreate_get? self _ _ hne

/-- The snapshot of the context afterwards shows the mode and the counters of the switch. -/
theorem snapshots_step (self : AdaptiveSwitchStore) (call : Call) (ctxId : String) :
    (self.step call).2.snapshots.get? ctxId =
      if ctxId = call.ctxId then
        let sw := ((self.switchFor call.ctxId call.tierToleranceMs).block call.block).2
        some ⟨ctxId, [], sw.mode.debug, sw.failCount, sw.penaltyCooldown, call.tierToleranceMs,
          call.nowMs⟩
      else self.snapshots.get? ctxId := by
  simp only [← AdaptiveSwitch.block_fst, ← getOrCreate_fst]
  refine (InsertionMap.get?_set _ _ _ _).trans ?_
  split
  · rename_i heq
    rw [heq]
    rfl
  · rw [getOrCreate_snapshots]

theorem switchFor_step (self : AdaptiveSwitchStore) (call : Call) (tierToleranceMs : UInt64) :
    (self.step call).2.switchFor call.ctxId tierToleranceMs =
      ((self.switchFor call.ctxId call.tierToleranceMs).block call.block).2 := by
  rw [switchFor, switches_step, if_pos rfl, Option.getD_some]

/-! ## The invariant -/

/-- What a snapshot shows of a switch. -/
def shown (sw : AdaptiveSwitch) : String × UInt32 × UInt32 :=
  (sw.mode.debug, sw.failCount, sw.penaltyCooldown)

/-- Every switch is one that blocks lead to, and its context has a snapshot that shows it. -/
structure Inv (store : AdaptiveSwitchStore) : Prop where
  reachable : ∀ ctxId sw, store.switches.get? ctxId = some sw → sw.Reachable
  snapshot : ∀ ctxId, (store.snapshots.get? ctxId).map
    (fun snap => (snap.mode, snap.failCount, snap.penaltyCooldown)) =
      (store.switches.get? ctxId).map shown

theorem inv_inMemory : Inv inMemory :=
  ⟨fun _ _ h => by simp [inMemory] at h, fun _ => rfl⟩

theorem Inv.switchFor {self : AdaptiveSwitchStore} (h : Inv self) (ctxId : String)
    (tierToleranceMs : UInt64) : (self.switchFor ctxId tierToleranceMs).Reachable := by
  unfold AdaptiveSwitchStore.switchFor
  cases hget : self.switches.get? ctxId with
  | none => exact .new tierToleranceMs
  | some sw => exact h.reachable ctxId sw hget

theorem Inv.step {self : AdaptiveSwitchStore} (h : Inv self) (call : Call) :
    Inv (self.step call).2 := by
  refine ⟨fun ctxId sw hget => ?_, fun ctxId => ?_⟩
  · rw [switches_step] at hget
    split at hget
    · rw [← Option.some.inj hget]
      exact (h.switchFor _ _).block call.block
    · exact h.reachable ctxId sw hget
  · rw [switches_step, snapshots_step]
    split
    · rfl
    · exact h.snapshot ctxId

theorem inv_after (calls : List Call) : Inv (inMemory.after calls) :=
  Mealy.invariant_history AdaptiveSwitchStore.step (P := fun _ => Inv)
    (fun _ call _ h => h.step call) inv_inMemory calls

/-! ## Resuming from a snapshot -/

theorem mode_switchFor (self : AdaptiveSwitchStore) (ctxId : String) (tierToleranceMs : UInt64) :
    (self.switchFor ctxId tierToleranceMs).mode = self.currentMode ctxId := by
  unfold switchFor currentMode
  cases self.switches.get? ctxId <;> rfl

theorem history_switchFor (self : AdaptiveSwitchStore) (ctxId : String)
    (tierToleranceMs : UInt64) :
    (self.switchFor ctxId tierToleranceMs).history = self.historyOf ctxId := by
  unfold switchFor historyOf
  cases self.switches.get? ctxId <;> rfl

/-- The tolerance with which a switch would be created does not matter. -/
theorem switchFor_alike (self : AdaptiveSwitchStore) (ctxId : String)
    (tierToleranceMs tierToleranceMs' : UInt64) :
    AdaptiveSwitch.Alike (self.switchFor ctxId tierToleranceMs)
      (self.switchFor ctxId tierToleranceMs') := by
  unfold switchFor
  cases self.switches.get? ctxId with
  | some sw => exact .refl sw
  | none => exact ⟨rfl, rfl, rfl, fun _ _ => rfl⟩

/-- Calls for one context return what their blocks return from its switch. -/
theorem Inv.modes_eq {self : AdaptiveSwitchStore} (h : Inv self) {ctxId : String}
    {calls : List Call} (hctx : ∀ call ∈ calls, call.ctxId = ctxId) :
    self.modes calls =
      Mealy.outputs AdaptiveSwitch.block (self.switchFor ctxId 0) (calls.map Call.block) := by
  refine Mealy.outputs_eq_of_simulation AdaptiveSwitchStore.step
    (R := fun store sw => Inv store ∧ sw.Reachable ∧
      ∀ tierToleranceMs, AdaptiveSwitch.Alike (store.switchFor ctxId tierToleranceMs) sw)
    (Q := fun call => call.ctxId = ctxId) ?_
    ⟨h, h.switchFor ctxId 0, fun tierToleranceMs => switchFor_alike self ctxId tierToleranceMs 0⟩
    hctx
  rintro store sw call ⟨hinv, hsw, halike⟩ rfl
  have hblock := (halike call.tierToleranceMs).block (hinv.switchFor _ _) hsw call.block
  refine ⟨(step_fst store call).trans hblock.1, hinv.step call, hsw.block call.block,
    fun tierToleranceMs => ?_⟩
  rw [switchFor_step]
  exact hblock.2

/-- The switches decide whether a store resumes the other. -/
theorem resumes_iff_sameFuture {a b : AdaptiveSwitchStore} (ha : Inv a) (hb : Inv b)
    (ctxId : String) :
    Resumes ctxId a b ↔
      AdaptiveSwitch.SameFuture (a.switchFor ctxId 0) (b.switchFor ctxId 0) := by
  constructor
  · intro h bs
    have hctx : ∀ call ∈ bs.map fun block => Call.mk ctxId block 0 0, call.ctxId = ctxId := by
      intro call hcall
      obtain ⟨block, -, rfl⟩ := List.mem_map.1 hcall
      rfl
    have hmodes := h _ _ hctx rfl
    rw [ha.modes_eq hctx, hb.modes_eq hctx, List.map_map] at hmodes
    have hid : (Call.block ∘ fun block => Call.mk ctxId block 0 0) = id := rfl
    rwa [hid, List.map_id] at hmodes
  · intro h calls calls' hctx huntimed
    have hfield : ∀ {β : Type} (f : Call → β), (∀ call, f call.untimed = f call) →
        calls.map f = calls'.map f := by
      intro β f hf
      have hmap := congrArg (List.map f) huntimed
      rw [List.map_map, List.map_map] at hmap
      rwa [show f ∘ Call.untimed = f from funext hf] at hmap
    have hctx' : ∀ call ∈ calls', call.ctxId = ctxId := by
      intro call hcall
      have hmem := List.mem_map_of_mem (f := Call.ctxId) hcall
      rw [← hfield Call.ctxId fun _ => rfl] at hmem
      obtain ⟨call', hcall', heq⟩ := List.mem_map.1 hmem
      exact heq ▸ hctx call' hcall'
    rw [ha.modes_eq hctx, hb.modes_eq hctx', hfield Call.block fun _ => rfl]
    exact h _

/-- Equal snapshots show the same mode and counters. -/
theorem Inv.shown_eq {a b : AdaptiveSwitchStore} (ha : Inv a) (hb : Inv b) {ctxId : String}
    (h : SameSnapshot ctxId a b) :
    shown (a.switchFor ctxId 0) = shown (b.switchFor ctxId 0) := by
  have hsnap : (a.snapshots.get? ctxId).map
      (fun snap => (snap.mode, snap.failCount, snap.penaltyCooldown)) =
        (b.snapshots.get? ctxId).map
          (fun snap => (snap.mode, snap.failCount, snap.penaltyCooldown)) := by
    have hmap := congrArg (Option.map fun snap : AdaptiveSwitchSnapshot =>
      (snap.mode, snap.failCount, snap.penaltyCooldown)) h
    rwa [Option.map_map, Option.map_map] at hmap
  rw [ha.snapshot, hb.snapshot] at hsnap
  have hgetD : ∀ store : AdaptiveSwitchStore, shown (store.switchFor ctxId 0) =
      ((store.switches.get? ctxId).map shown).getD (shown (.new 0)) := by
    intro store
    unfold AdaptiveSwitchStore.switchFor
    cases store.switches.get? ctxId <;> rfl
  rw [hgetD, hgetD, hsnap]

/-- **Resuming from a snapshot**: after runs with equal snapshots of a context, all further calls
for it return the same modes if and only if the histories, which the snapshots leave out, are
alike. -/
theorem resumes_iff (ctxId : String) (calls calls' : List Call)
    (h : SameSnapshot ctxId (inMemory.after calls) (inMemory.after calls')) :
    Resumes ctxId (inMemory.after calls) (inMemory.after calls') ↔
      AlikeHistories ctxId (inMemory.after calls) (inMemory.after calls') := by
  have ha := inv_after calls
  have hb := inv_after calls'
  have hshown := ha.shown_eq hb h
  have hmode := AdaptiveMode.debug_inj (congrArg Prod.fst hshown)
  have hcount := congrArg (fun p => p.2.1) hshown
  have hcooldown := congrArg (fun p => p.2.2) hshown
  rw [resumes_iff_sameFuture ha hb, AdaptiveSwitch.sameFuture_iff (ha.switchFor ctxId 0)
    (hb.switchFor ctxId 0) hmode hcount hcooldown, AlikeHistories, mode_switchFor,
    history_switchFor, history_switchFor]

/-- A call for a good block. -/
def goodCall : Call := ⟨"ctx1", .ofOrder true, 200, 0⟩

/-- The two runs of one and of 19 good blocks leave equal snapshots. -/
theorem resumes_iff_good :
    SameSnapshot "ctx1" (inMemory.after [goodCall]) (inMemory.after (List.replicate 19 goodCall)) ∧
      (Resumes "ctx1" (inMemory.after [goodCall]) (inMemory.after (List.replicate 19 goodCall)) ↔
        AlikeHistories "ctx1" (inMemory.after [goodCall])
          (inMemory.after (List.replicate 19 goodCall))) := by
  have h : SameSnapshot "ctx1" (inMemory.after [goodCall])
      (inMemory.after (List.replicate 19 goodCall)) := by
    decide +kernel
  exact ⟨h, resumes_iff _ _ _ h⟩

/-- **Equal snapshots, different futures**: after one more good block one switch is in `Turbo`. -/
theorem not_resumes :
    ¬ ∀ (ctxId : String) (calls calls' : List Call),
      SameSnapshot ctxId (inMemory.after calls) (inMemory.after calls') →
        Resumes ctxId (inMemory.after calls) (inMemory.after calls') := by
  intro h
  have hsame := h "ctx1" [goodCall] (List.replicate 19 goodCall) (by decide +kernel)
  have hmodes := hsame [goodCall] [goodCall] (by decide) rfl
  revert hmodes
  decide +kernel

end AdaptiveSwitchStore

end OpenTTT.Roughtime
