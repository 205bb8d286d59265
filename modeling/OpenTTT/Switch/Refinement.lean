import OpenTTT.Switch.Rust
import OpenTTT.Switch.TypeScript

/-!
# The two switches side by side

An issuer's and a client's switch fed with the same events. An event is a reset of both, or a
block: the issuer is told its order and its time results, the client makes a call of its own whose
outcome is their conjunction.

Both switches refine the hysteresis of `InTurbo`: the client on the outcomes since the last reset,
the issuer on the order results it has recorded, as long as it has counted no failure. Without a
late block since the last reset these are the same list (`recordedSinceReset_eq`), so the two modes
agree; after a late block the issuer is in `Full` (`issuer_refines_client`).
-/

namespace OpenTTT

open Roughtime.AdaptiveSwitch (failures sinceReset recordedSinceReset)

/-- An event at both switches. The client's switch has the tolerance `T`; the outcome of its call
is part of the event. -/
inductive SwitchEvent (T : Option Binary64)
  | reset
  | block (orderOk timeOk : Bool) (call : AdaptiveSwitch.VerifyCall)
    (outcome_eq : AdaptiveSwitch.outcome ((AdaptiveSwitch.new T).toleranceFor call.tier) call =
      (orderOk && timeOk))

namespace SwitchEvent

variable {T : Option Binary64}

/-- What the issuer's switch is told. -/
def issuerOp : SwitchEvent T → Roughtime.AdaptiveSwitch.Op
  | .reset => .reset
  | .block orderOk timeOk _ _ => .verifyBlock orderOk timeOk true

/-- What the client's switch does. -/
def clientStep (s : AdaptiveSwitch) : SwitchEvent T → Option AdaptiveMode × AdaptiveSwitch
  | .reset => (none, s.reset)
  | .block _ _ call _ => ((s.verifyBlock call).1, (s.verifyBlock call).2)

/-- A block whose time result is negative. -/
def late : SwitchEvent T → Bool
  | .reset => false
  | .block _ timeOk _ _ => !timeOk

def isBlock : SwitchEvent T → Bool
  | .reset => false
  | .block _ _ _ _ => true

/-- The outcome of a block. -/
def outcome : SwitchEvent T → Option Bool
  | .reset => none
  | .block orderOk timeOk _ _ => some (orderOk && timeOk)

/-- The issuer's switch after a list of events. -/
def issuerAfter (tierToleranceMs : UInt64) (events : List (SwitchEvent T)) :
    Roughtime.AdaptiveSwitch :=
  (Roughtime.AdaptiveSwitch.new tierToleranceMs).after (events.map issuerOp)

/-- The client's switch after a list of events. -/
def clientAfter (events : List (SwitchEvent T)) : AdaptiveSwitch :=
  Mealy.after clientStep (AdaptiveSwitch.new T) events

/-- The events since the last reset. -/
def sinceLastReset (events : List (SwitchEvent T)) : List (SwitchEvent T) :=
  events.rtakeWhile isBlock

/-! ## The client refines the hysteresis -/

theorem sinceLastReset_reset (events : List (SwitchEvent T)) :
    sinceLastReset (events ++ [.reset]) = [] :=
  List.rtakeWhile_concat_neg _ _ _ (by simp [isBlock])

theorem sinceLastReset_block (events : List (SwitchEvent T)) {e : SwitchEvent T}
    (h : e.isBlock = true) : sinceLastReset (events ++ [e]) = sinceLastReset events ++ [e] :=
  List.rtakeWhile_concat_pos _ _ _ h

/-- One event keeps the invariant of the client's switch and its tolerance. -/
theorem client_step {events : List (SwitchEvent T)} {s : AdaptiveSwitch}
    (h : AdaptiveSwitch.Inv ((sinceLastReset events).filterMap outcome) s ∧
      s.tolerance = (AdaptiveSwitch.new T).tolerance) (e : SwitchEvent T) :
    AdaptiveSwitch.Inv ((sinceLastReset (events ++ [e])).filterMap outcome) (clientStep s e).2 ∧
      (clientStep s e).2.tolerance = (AdaptiveSwitch.new T).tolerance := by
  obtain ⟨hinv, htol⟩ := h
  cases e with
  | reset =>
    rw [sinceLastReset_reset]
    exact ⟨AdaptiveSwitch.inv_reset s, htol⟩
  | block orderOk timeOk call outcome_eq =>
    have hok : s.sequenceOk call = (orderOk && timeOk) := by
      rw [AdaptiveSwitch.sequenceOk_eq, ← outcome_eq]
      simp only [AdaptiveSwitch.toleranceFor, htol]
    rw [sinceLastReset_block events rfl, List.filterMap_append]
    change AdaptiveSwitch.Inv _ (s.record (s.sequenceOk call)).2 ∧
      (s.record (s.sequenceOk call)).2.tolerance = _
    rw [hok]
    exact ⟨hinv.record _, (AdaptiveSwitch.tolerance_record s _).trans htol⟩

theorem client_inv (events : List (SwitchEvent T)) :
    AdaptiveSwitch.Inv ((sinceLastReset events).filterMap outcome) (clientAfter events) :=
  (Mealy.invariant_history clientStep (P := fun events s =>
    AdaptiveSwitch.Inv ((sinceLastReset events).filterMap outcome) s ∧
      s.tolerance = (AdaptiveSwitch.new T).tolerance)
    (fun _ e _ h => client_step h e) ⟨AdaptiveSwitch.inv_new T, rfl⟩ events).1

/-! ## The issuer sees the same outcomes -/

/-- The issuer fails exactly the late blocks. -/
theorem fails_issuerOp (e : SwitchEvent T) : e.issuerOp.fails = e.late := by
  cases e with
  | reset => rfl
  | block orderOk timeOk call h => simp [issuerOp, late, Roughtime.AdaptiveSwitch.Op.fails]

theorem issuerOp_ne_reset (e : SwitchEvent T) :
    decide (e.issuerOp ≠ .reset) = e.isBlock := by
  cases e <;> simp [issuerOp, isBlock]

theorem sinceReset_map_issuerOp (events : List (SwitchEvent T)) :
    sinceReset (events.map issuerOp) = (sinceLastReset events).map issuerOp := by
  rw [sinceReset, sinceLastReset, List.rtakeWhile, List.rtakeWhile, ← List.map_reverse,
    List.takeWhile_map, List.map_reverse]
  congr 3
  funext e
  exact issuerOp_ne_reset e

theorem failures_map_issuerOp (events : List (SwitchEvent T)) :
    failures (events.map issuerOp) = events.countP late := by
  rw [failures, List.countP_map]
  congr 1
  funext e
  exact fails_issuerOp e

/-- Without a late block since the last reset, the issuer has recorded the outcomes of the
client. -/
theorem recordedSinceReset_eq {events : List (SwitchEvent T)}
    (h : ∀ e ∈ sinceLastReset events, e.late = false) :
    recordedSinceReset (events.map issuerOp) = (sinceLastReset events).filterMap outcome := by
  rw [recordedSinceReset, sinceReset_map_issuerOp, List.filterMap_map]
  refine List.filterMap_congr fun e he => ?_
  have hlate := h e he
  cases e with
  | reset => rfl
  | block orderOk timeOk call outcome_eq =>
    have htime : timeOk = true := by simpa [late] using hlate
    subst htime
    simp [issuerOp, outcome, Roughtime.AdaptiveSwitch.Op.recorded]

/-- The mode of the issuer, in the words of the client. -/
def clientMode : Roughtime.AdaptiveMode → AdaptiveMode
  | .Turbo => .TURBO
  | .Full => .FULL

/-- Without a late block since the last reset, the two modes are equal. -/
theorem modes_eq (tierToleranceMs : UInt64) {events : List (SwitchEvent T)}
    (h : ∀ e ∈ sinceLastReset events, e.late = false) :
    (clientAfter events).currentMode = clientMode (issuerAfter tierToleranceMs events).mode := by
  have hclient := (client_inv events).mode
  have hissuer := Roughtime.AdaptiveSwitch.inv_after tierToleranceMs (events.map issuerOp)
  have hzero : failures (sinceReset (events.map issuerOp)) = 0 := by
    rw [sinceReset_map_issuerOp, failures_map_issuerOp, List.countP_eq_zero]
    intro e he
    simp [h e he]
  have hmode := hissuer.hysteresis hzero
  rw [recordedSinceReset_eq h, ← hclient] at hmode
  change (issuerAfter tierToleranceMs events).mode = .Turbo ↔ _ at hmode
  cases hi : (issuerAfter tierToleranceMs events).mode with
  | Turbo => exact hmode.1 hi
  | Full =>
    cases hc : (clientAfter events).currentMode with
    | TURBO => exact Roughtime.AdaptiveMode.noConfusion (hi.symm.trans (hmode.2 hc))
    | FULL => rfl

/-- In `Turbo` the issuer has seen no late block since the last reset. -/
theorem no_late_of_turbo (tierToleranceMs : UInt64) {events : List (SwitchEvent T)}
    (hfew : events.countP late < 2 ^ 32)
    (hturbo : (issuerAfter tierToleranceMs events).mode = .Turbo) :
    ∀ e ∈ sinceLastReset events, e.late = false := by
  have hissuer := Roughtime.AdaptiveSwitch.inv_after tierToleranceMs (events.map issuerOp)
  have hzero := hissuer.failures_eq_zero (by rwa [failures_map_issuerOp]) hturbo
  rw [sinceReset_map_issuerOp, failures_map_issuerOp, List.countP_eq_zero] at hzero
  intro e he
  simpa using hzero e he

end SwitchEvent

open SwitchEvent in
/-- **The issuer's switch refines the client's one**: after every sequence of events with fewer
than `2 ^ 32` late blocks, the client is in `TURBO` if the issuer is in `Turbo`, and the two modes
are equal if no block since the last reset was late. -/
theorem issuer_refines_client (tierToleranceMs : UInt64) (T : Option Binary64)
    (events : List (SwitchEvent T)) (hfew : events.countP late < 2 ^ 32) :
    ((issuerAfter tierToleranceMs events).mode = .Turbo →
      (clientAfter events).currentMode = .TURBO) ∧
    ((∀ e ∈ sinceLastReset events, e.late = false) →
      (clientAfter events).currentMode = clientMode (issuerAfter tierToleranceMs events).mode) := by
  refine ⟨fun hturbo => ?_, modes_eq tierToleranceMs⟩
  rw [modes_eq tierToleranceMs (no_late_of_turbo tierToleranceMs hfew hturbo), hturbo]
  rfl

namespace SwitchEvent

/-- An empty block at the recorded time. -/
def punctual : SwitchEvent none :=
  .block true true ⟨⟨.finite 0, []⟩, ⟨.finite 0, []⟩, none⟩ (by decide +kernel)

/-- An empty block a second after the recorded time. -/
def delayed : SwitchEvent none :=
  .block true false ⟨⟨.finite 1000, []⟩, ⟨.finite 0, []⟩, none⟩ (by decide +kernel)

end SwitchEvent

open SwitchEvent in
/-- The two switches after a late block, a reset and 20 punctual blocks. -/
theorem issuer_refines_client_after_reset :
    (clientAfter (delayed :: .reset :: List.replicate 20 punctual)).currentMode = .TURBO :=
  (issuer_refines_client 100 none (delayed :: .reset :: List.replicate 20 punctual)
    (by decide)).1 (by decide +kernel)

end OpenTTT
