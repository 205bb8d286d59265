import OpenTTT.Runtime.Json
import OpenTTT.Switch.TypeScript

/-!
# A switch that is written and read back

`serialize` and `deserialize` of `adaptive_switch.ts`. `deserialize` takes any text; one whose
fields do not have their types gives a switch that the class excludes, and `untypedField` stands for
it.

JSON has no text for the infinities and for `NaN`. A tolerance that is one of them is written as
`null`, and read as the default of 100 milliseconds. `persists_iff` says that the switches with
these tolerances are those that do not behave as before: after a reset, twenty blocks whose times
differ by something between the two tolerances tell.
-/

namespace OpenTTT

namespace AdaptiveSwitch

/-! ## Text -/

/-- The value of an enumerator. -/
def modeText : AdaptiveMode → String
  | .TURBO => "TURBO"
  | .FULL => "FULL"

def toJs (self : AdaptiveSwitch) : JsValue :=
  .object [("history", .array (self.history.map .boolean)),
    ("currentMode", .string (modeText self.currentMode)),
    ("consecutiveFailures", .number (.ofNat self.consecutiveFailures)),
    ("penaltyCooldown", .number (.ofNat self.penaltyCooldown)),
    ("tolerance", .number self.tolerance)]

def serialize (self : AdaptiveSwitch) : Except Thrown String := self.toJs.stringify none

/-- Why a text does not become a switch. -/
inductive RestoreError
  | thrown (e : Thrown)
  /-- A field would not have its type. -/
  | untypedField
  deriving DecidableEq

def asBoolean : JsValue → Except RestoreError Bool
  | .boolean b => .ok b
  | _ => .error .untypedField

def asHistory : Option JsValue → Except RestoreError (List Bool)
  | some (.array elements) => elements.mapM asBoolean
  | _ => .error .untypedField

def asMode : Option JsValue → Except RestoreError AdaptiveMode
  | some (.string text) =>
    if text = modeText .TURBO then .ok .TURBO
    else if text = modeText .FULL then .ok .FULL
    else .error .untypedField
  | _ => .error .untypedField

def asCounter : Option JsValue → Except RestoreError ℕ
  | some (.number x) =>
    match x.toInt? with
    | some z => if 0 ≤ z then .ok z.toNat else .error .untypedField
    | none => .error .untypedField
  | _ => .error .untypedField

/-- `data.tolerance ?? 100`. -/
def asTolerance : Option JsValue → Except RestoreError Binary64
  | none | some .null => .ok (.finite 100)
  | some (.number x) => .ok x
  | some _ => .error .untypedField

/-- A property of the data that is read. -/
def property (data : JsValue) (key : String) : Except RestoreError (Option JsValue) :=
  (data.get key).mapError .thrown

def deserialize (json : String) : Except RestoreError AdaptiveSwitch := do
  let data ← (JsValue.parse json).mapError .thrown
  let tolerance ← property data "tolerance" >>= asTolerance
  let restored := new (some tolerance)
  let history ← property data "history" >>= asHistory
  let currentMode ← property data "currentMode" >>= asMode
  let consecutiveFailures ← property data "consecutiveFailures" >>= asCounter
  let penaltyCooldown ← property data "penaltyCooldown" >>= asCounter
  .ok { restored with
    history := history, currentMode := currentMode, consecutiveFailures := consecutiveFailures,
    penaltyCooldown := penaltyCooldown }

/-! ## Operations -/

inductive Operation
  | verifyBlock (c : VerifyCall)
  | reset
  | getFeeDiscount

/-- What an operation returns. -/
inductive Result
  | mode (m : AdaptiveMode)
  | undefined
  | discount (x : Binary64)

def step (self : AdaptiveSwitch) : Operation → Result × AdaptiveSwitch
  | .verifyBlock c => (.mode (self.verifyBlock c).1, (self.verifyBlock c).2)
  | .reset => (.undefined, self.reset)
  | .getFeeDiscount => (.discount self.getFeeDiscount, self)

/-- The switch is written, read back, and behaves as before in all further operations. -/
def Persists (s : AdaptiveSwitch) : Prop :=
  ∃ json s', s.serialize = .ok json ∧ deserialize json = .ok s' ∧
    ∀ ops, Mealy.outputs step s' ops = Mealy.outputs step s ops

/-! ## What is read -/

/-- The tolerance that is read for one that was written. -/
def keptTolerance : Binary64 → Binary64
  | .finite q => .finite q
  | _ => .finite 100

/-- The tolerance as it is written. -/
def writtenTolerance : Binary64 → JsValue
  | .finite q => .number (.finite q)
  | _ => .null

/-- What is written of a switch. -/
def written (s : AdaptiveSwitch) : JsValue :=
  .object [("history", .array (s.history.map .boolean)),
    ("currentMode", .string (modeText s.currentMode)),
    ("consecutiveFailures", .number (.ofNat s.consecutiveFailures)),
    ("penaltyCooldown", .number (.ofNat s.penaltyCooldown)),
    ("tolerance", writtenTolerance s.tolerance)]

theorem serialize_eq (s : AdaptiveSwitch) : s.serialize = s.written.stringify none := by
  obtain ⟨history, mode, cooldown, failures, tolerance⟩ := s
  cases tolerance <;> rfl

theorem plain_counter {n : ℕ} (h : n < 2 ^ 53) : (JsValue.number (.ofNat n)).Plain := by
  rw [Binary64.ofNat_eq h]
  exact .number (Binary64.round_natCast h)

theorem plain_writtenTolerance (x : Number) : (writtenTolerance x.value).Plain := by
  obtain ⟨x, hx⟩ := x
  cases x with
  | finite q => exact .number (hx q rfl)
  | infinity negative => exact .null
  | nan => exact .null

theorem mapM_asBoolean (history : List Bool) :
    (history.map JsValue.boolean).mapM asBoolean = .ok history := by
  induction history with
  | nil => rfl
  | cons b history ih =>
    rw [List.map_cons, List.mapM_cons, ih]
    rfl

theorem asMode_modeText (mode : AdaptiveMode) :
    asMode (some (.string (modeText mode))) = .ok mode := by
  cases mode <;> decide

theorem asCounter_ofNat {n : ℕ} (h : n < 2 ^ 53) :
    asCounter (some (.number (.ofNat n))) = .ok n := by
  have hint : (Binary64.ofNat n).toInt? = some (n : ℤ) := by
    rw [Binary64.ofNat_eq h, Binary64.toInt?, Rat.den_natCast, if_pos rfl, Rat.num_natCast]
  rw [asCounter, hint]
  exact if_pos (Int.natCast_nonneg n)

theorem asTolerance_written (x : Binary64) :
    asTolerance (some (writtenTolerance x)) = .ok (keptTolerance x) := by
  cases x <;> rfl

/-- **The text of a switch is read back**, with the tolerance that is kept. -/
theorem deserialize_serialize {s : AdaptiveSwitch} (hfailures : s.consecutiveFailures < 2 ^ 53)
    (hcooldown : s.penaltyCooldown < 2 ^ 53) {tolerance : Number}
    (htolerance : s.tolerance = tolerance.value) :
    ∃ json, s.serialize = .ok json ∧
      deserialize json = .ok { s with tolerance := keptTolerance s.tolerance } := by
  have hplain : s.written.Plain := by
    refine .object (by simp) ?_
    have hhistory : (JsValue.array (s.history.map .boolean)).Plain := by
      refine .array fun v hv => ?_
      obtain ⟨b, -, rfl⟩ := List.mem_map.1 hv
      exact .boolean b
    simp only [List.forall_mem_cons]
    exact ⟨hhistory, .string _, plain_counter hfailures, plain_counter hcooldown,
      htolerance ▸ plain_writtenTolerance tolerance, by simp⟩
  obtain ⟨json, hjson, hparse⟩ := bind_eq_ok.1 (JsValue.parse_stringify_plain hplain)
  refine ⟨json, (serialize_eq s).trans hjson, ?_⟩
  have htol : (property s.written "tolerance" >>= asTolerance) =
      .ok (keptTolerance s.tolerance) := asTolerance_written s.tolerance
  have hhistory : (property s.written "history" >>= asHistory) = .ok s.history :=
    mapM_asBoolean s.history
  have hmode : (property s.written "currentMode" >>= asMode) = .ok s.currentMode :=
    asMode_modeText s.currentMode
  have hfail : (property s.written "consecutiveFailures" >>= asCounter) =
      .ok s.consecutiveFailures := asCounter_ofNat hfailures
  have hcool : (property s.written "penaltyCooldown" >>= asCounter) = .ok s.penaltyCooldown :=
    asCounter_ofNat hcooldown
  simp only [deserialize, hparse, Except.mapError, ok_bind, htol, hhistory, hmode, hfail, hcool]
  rfl

/-! ## Runs -/

/-- The tolerance of a switch that is constructed with an option. -/
def constructed (tolerance : Option Number) : Number := tolerance.getD (.ofNat 100 (by norm_num))

/-- What holds of every switch that operations lead to. -/
structure Kept (tolerance : Number) (s : AdaptiveSwitch) : Prop where
  cooldown : s.penaltyCooldown = 0
  failures : s.consecutiveFailures = 0
  tolerance : s.tolerance = tolerance.value

theorem kept_new (tolerance : Option Number) :
    Kept (constructed tolerance) (new (tolerance.map Number.value)) := by
  refine ⟨rfl, rfl, ?_⟩
  cases tolerance <;> rfl

theorem Kept.step {tolerance : Number} {s : AdaptiveSwitch} (h : Kept tolerance s)
    (op : Operation) : Kept tolerance (step s op).2 := by
  obtain ⟨hcooldown, hfailures, htolerance⟩ := h
  cases op with
  | verifyBlock c =>
    have hcool : s.penaltyCooldown - 1 = 0 := by rw [hcooldown]
    simp only [AdaptiveSwitch.step, verifyBlock, record]
    split
    · exact ⟨hcool, rfl, htolerance⟩
    · exact ⟨hcool, hfailures, htolerance⟩
  | reset => exact ⟨rfl, rfl, htolerance⟩
  | getFeeDiscount => exact ⟨hcooldown, hfailures, htolerance⟩

theorem kept_after (tolerance : Option Number) (ops : List Operation) :
    Kept (constructed tolerance) (Mealy.after step (new (tolerance.map Number.value)) ops) :=
  Mealy.invariant_history step (P := fun _ s => Kept (constructed tolerance) s)
    (fun _ op _ h => h.step op) (kept_new tolerance) ops

/-! ## A difference shows -/

theorem mode_record (s : AdaptiveSwitch) (ok : Bool) :
    (s.record ok).1 = (s.record ok).2.currentMode := by
  simp only [record]
  split <;> rfl

theorem after_verifyBlock (s : AdaptiveSwitch) (calls : List VerifyCall) :
    Mealy.after step s (calls.map .verifyBlock) = Mealy.after verifyBlock s calls := by
  induction calls generalizing s with
  | nil => rfl
  | cons c calls ih => exact ih (s.verifyBlock c).2

/-- Switches that behave alike have the same mode after a reset and some blocks. -/
theorem mode_eq_of_outputs {s t : AdaptiveSwitch}
    (h : ∀ ops, Mealy.outputs step s ops = Mealy.outputs step t ops) (calls : List VerifyCall)
    (c : VerifyCall) :
    (Mealy.after verifyBlock s.reset (calls ++ [c])).currentMode =
      (Mealy.after verifyBlock t.reset (calls ++ [c])).currentMode := by
  have hout := Mealy.output_eq_of_outputs_concat step
    (h (.reset :: calls.map .verifyBlock ++ [.verifyBlock c]))
  rw [Mealy.after_concat, Mealy.after_concat, verifyBlock, verifyBlock, ← mode_record,
    ← mode_record]
  rw [Mealy.after_cons, Mealy.after_cons] at hout
  have hmode := Result.mode.inj hout
  rw [AdaptiveSwitch.step, AdaptiveSwitch.step, after_verifyBlock, after_verifyBlock] at hmode
  exact hmode

/-- Twenty blocks with the same outcome. -/
theorem inTurbo_replicate (ok : Bool) : InTurbo (List.replicate 20 ok) ↔ ok = true := by
  rw [inTurbo_iff]
  cases ok with
  | true =>
    refine iff_of_true ⟨20, le_rfl, le_rfl, by decide, fun j hj hle => ?_⟩ rfl
    rw [List.length_replicate] at hle
    obtain rfl : j = 20 := by omega
    decide
  | false =>
    refine iff_of_false ?_ Bool.false_ne_true
    rintro ⟨k, -, -, hcount, -⟩
    rw [List.take_replicate, List.drop_replicate, List.count_replicate] at hcount
    simp at hcount

/-- After a reset, the mode tells the outcome of twenty calls. -/
theorem mode_after_replicate (s : AdaptiveSwitch) {c : VerifyCall} (hc : c.tier = none) :
    (Mealy.after verifyBlock s.reset (List.replicate 20 c)).currentMode = .TURBO ↔
      outcome s.tolerance c = true := by
  have htolerance : s.reset.toleranceFor c.tier = s.tolerance := by
    rw [hc]
    rfl
  rw [((inv_reset s).after (List.replicate 20 c)).1.mode, List.map_replicate, inTurbo_replicate,
    htolerance]

/-- A block without transactions, some milliseconds after its record. -/
def blockAfter (difference : ℚ) : VerifyCall :=
  ⟨⟨.finite difference, []⟩, ⟨.finite 0, []⟩, none⟩

/-- A tolerance that is not kept differs from the one that is read instead in the outcome of a
block. -/
theorem exists_outcome_ne {tolerance : Binary64} (h : ∀ q, tolerance ≠ .finite q) :
    ∃ c : VerifyCall, c.tier = none ∧
      outcome (keptTolerance tolerance) c ≠ outcome tolerance c := by
  cases tolerance with
  | finite q => exact absurd rfl (h q)
  | infinity negative =>
    cases negative with
    | true => exact ⟨blockAfter 0, rfl, by decide +kernel⟩
    | false => exact ⟨blockAfter 200, rfl, by decide +kernel⟩
  | nan => exact ⟨blockAfter 0, rfl, by decide +kernel⟩

/-- A switch whose tolerance is finite is read back as it is. -/
theorem Kept.persists {tolerance : Number} {s : AdaptiveSwitch} (h : Kept tolerance s) {q : ℚ}
    (hq : tolerance.value = .finite q) : Persists s := by
  obtain ⟨json, hjson, hread⟩ := deserialize_serialize (by rw [h.failures]; norm_num)
    (by rw [h.cooldown]; norm_num) h.tolerance
  have hsame : keptTolerance s.tolerance = s.tolerance := by
    rw [h.tolerance, hq]
    rfl
  rw [hsame] at hread
  exact ⟨json, s, hjson, hread, fun ops => rfl⟩

/-- A switch that persists has a finite tolerance. -/
theorem Kept.finite_of_persists {tolerance : Number} {s : AdaptiveSwitch} (h : Kept tolerance s)
    (hpersists : Persists s) : ∃ q, tolerance.value = .finite q := by
  obtain ⟨json, s', hjson, hread, hsame⟩ := hpersists
  obtain ⟨json', hjson', hread'⟩ := deserialize_serialize (by rw [h.failures]; norm_num)
    (by rw [h.cooldown]; norm_num) h.tolerance
  rw [hjson] at hjson'
  cases hjson'
  rw [hread] at hread'
  cases hread'
  by_contra hforeign
  rw [not_exists] at hforeign
  obtain ⟨c, hc, hne⟩ := exists_outcome_ne hforeign
  have hmode := mode_eq_of_outputs hsame (List.replicate 19 c) c
  rw [← List.replicate_succ'] at hmode
  have hread := mode_after_replicate { s with tolerance := keptTolerance s.tolerance } hc
  rw [hmode, mode_after_replicate s hc, ← Bool.eq_iff_iff] at hread
  rw [← h.tolerance] at hne
  exact hne hread.symm

/-- **When a switch persists**: after any operations, the switch that is read back behaves as the
one that was written if and only if the tolerance is neither `NaN` nor an infinity. -/
theorem persists_iff (tolerance : Option Number) (ops : List Operation) :
    Persists (Mealy.after step (new (tolerance.map Number.value)) ops) ↔
      ∀ t ∈ tolerance, ∃ q, t.value = .finite q := by
  have hkept := kept_after tolerance ops
  constructor
  · rintro hpersists t rfl
    exact hkept.finite_of_persists hpersists
  · intro hfinite
    cases tolerance with
    | none => exact hkept.persists (q := 100) rfl
    | some t =>
      obtain ⟨q, hq⟩ := hfinite t rfl
      exact hkept.persists hq

/-- Every switch persists, after any operations. -/
def AlwaysPersists : Prop :=
  ∀ (tolerance : Option Number) (ops : List Operation),
    Persists (Mealy.after step (new (tolerance.map Number.value)) ops)

/-- A switch that takes blocks at any time, as long as their order is right, forgets that it
does. -/
theorem not_alwaysPersists : ¬ AlwaysPersists := by
  intro h
  obtain ⟨q, hq⟩ := (kept_after (some ⟨.infinity false, nofun⟩) []).finite_of_persists
    (h (some ⟨.infinity false, nofun⟩) [])
  cases hq

end AdaptiveSwitch

end OpenTTT
