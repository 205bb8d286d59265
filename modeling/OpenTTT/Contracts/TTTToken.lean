import OpenTTT.Contracts.ERC20
import OpenTTT.Foundations.Transactions
import Mathlib.Algebra.BigOperators.Group.List.Basic

/-!
# The fungible token

`TTTToken.sol`, with the functions that it inherits from `ERC20`, `Ownable` and `Pausable`, which
are a parameter (`OpenZeppelin.ERC20Library`). A burn records its time, its hash and its tier under
the next id. `Effect` lists what a transaction that succeeds does to the supply and to the records,
and `effect_of_run` says that this is all; `ledger_invariants` follows for any transactions.
-/

namespace OpenTTT

namespace TTTToken

inductive ResolutionTier
  | T0_Epoch
  | T1_Block
  | T2_Slot
  | T3_Micro
  deriving DecidableEq

/-- `uint8(tier)`. -/
def ResolutionTier.uint8 : ResolutionTier → ℕ
  | .T0_Epoch => 0
  | .T1_Block => 1
  | .T2_Slot => 2
  | .T3_Micro => 3

structure TTTRecord where
  timestamp : Uint256
  grgHash : Bytes32
  tier : ResolutionTier
  builder : Address
  deriving DecidableEq

/-- What a mapping holds where nothing has been written. -/
def TTTRecord.empty : TTTRecord := ⟨0, Solidity.zeroBytes32, .T0_Epoch, 0⟩

open OpenZeppelin (ERC20Call ERC20Library)

section Functions

variable (lib : ERC20Library)

structure State where
  /-- The inherited variables. -/
  base : lib.Storage
  tierPrices : ResolutionTier → Uint256
  records : Uint256 → TTTRecord
  nextRecordId : Uint256

inductive Event
  | base (e : lib.Event)
  | TTTMinted (recipient : Address) (amount : Uint256) (grgHash potHash : Bytes32)
      (stratum : UInt8)
  | TTTBurned (sender : Address) (amount recordId : Uint256) (tier : ResolutionTier)
      (timestamp : Uint256)
  | PoTAnchored (timestamp : BitVec 64) (grgHash : Bytes32) (stratum : UInt8) (potHash : Bytes32)

inductive Error
  | base (e : lib.Error)
  /-- A `require` with its message. -/
  | require (message : String)
  /-- An operation that overflows. -/
  | overflow

variable {lib}

/-- `require(condition, message)`. -/
def require (condition : Prop) [Decidable condition] (message : String) : Except (Error lib) Unit :=
  if condition then .ok () else .error (.require message)

/-- The result of a checked operation. -/
def checked (result : Option Uint256) : Except (Error lib) Uint256 :=
  match result with
  | some value => .ok value
  | none => .error .overflow

/-- An inherited modifier. -/
def check (f : lib.Storage → Except lib.Error Unit) (s : State lib) : Except (Error lib) Unit :=
  (f s.base).mapError .base

/-- An inherited function, on the state of the contract. -/
def onBase (f : lib.Storage → Except lib.Error (lib.Storage × List lib.Event)) (s : State lib) :
    Except (Error lib) (State lib × List (Event lib)) := do
  let (base, events) ← (f s.base).mapError .base
  .ok ({ s with base }, events.map .base)

variable (lib)

/-- `n * 10**decimals()`. -/
def units (n : Uint256) (base : lib.Storage) : Except (Error lib) Uint256 :=
  checked ((Solidity.checkedPow 10 (lib.decimals base).toNat).bind (Solidity.checkedMul n))

/-- The first prices of the tiers. -/
def initialPrices (base : lib.Storage) : Except (Error lib) (ResolutionTier → Uint256) := do
  let one ← units lib 1 base
  let twentyFour ← units lib 24 base
  .ok fun tier =>
    match tier with
    | .T0_Epoch => one / 1000
    | .T1_Block => one / 100
    | .T2_Slot => twentyFour / 100
    | .T3_Micro => one / 10000

/-- The constructor. -/
def deploy (msgSender : Address) : Except (Error lib) (State lib × List (Event lib)) := do
  let (base, events) ← (lib.construct "TLS Time Token" "TTT" msgSender).mapError .base
  let supply ← units lib 10000000 base
  let (base, minted) ← (lib._mint msgSender supply base).mapError .base
  let tierPrices ← initialPrices lib base
  .ok (⟨base, tierPrices, fun _ => .empty, 0⟩, (events ++ minted).map .base)

variable {lib}

/-! ## The functions -/

def mint (msgSender : Address) (timestamp : Uint256) (recipient : Address) (amount : Uint256)
    (grgHash potHash : Bytes32) (stratum : UInt8) (s : State lib) :
    Except (Error lib) (State lib × List (Event lib)) := do
  check (lib.onlyOwner msgSender) s
  check lib.whenNotPaused s
  require (grgHash ≠ Solidity.zeroBytes32) "GRG hash cannot be zero"
  require (potHash ≠ Solidity.zeroBytes32) "PoT hash cannot be zero"
  let (s, events) ← onBase (lib._mint recipient amount) s
  .ok (s, events ++ [.TTTMinted recipient amount grgHash potHash stratum,
    .PoTAnchored (timestamp.setWidth 64) grgHash stratum potHash])

def burn (msgSender : Address) (timestamp : Uint256) (amount : Uint256) (grgHash : Bytes32)
    (tier : ResolutionTier) (s : State lib) :
    Except (Error lib) (State lib × List (Event lib)) := do
  check lib.whenNotPaused s
  require (tier.uint8 ≤ 3) "Invalid resolution tier"
  require (grgHash ≠ Solidity.zeroBytes32) "GRG hash cannot be zero"
  require (s.tierPrices tier ≤ amount) "Amount below tier price"
  let (s, events) ← onBase (lib._burn msgSender amount) s
  let records := Function.update s.records s.nextRecordId ⟨timestamp, grgHash, tier, msgSender⟩
  let nextRecordId ← checked (Solidity.checkedAdd s.nextRecordId 1)
  .ok ({ s with records, nextRecordId },
    events ++ [.TTTBurned msgSender amount s.nextRecordId tier timestamp])

def setTierPrice (msgSender : Address) (tier : ResolutionTier) (price : Uint256) (s : State lib) :
    Except (Error lib) (State lib × List (Event lib)) := do
  check (lib.onlyOwner msgSender) s
  require (tier.uint8 ≤ 3) "Invalid resolution tier"
  .ok ({ s with tierPrices := Function.update s.tierPrices tier price }, [])

def pause (msgSender : Address) (s : State lib) :
    Except (Error lib) (State lib × List (Event lib)) := do
  check (lib.onlyOwner msgSender) s
  onBase (lib._pause msgSender) s

def unpause (msgSender : Address) (s : State lib) :
    Except (Error lib) (State lib × List (Event lib)) := do
  check (lib.onlyOwner msgSender) s
  onBase (lib._unpause msgSender) s

/-- The functions that change the state. -/
inductive Call
  | mint (recipient : Address) (amount : Uint256) (grgHash potHash : Bytes32) (stratum : UInt8)
  | burn (amount : Uint256) (grgHash : Bytes32) (tier : ResolutionTier)
  | setTierPrice (tier : ResolutionTier) (price : Uint256)
  | pause
  | unpause
  | inherited (call : ERC20Call)

/-- A transaction, at the time of its block. -/
structure Transaction where
  msgSender : Address
  timestamp : Uint256
  call : Call

def run (t : Transaction) (s : State lib) : Except (Error lib) (State lib × List (Event lib)) :=
  match t.call with
  | .mint recipient amount grgHash potHash stratum =>
    mint t.msgSender t.timestamp recipient amount grgHash potHash stratum s
  | .burn amount grgHash tier => burn t.msgSender t.timestamp amount grgHash tier s
  | .setTierPrice tier price => setTierPrice t.msgSender tier price s
  | .pause => pause t.msgSender s
  | .unpause => unpause t.msgSender s
  | .inherited call => onBase (lib.inherited t.msgSender call) s

end Functions

/-! ## What a transaction does -/

/-- What a call mints when it succeeds. -/
def Call.minted : Call → ℕ
  | .mint _ amount _ _ _ => amount.toNat
  | _ => 0

/-- What a call burns when it succeeds. -/
def Call.burned : Call → ℕ
  | .burn amount _ _ => amount.toNat
  | _ => 0

def Call.isBurn : Call → Bool
  | .burn _ _ _ => true
  | _ => false

/-- The calls that change the supply. -/
def Call.changesSupply : Call → Bool
  | .mint _ _ _ _ _ | .burn _ _ _ => true
  | _ => false

section Effects

variable {lib : ERC20Library}

def State.totalSupply (s : State lib) : ℕ := (lib.totalSupply s.base).toNat

def State.paused (s : State lib) : Bool := lib.paused s.base

/-- The supply, the records and the next id are the same. -/
structure SameLedger (s s' : State lib) : Prop where
  totalSupply : s'.totalSupply = s.totalSupply
  records : s'.records = s.records
  nextRecordId : s'.nextRecordId = s.nextRecordId

/-- **What a transaction that succeeds does** to the supply and to the records. -/
inductive Effect (t : Transaction) (s s' : State lib) : Prop
  | mint {recipient : Address} {amount : Uint256} {grgHash potHash : Bytes32} {stratum : UInt8}
      (call : t.call = .mint recipient amount grgHash potHash stratum) (running : s.paused = false)
      (totalSupply : s'.totalSupply = s.totalSupply + amount.toNat)
      (records : s'.records = s.records) (nextRecordId : s'.nextRecordId = s.nextRecordId)
  | burn {amount : Uint256} {grgHash : Bytes32} {tier : ResolutionTier}
      (call : t.call = .burn amount grgHash tier) (running : s.paused = false)
      (hash : grgHash ≠ Solidity.zeroBytes32) (price : s.tierPrices tier ≤ amount)
      (totalSupply : s'.totalSupply + amount.toNat = s.totalSupply)
      (records : s'.records =
        Function.update s.records s.nextRecordId ⟨t.timestamp, grgHash, tier, t.msgSender⟩)
      (nextRecordId : s'.nextRecordId.toNat = s.nextRecordId.toNat + 1)
  | other (call : t.call.changesSupply = false) (same : SameLedger s s')

theorem require_ok {condition : Prop} [Decidable condition] {message : String}
    (h : (require condition message : Except (Error lib) Unit) = .ok ()) : condition := by
  unfold require at h
  split at h
  · assumption
  · cases h

theorem checked_ok {result : Option Uint256} {value : Uint256}
    (h : (checked result : Except (Error lib) Uint256) = .ok value) : result = some value := by
  cases result with
  | none => cases h
  | some v =>
    cases h
    rfl

theorem check_ok {f : lib.Storage → Except lib.Error Unit} {s : State lib}
    (h : check f s = .ok ()) : f s.base = .ok () :=
  mapError_eq_ok.1 h

variable {s s' : State lib} {events : List (Event lib)}

/-- What an inherited function does to the state of the contract. -/
theorem onBase_ok {f : lib.Storage → Except lib.Error (lib.Storage × List lib.Event)}
    (h : onBase f s = .ok (s', events)) :
    ∃ base events', f s.base = .ok (base, events') ∧ s' = { s with base } := by
  obtain ⟨⟨base, events'⟩, hbase, h⟩ := bind_eq_ok.1 h
  cases h
  exact ⟨base, events', mapError_eq_ok.1 hbase, rfl⟩

/-- An inherited function that keeps the supply. -/
theorem onBase_same {f : lib.Storage → Except lib.Error (lib.Storage × List lib.Event)}
    (hf : ∀ {base base' events}, f base = .ok (base', events) →
      lib.totalSupply base' = lib.totalSupply base)
    (h : onBase f s = .ok (s', events)) : SameLedger s s' := by
  obtain ⟨base, events', hbase, rfl⟩ := onBase_ok h
  exact ⟨congrArg BitVec.toNat (hf hbase), rfl, rfl⟩

theorem mint_ok (hlib : lib.Documented) {msgSender : Address} {timestamp : Uint256}
    {recipient : Address} {amount : Uint256} {grgHash potHash : Bytes32} {stratum : UInt8}
    (h : mint msgSender timestamp recipient amount grgHash potHash stratum s = .ok (s', events)) :
    s.paused = false ∧ s'.totalSupply = s.totalSupply + amount.toNat ∧
      s'.records = s.records ∧ s'.nextRecordId = s.nextRecordId := by
  unfold mint at h
  obtain ⟨_, -, h⟩ := bind_eq_ok.1 h
  obtain ⟨_, hrunning, h⟩ := bind_eq_ok.1 h
  obtain ⟨_, -, h⟩ := bind_eq_ok.1 h
  obtain ⟨_, -, h⟩ := bind_eq_ok.1 h
  obtain ⟨⟨s₁, events₁⟩, hbase, h⟩ := bind_eq_ok.1 h
  cases h
  obtain ⟨base, events', hmint, rfl⟩ := onBase_ok hbase
  exact ⟨hlib.whenNotPaused (check_ok hrunning), hlib._mint hmint, rfl, rfl⟩

theorem burn_ok (hlib : lib.Documented) {msgSender : Address} {timestamp amount : Uint256}
    {grgHash : Bytes32} {tier : ResolutionTier}
    (h : burn msgSender timestamp amount grgHash tier s = .ok (s', events)) :
    s.paused = false ∧ grgHash ≠ Solidity.zeroBytes32 ∧ s.tierPrices tier ≤ amount ∧
      s'.totalSupply + amount.toNat = s.totalSupply ∧
      s'.records =
        Function.update s.records s.nextRecordId ⟨timestamp, grgHash, tier, msgSender⟩ ∧
      s'.nextRecordId.toNat = s.nextRecordId.toNat + 1 := by
  unfold burn at h
  obtain ⟨_, hrunning, h⟩ := bind_eq_ok.1 h
  obtain ⟨_, -, h⟩ := bind_eq_ok.1 h
  obtain ⟨_, hhash, h⟩ := bind_eq_ok.1 h
  obtain ⟨_, hprice, h⟩ := bind_eq_ok.1 h
  obtain ⟨⟨s₁, events₁⟩, hbase, h⟩ := bind_eq_ok.1 h
  obtain ⟨base, events', hburn, rfl⟩ := onBase_ok hbase
  obtain ⟨nextRecordId, hnext, h⟩ := bind_eq_ok.1 h
  cases h
  exact ⟨hlib.whenNotPaused (check_ok hrunning), require_ok hhash, require_ok hprice,
    hlib._burn hburn, rfl, Solidity.checkedAdd_eq_some (checked_ok hnext)⟩

theorem setTierPrice_ok {msgSender : Address} {tier : ResolutionTier} {price : Uint256}
    (h : setTierPrice msgSender tier price s = .ok (s', events)) : SameLedger s s' := by
  unfold setTierPrice at h
  obtain ⟨_, -, h⟩ := bind_eq_ok.1 h
  obtain ⟨_, -, h⟩ := bind_eq_ok.1 h
  cases h
  exact ⟨rfl, rfl, rfl⟩

/-- **A transaction that succeeds** has one of the effects. -/
theorem effect_of_run (hlib : lib.Documented) {t : Transaction} (h : run t s = .ok (s', events)) :
    Effect t s s' := by
  unfold run at h
  cases hcall : t.call with
  | mint recipient amount grgHash potHash stratum =>
    rw [hcall] at h
    obtain ⟨hrunning, hsupply, hrecords, hnext⟩ := mint_ok hlib h
    exact .mint hcall hrunning hsupply hrecords hnext
  | burn amount grgHash tier =>
    rw [hcall] at h
    obtain ⟨hrunning, hhash, hprice, hsupply, hrecords, hnext⟩ := burn_ok hlib h
    exact .burn hcall hrunning hhash hprice hsupply hrecords hnext
  | setTierPrice tier price =>
    rw [hcall] at h
    exact .other (congrArg Call.changesSupply hcall) (setTierPrice_ok h)
  | pause =>
    rw [hcall] at h
    obtain ⟨_, -, h⟩ := bind_eq_ok.1 h
    exact .other (congrArg Call.changesSupply hcall) (onBase_same hlib._pause h)
  | unpause =>
    rw [hcall] at h
    obtain ⟨_, -, h⟩ := bind_eq_ok.1 h
    exact .other (congrArg Call.changesSupply hcall) (onBase_same hlib._unpause h)
  | inherited call =>
    rw [hcall] at h
    exact .other (congrArg Call.changesSupply hcall) (onBase_same hlib.inherited h)

end Effects

/-! ## What transactions do -/

section Ledgers

variable {lib : ERC20Library}

/-- **The ledger after the transactions that succeeded**: the supply is that of the start with what
was minted and without what was burned, the next id is the number of burns, and the records below it
are those with a hash. -/
structure Ledger (ts : List Transaction) (s : State lib) : Prop where
  totalSupply : s.totalSupply + (ts.map fun t => t.call.burned).sum =
    10000000 * 10 ^ 18 + (ts.map fun t => t.call.minted).sum
  nextRecordId : s.nextRecordId.toNat = ts.countP fun t => t.call.isBurn
  written : ∀ i, i.toNat < s.nextRecordId.toNat → (s.records i).grgHash ≠ Solidity.zeroBytes32
  unwritten : ∀ i, s.nextRecordId.toNat ≤ i.toNat → s.records i = .empty

/-- Ten million tokens of 18 decimals. -/
theorem units_ok (hlib : lib.Documented) {base : lib.Storage} {supply : Uint256}
    (h : units lib 10000000 base = .ok supply) : supply.toNat = 10000000 * 10 ^ 18 := by
  have hsupply := checked_ok h
  rw [hlib.decimals] at hsupply
  have hvalue : (Solidity.checkedPow 10 (18 : UInt8).toNat).bind (Solidity.checkedMul 10000000) =
      some (BitVec.ofNat 256 (10000000 * 10 ^ 18)) := by decide
  rw [← Option.some.inj (hvalue.symm.trans hsupply)]
  decide

theorem ledger_deploy (hlib : lib.Documented) {msgSender : Address} {s : State lib}
    {events : List (Event lib)} (h : deploy lib msgSender = .ok (s, events)) : Ledger [] s := by
  unfold deploy at h
  obtain ⟨⟨base, constructed⟩, hconstruct, h⟩ := bind_eq_ok.1 h
  obtain ⟨supply, hunits, h⟩ := bind_eq_ok.1 h
  obtain ⟨⟨base', minted⟩, hmint, h⟩ := bind_eq_ok.1 h
  obtain ⟨tierPrices, -, h⟩ := bind_eq_ok.1 h
  cases h
  have hzero := hlib.construct (mapError_eq_ok.1 hconstruct)
  have hsupply := hlib._mint (mapError_eq_ok.1 hmint)
  rw [hzero, units_ok hlib hunits] at hsupply
  exact
    { totalSupply := by
        rw [State.totalSupply, hsupply]
        rfl
      nextRecordId := rfl
      written := fun i h => absurd h (Nat.not_lt_zero _)
      unwritten := fun _ _ => rfl }

theorem Call.of_changesSupply {c : Call} (h : c.changesSupply = false) :
    c.minted = 0 ∧ c.burned = 0 ∧ c.isBurn = false := by
  cases c <;> first | exact ⟨rfl, rfl, rfl⟩ | cases h

theorem sum_concat (f : Transaction → ℕ) (ts : List Transaction) (t : Transaction) :
    ((ts ++ [t]).map f).sum = (ts.map f).sum + f t := by
  rw [List.map_append, List.sum_append, List.map_singleton, List.sum_singleton]

theorem countP_concat (ts : List Transaction) (t : Transaction) :
    (ts ++ [t]).countP (fun t => t.call.isBurn) =
      ts.countP (fun t => t.call.isBurn) + if t.call.isBurn then 1 else 0 := by
  rw [List.countP_append, List.countP_singleton]

/-- A transaction that succeeds keeps the ledger. -/
theorem Ledger.effect {ts : List Transaction} {t : Transaction} {s s' : State lib}
    (hs : Ledger ts s) (h : Effect t s s') : Ledger (ts ++ [t]) s' := by
  obtain ⟨hsupply, hnext, hwritten, hunwritten⟩ := hs
  cases h with
  | mint hcall _ hsupply' hrecords hnext' =>
    have hminted : t.call.minted = _ := congrArg Call.minted hcall
    have hburned : t.call.burned = 0 := congrArg Call.burned hcall
    have hburn : t.call.isBurn = false := congrArg Call.isBurn hcall
    refine ⟨?_, ?_, ?_, ?_⟩
    · rw [sum_concat, sum_concat, hminted, hburned, hsupply', Call.minted]
      omega
    · rw [countP_concat, hburn, hnext', hnext]
      rfl
    · rw [hnext', hrecords]
      exact hwritten
    · rw [hnext', hrecords]
      exact hunwritten
  | burn hcall _ hhash _ hsupply' hrecords hnext' =>
    have hminted : t.call.minted = 0 := congrArg Call.minted hcall
    have hburned : t.call.burned = _ := congrArg Call.burned hcall
    have hburn : t.call.isBurn = true := congrArg Call.isBurn hcall
    refine ⟨?_, ?_, fun i hi => ?_, fun i hi => ?_⟩
    · rw [sum_concat, sum_concat, hminted, hburned, Call.burned]
      omega
    · rw [countP_concat, hburn, hnext', hnext]
      rfl
    · rw [hrecords]
      by_cases hnew : i = s.nextRecordId
      · rw [hnew, Function.update_self]
        exact hhash
      · have hne : i.toNat ≠ s.nextRecordId.toNat := fun h => hnew (BitVec.eq_of_toNat_eq h)
        rw [Function.update_of_ne hnew]
        exact hwritten i (by omega)
    · have hne : i ≠ s.nextRecordId := by
        rintro rfl
        omega
      rw [hrecords, Function.update_of_ne hne]
      exact hunwritten i (by omega)
  | other hcall hsame =>
    obtain ⟨hminted, hburned, hburn⟩ := Call.of_changesSupply hcall
    obtain ⟨hsupply', hrecords, hnext'⟩ := hsame
    refine ⟨?_, ?_, ?_, ?_⟩
    · rw [sum_concat, sum_concat, hminted, hburned, hsupply']
      omega
    · rw [countP_concat, hburn, hnext', hnext]
      rfl
    · rw [hnext', hrecords]
      exact hwritten
    · rw [hnext', hrecords]
      exact hunwritten

/-- The ledger after any transactions. -/
theorem ledger_after (hlib : lib.Documented) {s : State lib} (hs : Ledger [] s)
    (ts : List Transaction) :
    Ledger (Transactions.committed run s ts) (Transactions.after run s ts) :=
  Transactions.induction_committed (P := fun ts _ s => Ledger ts s)
    (fun hs h => hs.effect (effect_of_run hlib h)) hs ts

/-- A record that has been written stays as it is. -/
structure Keeps (s s' : State lib) : Prop where
  nextRecordId : s.nextRecordId.toNat ≤ s'.nextRecordId.toNat
  records : ∀ i, i.toNat < s.nextRecordId.toNat → s'.records i = s.records i

theorem Keeps.effect {t : Transaction} {s₀ s s' : State lib} (hs : Keeps s₀ s)
    (h : Effect t s s') : Keeps s₀ s' := by
  obtain ⟨hnext, hkeep⟩ := hs
  cases h with
  | mint _ _ _ hrecords hnext' =>
    rw [← hnext'] at hnext
    exact ⟨hnext, hrecords ▸ hkeep⟩
  | burn _ _ _ _ _ hrecords hnext' =>
    refine ⟨by omega, fun i hi => ?_⟩
    have hne : i ≠ s.nextRecordId := by
      rintro rfl
      omega
    rw [hrecords, Function.update_of_ne hne]
    exact hkeep i hi
  | other _ hsame =>
    obtain ⟨-, hrecords, hnext'⟩ := hsame
    rw [← hnext'] at hnext
    exact ⟨hnext, hrecords ▸ hkeep⟩

theorem keeps_after (hlib : lib.Documented) (s : State lib) (ts : List Transaction) :
    Keeps s (Transactions.after run s ts) :=
  Transactions.induction_committed (P := fun _ _ s' => Keeps s s')
    (fun hs h => hs.effect (effect_of_run hlib h)) ⟨le_rfl, fun _ _ => rfl⟩ ts

/-- While the contract is paused, a transaction leaves the supply and the records. -/
theorem sameLedger_of_paused (hlib : lib.Documented) {s : State lib} (hpaused : s.paused = true)
    (t : Transaction) : SameLedger s (Transactions.after run s [t]) := by
  cases hrun : run t s with
  | error e =>
    rw [Transactions.after_singleton_error hrun]
    exact ⟨rfl, rfl, rfl⟩
  | ok result =>
    obtain ⟨s', events⟩ := result
    rw [Transactions.after_singleton_ok hrun]
    cases effect_of_run hlib hrun with
    | mint _ hrunning => exact absurd hpaused (by rw [hrunning]; exact Bool.false_ne_true)
    | burn _ hrunning => exact absurd hpaused (by rw [hrunning]; exact Bool.false_ne_true)
    | other _ hsame => exact hsame

/-- A record is not the empty one. -/
def NonEmpty (record : TTTRecord) : Prop := record ≠ .empty

/-- **What holds of the ledger** of a state that has been reached from a new contract by some
transactions. -/
structure LedgerInvariants (s₀ : State lib) (ts : List Transaction) (s : State lib) : Prop where
  /-- The next id is the number of successful burns. -/
  nextRecordId : s.nextRecordId.toNat =
    (Transactions.committed run s₀ ts).countP fun t => t.call.isBurn
  /-- Exactly the records below it have been written, -/
  nonempty_iff : ∀ i, NonEmpty (s.records i) ↔ i.toNat < s.nextRecordId.toNat
  /-- with a hash, -/
  grgHash : ∀ i, NonEmpty (s.records i) → (s.records i).grgHash ≠ Solidity.zeroBytes32
  /-- and they never change. -/
  permanent : ∀ i later, NonEmpty (s.records i) →
    (Transactions.after run s later).records i = s.records i
  /-- A burn that succeeds has paid the price of the moment. -/
  price : ∀ t amount grgHash tier, t.call = .burn amount grgHash tier →
    (∃ result, run t s = .ok result) → s.tierPrices tier ≤ amount
  /-- The supply is that of the start with what was minted and without what was burned. -/
  totalSupply : s.totalSupply +
      ((Transactions.committed run s₀ ts).map fun t => t.call.burned).sum =
    10000000 * 10 ^ 18 +
      ((Transactions.committed run s₀ ts).map fun t => t.call.minted).sum
  /-- Neither the supply nor the records change while the contract is paused. -/
  paused : s.paused = true → ∀ t, SameLedger s (Transactions.after run s [t])

/-- **The ledger of a token** after any transactions by any senders. -/
theorem ledger_invariants (hlib : lib.Documented) {msgSender : Address} {s₀ : State lib}
    {events : List (Event lib)} (hdeploy : deploy lib msgSender = .ok (s₀, events))
    (ts : List Transaction) : LedgerInvariants s₀ ts (Transactions.after run s₀ ts) := by
  obtain ⟨hsupply, hnext, hwritten, hunwritten⟩ :=
    ledger_after hlib (ledger_deploy hlib hdeploy) ts
  generalize Transactions.after run s₀ ts = s at *
  have hnonempty : ∀ i, NonEmpty (s.records i) ↔ i.toNat < s.nextRecordId.toNat := by
    intro i
    constructor
    · intro h
      by_contra hle
      exact h (hunwritten i (not_lt.1 hle))
    · intro h hempty
      refine hwritten i h ?_
      rw [hempty]
      rfl
  refine ⟨hnext, hnonempty, fun i hi => hwritten i ((hnonempty i).1 hi), fun i later hi => ?_,
    fun t amount grgHash tier hcall hrun => ?_, hsupply, sameLedger_of_paused hlib⟩
  · exact (keeps_after hlib s later).records i ((hnonempty i).1 hi)
  · obtain ⟨⟨s', events⟩, hrun⟩ := hrun
    rw [run, hcall] at hrun
    exact (burn_ok hlib hrun).2.2.1

end Ledgers

/-- A pause during which nothing is minted, then a burn that pays the new price of its tier, one
that does not, and a transfer. -/
def sampleRun : List Transaction :=
  [⟨7, 1700000000, .pause⟩,
    ⟨7, 1700000000, .mint 9 5 (Vector.replicate 32 1) (Vector.replicate 32 2) 1⟩,
    ⟨7, 1700000001, .unpause⟩,
    ⟨7, 1700000002, .mint 9 5 (Vector.replicate 32 1) (Vector.replicate 32 2) 1⟩,
    ⟨7, 1700000003, .setTierPrice .T1_Block 2⟩,
    ⟨9, 1700000004, .burn 3 (Vector.replicate 32 3) .T1_Block⟩,
    ⟨9, 1700000005, .burn 1 (Vector.replicate 32 3) .T1_Block⟩,
    ⟨9, 1700000006, .inherited (.transfer 4 1)⟩]

/-- One record has been written in it. -/
theorem ledger_invariants_sampleRun : ∃ s events, deploy ERC20.library 7 = .ok (s, events) ∧
    LedgerInvariants s sampleRun (Transactions.after run s sampleRun) ∧
    (Transactions.after run s sampleRun).nextRecordId = 1 ∧
    (Transactions.after run s sampleRun).totalSupply = 10000000 * 10 ^ 18 + 5 - 3 := by
  obtain ⟨s, events, hdeploy, hend⟩ : ∃ s events, deploy ERC20.library 7 = .ok (s, events) ∧
      (Transactions.after run s sampleRun).nextRecordId = 1 ∧
      (Transactions.after run s sampleRun).totalSupply = 10000000 * 10 ^ 18 + 5 - 3 := by
    refine ⟨_, _, rfl, ?_, ?_⟩ <;> decide +kernel
  exact ⟨s, events, hdeploy, ledger_invariants ERC20.documented hdeploy sampleRun, hend⟩

end TTTToken

end OpenTTT
