import OpenTTT.Contracts.HookSimple
import OpenTTT.Foundations.DecimalText
import OpenTTT.Foundations.GroupedAggregate
import Mathlib.Algebra.BigOperators.Group.List.Basic
import Mathlib.Algebra.Group.Action.Defs
import Mathlib.Algebra.Ring.Int.Defs

/-!
# The subgraph

`handleSwapVerified` of `mapping.ts`, and the store that it keeps of the events of the hook. A
`BigInt` is an integer; the arithmetic of `BigDecimal` is a parameter. The entities of a day and of
an hour have the text of the time at which it begins as their key, so the store holds the events
grouped by day and by hour (`GroupedAggregate`).

`agrees_with_chain` compares the store with the counters of the contract after any transactions.
-/

namespace OpenTTT

namespace Subgraph

open TTTHookSimple

/-- The operations of `BigDecimal` that the mapping uses. -/
structure BigDecimals (δ : Type) where
  fromString : String → δ
  toBigDecimal : ℤ → δ
  div : δ → δ → δ

/-- The entity `SwapVerification`. -/
structure SwapVerification where
  hook : Address
  pool : Bytes32
  sender : Address
  mode : String
  feeAmount : ℤ
  potAnchor : Option String
  timestamp : ℤ
  blockNumber : ℤ
  txHash : Bytes32

/-- The entity `DailyStats`. -/
structure DailyStats (δ : Type) where
  date : String
  totalSwaps : ℤ
  turboCount : ℤ
  fullCount : ℤ
  turboRatio : δ
  totalFees : ℤ

/-- The entity `HourlyStats`. -/
structure HourlyStats where
  hour : String
  totalSwaps : ℤ
  turboCount : ℤ
  fullCount : ℤ

/-- The entities of the store by their ids. -/
structure Store (δ : Type) where
  swaps : InsertionMap String SwapVerification
  daily : InsertionMap String (DailyStats δ)
  hourly : InsertionMap String HourlyStats

variable {δ : Type}

/-- The store before the first event. -/
def Store.empty : Store δ := ⟨.empty, .empty, .empty⟩

/-- The text of the time at which the `period` of seconds of an event begins. -/
def periodId (period : ℤ) (event : Log) : String :=
  toString ((event.timestamp.toNat : ℤ).tdiv period * period)

def dayId (event : Log) : String := periodId 86400 event

def hourId (event : Log) : String := periodId 3600 event

/-- The entity of a swap. -/
def swapVerification (event : Log) : SwapVerification where
  hook := event.params.hook
  pool := event.params.pool
  sender := event.params.sender
  mode := event.params.mode
  feeAmount := event.params.feeAmount.toNat
  potAnchor := none
  timestamp := event.timestamp.toNat
  blockNumber := event.number.toNat
  txHash := event.txHash

variable (D : BigDecimals δ)

/-- The entity of a day without swaps. -/
def DailyStats.new (id : String) : DailyStats δ := ⟨id, 0, 0, 0, D.fromString "0", 0⟩

/-- Count a swap. -/
def DailyStats.add (event : Log) (daily : DailyStats δ) : DailyStats δ :=
  let daily := { daily with
    totalSwaps := daily.totalSwaps + 1
    totalFees := daily.totalFees + event.params.feeAmount.toNat }
  let daily := if event.params.mode = "turbo" then
      { daily with turboCount := daily.turboCount + 1 }
    else { daily with fullCount := daily.fullCount + 1 }
  if daily.totalSwaps > 0 then
    { daily with
      turboRatio := D.div (D.toBigDecimal daily.turboCount) (D.toBigDecimal daily.totalSwaps) }
  else daily

/-- The entity of an hour without swaps. -/
def HourlyStats.new (id : String) : HourlyStats := ⟨id, 0, 0, 0⟩

/-- Count a swap. -/
def HourlyStats.add (event : Log) (hourly : HourlyStats) : HourlyStats :=
  let hourly := { hourly with totalSwaps := hourly.totalSwaps + 1 }
  if event.params.mode = "turbo" then { hourly with turboCount := hourly.turboCount + 1 }
  else { hourly with fullCount := hourly.fullCount + 1 }

/-- The handler of `SwapVerified`. -/
def handleSwapVerified (store : Store δ) (event : Log) : Store δ where
  swaps := store.swaps.set
    ("0x" ++ Buffer.toHex event.txHash.toList ++ "-" ++ toString event.logIndex.toNat)
    (swapVerification event)
  daily := GroupedAggregate.record dayId (DailyStats.new D) (DailyStats.add D) store.daily event
  hourly := GroupedAggregate.record hourId HourlyStats.new HourlyStats.add store.hourly event

/-- The store after events that are handled once each, in their order. -/
def index (logs : List Log) : Store δ := logs.foldl (handleSwapVerified D) .empty

/-! ## The entities as groups of events -/

theorem index_daily (logs : List Log) :
    (index D logs).daily =
      GroupedAggregate.aggregate dayId (DailyStats.new D) (DailyStats.add D) logs :=
  (List.foldl_hom Store.daily fun _ _ => rfl).symm

theorem index_hourly (logs : List Log) :
    (index D logs).hourly =
      GroupedAggregate.aggregate hourId HourlyStats.new HourlyStats.add logs :=
  (List.foldl_hom Store.hourly fun _ _ => rfl).symm

/-- A swap counts one. -/
def swapShare (_ : Log) : ℤ := 1

/-- A swap in the turbo mode counts one. -/
def turboShare (event : Log) : ℤ := if event.params.mode = "turbo" then 1 else 0

/-- A swap in another mode counts one. -/
def fullShare (event : Log) : ℤ := if event.params.mode = "turbo" then 0 else 1

/-- The fee of a swap. -/
def feeShare (event : Log) : ℤ := event.params.feeAmount.toNat

/-- What `add` does to the fields of a day. -/
theorem DailyStats.add_fields (event : Log) (daily : DailyStats δ) :
    (DailyStats.add D event daily).totalSwaps = daily.totalSwaps + swapShare event ∧
      (DailyStats.add D event daily).turboCount = daily.turboCount + turboShare event ∧
      (DailyStats.add D event daily).fullCount = daily.fullCount + fullShare event ∧
      (DailyStats.add D event daily).totalFees = daily.totalFees + feeShare event := by
  unfold DailyStats.add swapShare turboShare fullShare feeShare
  by_cases hmode : event.params.mode = "turbo" <;> simp only [hmode, if_true, if_false] <;>
    split <;> simp

/-- What `add` does to the fields of an hour. -/
theorem HourlyStats.add_fields (event : Log) (hourly : HourlyStats) :
    (HourlyStats.add event hourly).totalSwaps = hourly.totalSwaps + swapShare event ∧
      (HourlyStats.add event hourly).turboCount = hourly.turboCount + turboShare event ∧
      (HourlyStats.add event hourly).fullCount = hourly.fullCount + fullShare event := by
  unfold HourlyStats.add swapShare turboShare fullShare
  by_cases hmode : event.params.mode = "turbo" <;> simp [hmode]

theorem swapShare_eq (event : Log) : swapShare event = turboShare event + fullShare event := by
  unfold swapShare turboShare fullShare
  split <;> rfl

/-- A field of the days adds up to the shares of the events. -/
theorem total_daily {φ : DailyStats δ → ℤ} {share : Log → ℤ}
    (hnew : ∀ id, φ (DailyStats.new D id) = 0)
    (hadd : ∀ event daily, φ (DailyStats.add D event daily) = φ daily + share event)
    (logs : List Log) :
    GroupedAggregate.total φ (index D logs).daily = (logs.map share).sum := by
  rw [index_daily]
  exact GroupedAggregate.total_aggregate hnew hadd logs

/-! ## Days and hours -/

/-- The text of the beginning of the period with a number. -/
def periodText (period n : ℕ) : String := toString ((n * period : ℕ) : ℤ)

/-- Two events have the same key if they are in the same period. -/
theorem periodId_eq_iff {period : ℕ} (h : 0 < period) (event : Log) (n : ℕ) :
    periodId period event = periodText period n ↔ event.timestamp.toNat / period = n := by
  have hperiod : (event.timestamp.toNat : ℤ).tdiv (period : ℤ) * (period : ℤ) =
      ((event.timestamp.toNat / period * period : ℕ) : ℤ) := by
    rw [Int.tdiv_eq_ediv_of_nonneg (Int.natCast_nonneg _)]
    push_cast
    rfl
  rw [periodId, periodText, hperiod, DecimalText.toString_int_injective.eq_iff, Int.natCast_inj]
  exact Nat.mul_left_inj h.ne'

/-- The events with the key of a period are those in it. -/
theorem group_periodId {period : ℕ} (h : 0 < period) (n : ℕ) (logs : List Log) :
    GroupedAggregate.group (periodId period) (periodText period n) logs =
      GroupedAggregate.group (fun event => event.timestamp.toNat / period) n logs :=
  List.filter_congr fun event _ => decide_eq_decide.2 (periodId_eq_iff h event n)

/-- The value of a field of the entity of an hour, if there is one. -/
def hourCount (store : Store δ) (φ : HourlyStats → ℤ) (n : ℕ) : ℤ :=
  ((store.hourly.get? (periodText 3600 n)).map φ).getD 0

/-- **A day is the sum of its hours**, for every field to which the swaps add the same. -/
theorem day_eq_sum_hours {φ : DailyStats δ → ℤ} {φ' : HourlyStats → ℤ} {share : Log → ℤ}
    (hnew : ∀ id, φ (DailyStats.new D id) = 0)
    (hadd : ∀ event daily, φ (DailyStats.add D event daily) = φ daily + share event)
    (hnew' : ∀ id, φ' (HourlyStats.new id) = 0)
    (hadd' : ∀ event hourly, φ' (HourlyStats.add event hourly) = φ' hourly + share event)
    {logs : List Log} {daily : DailyStats δ} {d : ℕ}
    (h : (index D logs).daily.get? (periodText 86400 d) = some daily) :
    φ daily = ∑ i ∈ Finset.range 24, hourCount (index D logs) φ' (d * 24 + i) := by
  have hday : (((index D logs).daily.get? (periodText 86400 d)).map φ).getD 0 =
      ((GroupedAggregate.group dayId (periodText 86400 d) logs).map share).sum := by
    rw [index_daily]
    exact GroupedAggregate.measure_get? (hnew _) hadd logs
  rw [h] at hday
  have hgroup := group_periodId (show 0 < 86400 by omega) d logs
  have hhour : ∀ n, hourCount (index D logs) φ' n =
      ((GroupedAggregate.group (fun event => event.timestamp.toNat / 3600) n logs).map
        share).sum := by
    intro n
    rw [hourCount, index_hourly, GroupedAggregate.measure_get? (hnew' _) hadd']
    exact congrArg (fun g => (g.map share).sum) (group_periodId (show 0 < 3600 by omega) n logs)
  simp only [hhour]
  rw [← GroupedAggregate.sum_filter_div (fun event : Log => event.timestamp.toNat) share 3600
    (by omega) d logs]
  exact hday.trans (congrArg (fun g => (g.map share).sum) hgroup)

/-- Every entity of a day is that of the day of an event. -/
theorem exists_day {logs : List Log} {entry : String × DailyStats δ}
    (h : entry ∈ (index D logs).daily.entries) :
    ∃ d : ℕ, entry.1 = periodText 86400 d ∧
      (index D logs).daily.get? (periodText 86400 d) = some entry.2 := by
  have hget : (index D logs).daily.get? entry.1 = some entry.2 :=
    InsertionMap.get?_eq_some_iff.2 h
  have hgroup := hget
  rw [index_daily, GroupedAggregate.get?_aggregate] at hgroup
  split at hgroup
  · cases hgroup
  rename_i hne
  obtain ⟨event, hevent⟩ := List.exists_mem_of_ne_nil _ hne
  have hkey : dayId event = entry.1 := of_decide_eq_true (List.mem_filter.1 hevent).2
  have htext : entry.1 = periodText 86400 (event.timestamp.toNat / 86400) :=
    hkey.symm.trans ((periodId_eq_iff (show 0 < 86400 by omega) event _).2 rfl)
  exact ⟨_, htext, htext ▸ hget⟩

/-- The swaps of an entity are counted under one of the modes. -/
theorem split_of_fold {ν : Type} {new : String → ν} {add : Log → ν → ν} {total turbo full : ν → ℤ}
    (hnew : ∀ id, total (new id) - (turbo (new id) + full (new id)) = 0)
    (hadd : ∀ event v, total (add event v) = total v + swapShare event ∧
      turbo (add event v) = turbo v + turboShare event ∧
      full (add event v) = full v + fullShare event)
    {key : Log → String} {logs : List Log} {entry : String × ν}
    (h : entry ∈ (GroupedAggregate.aggregate key new add logs).entries) :
    total entry.2 = turbo entry.2 + full entry.2 := by
  have hget := InsertionMap.get?_eq_some_iff.2 (show (entry.1, entry.2) ∈ _ from h)
  -- the swaps that are counted under no mode, to which no event adds
  obtain ⟨rest, hrest⟩ : ∃ rest : ν → ℤ, ∀ v, rest v = total v - (turbo v + full v) :=
    ⟨_, fun _ => rfl⟩
  have hshares : ∀ event v, rest (add event v) = rest v + 0 := by
    intro event v
    obtain ⟨htotal, hturbo, hfull⟩ := hadd event v
    have hshare := swapShare_eq event
    rw [hrest, hrest]
    omega
  have hmeasure : (((GroupedAggregate.aggregate key new add logs).get? entry.1).map rest).getD 0 =
      ((GroupedAggregate.group key entry.1 logs).map fun _ => 0).sum :=
    GroupedAggregate.measure_get? ((hrest _).trans (hnew entry.1)) hshares logs
  rw [hget, List.map_const', List.sum_replicate, nsmul_zero] at hmeasure
  exact sub_eq_zero.1 ((hrest _).symm.trans hmeasure)

/-! ## The counters of the contract -/

/-- The counters of the contract are the sums over its events. -/
structure Counted (s₀ s : State) (logs : List Log) : Prop where
  totalSwaps : (s.totalSwaps.toNat : ℤ) = s₀.totalSwaps.toNat + (logs.map swapShare).sum
  turboSwaps : (s.turboSwaps.toNat : ℤ) = s₀.turboSwaps.toNat + (logs.map turboShare).sum
  fullSwaps : (s.fullSwaps.toNat : ℤ) = s₀.fullSwaps.toNat + (logs.map fullShare).sum

/-- A transaction adds to the counters what its events add to the store. -/
theorem Counted.run {keccak256 : Buffer → Bytes32} {t : Transaction} {s₀ s s' : State}
    {logs emitted : List Log} (hs : Counted s₀ s logs)
    (h : TTTHookSimple.run keccak256 t s = .ok (s', emitted)) :
    Counted s₀ s' (logs ++ emitted) := by
  unfold TTTHookSimple.run at h
  obtain ⟨⟨s₁, events⟩, hcall, h⟩ := bind_eq_ok.1 h
  cases h
  cases hkind : t.call with
  | verifySwap c =>
    rw [hkind] at hcall
    obtain ⟨balance, -, hcounts, rfl⟩ := verifySwap_ok hcall
    have htotal := hcounts.totalSwaps
    have hturbo := hcounts.turboSwaps
    have hfull := hcounts.fullSwaps
    obtain ⟨hs₁, hs₂, hs₃⟩ := hs
    cases hmode : isTurbo s balance <;> rw [hmode] at hturbo hfull <;>
      simp only [Bool.false_eq_true, if_true, if_false, Nat.add_zero] at hturbo hfull <;>
      constructor <;>
      simp [swapShare, turboShare, fullShare, List.sum_append] <;> omega
  | setFeeConfig minBalance turboFee fullFee tttTokenId =>
    rw [hkind] at hcall
    obtain ⟨rfl, rfl⟩ := setFeeConfig_ok hcall
    rw [List.map_nil, List.append_nil]
    exact ⟨hs.totalSwaps, hs.turboSwaps, hs.fullSwaps⟩

/-- The counters after any transactions. -/
theorem counted_after (keccak256 : Buffer → Bytes32) (s : State) (ts : List Transaction) :
    Counted s (Transactions.after (TTTHookSimple.run keccak256) s ts)
      (Transactions.logs (TTTHookSimple.run keccak256) s ts) :=
  Transactions.induction_committed (P := fun _ logs s' => Counted s s' logs) Counted.run
    ⟨(add_zero _).symm, (add_zero _).symm, (add_zero _).symm⟩ ts

/-! ## The store and the contract -/

/-- **What it means that the store agrees with the contract** after its events. -/
structure AgreesWith (s : State) (logs : List Log) (store : Store δ) : Prop where
  totalSwaps : GroupedAggregate.total DailyStats.totalSwaps store.daily = s.totalSwaps.toNat
  turboSwaps : GroupedAggregate.total DailyStats.turboCount store.daily = s.turboSwaps.toNat
  fullSwaps : GroupedAggregate.total DailyStats.fullCount store.daily = s.fullSwaps.toNat
  totalFees : GroupedAggregate.total DailyStats.totalFees store.daily =
    (logs.map fun event => (event.params.feeAmount.toNat : ℤ)).sum
  daily_split : ∀ entry ∈ store.daily.entries,
    entry.2.totalSwaps = entry.2.turboCount + entry.2.fullCount
  hourly_split : ∀ entry ∈ store.hourly.entries,
    entry.2.totalSwaps = entry.2.turboCount + entry.2.fullCount
  hours : ∀ entry ∈ store.daily.entries, ∃ d : ℕ, entry.1 = periodText 86400 d ∧
    entry.2.totalSwaps =
      ∑ i ∈ Finset.range 24, hourCount store HourlyStats.totalSwaps (d * 24 + i) ∧
    entry.2.turboCount =
      ∑ i ∈ Finset.range 24, hourCount store HourlyStats.turboCount (d * 24 + i) ∧
    entry.2.fullCount =
      ∑ i ∈ Finset.range 24, hourCount store HourlyStats.fullCount (d * 24 + i)

/-- **The subgraph agrees with the chain** after any transactions of the hook: the days add up to
its counters and to the fees that it has emitted, every entity counts a swap under one mode, and a
day is the sum of its hours. -/
theorem agrees_with_chain (keccak256 : Buffer → Bytes32) (this msgSender ttt : Address)
    (minBalance : Uint256) (turboFee fullFee : Uint24) (ts : List Transaction) :
    AgreesWith
      (Transactions.after (TTTHookSimple.run keccak256)
        (deployed this msgSender ttt minBalance turboFee fullFee) ts)
      (Transactions.logs (TTTHookSimple.run keccak256)
        (deployed this msgSender ttt minBalance turboFee fullFee) ts)
      (index D (Transactions.logs (TTTHookSimple.run keccak256)
        (deployed this msgSender ttt minBalance turboFee fullFee) ts)) := by
  obtain ⟨htotal, hturbo, hfull⟩ :=
    counted_after keccak256 (deployed this msgSender ttt minBalance turboFee fullFee) ts
  generalize Transactions.logs (TTTHookSimple.run keccak256) _ ts = logs at htotal hturbo hfull ⊢
  have hzero : (0 : Uint256).toNat = 0 := rfl
  simp only [deployed, hzero, Nat.cast_zero, zero_add] at htotal hturbo hfull
  have hday := DailyStats.add_fields D
  constructor
  · exact (total_daily D (fun _ => rfl) (fun e v => (hday e v).1) logs).trans htotal.symm
  · exact (total_daily D (fun _ => rfl) (fun e v => (hday e v).2.1) logs).trans hturbo.symm
  · exact (total_daily D (fun _ => rfl) (fun e v => (hday e v).2.2.1) logs).trans hfull.symm
  · exact total_daily D (fun _ => rfl) (fun e v => (hday e v).2.2.2) logs
  · intro entry hentry
    rw [index_daily] at hentry
    exact split_of_fold (fun _ => rfl)
      (fun e v => ⟨(hday e v).1, (hday e v).2.1, (hday e v).2.2.1⟩) hentry
  · intro entry hentry
    rw [index_hourly] at hentry
    exact split_of_fold (fun _ => rfl) HourlyStats.add_fields hentry
  · intro entry hentry
    obtain ⟨d, htext, hget⟩ := exists_day D hentry
    have hhour := HourlyStats.add_fields
    exact ⟨d, htext,
      day_eq_sum_hours D (fun _ => rfl) (fun e v => (hday e v).1) (fun _ => rfl)
        (fun e v => (hhour e v).1) hget,
      day_eq_sum_hours D (fun _ => rfl) (fun e v => (hday e v).2.1) (fun _ => rfl)
        (fun e v => (hhour e v).2.1) hget,
      day_eq_sum_hours D (fun _ => rfl) (fun e v => (hday e v).2.2.1) (fun _ => rfl)
        (fun e v => (hhour e v).2.2) hget⟩

end Subgraph

end OpenTTT
