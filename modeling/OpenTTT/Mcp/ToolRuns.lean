import OpenTTT.Mcp.Tools

/-!
# Runs of the MCP server

The log of the server consists of the last 10000 proofs that were generated, in the order in which
they were there (`log_of_run`). No tool gives a block to the switch of the server, so it stays as it
was made, and the statistics count no swap as a turbo one (`stats_of_run`). What a query gets of the
log is as long as its limit says if the limit is at least one: a limit of zero cuts nothing off, and
a negative one cuts off the oldest entries (`query_of_run`).
-/

namespace OpenTTT

namespace Mcp

variable {ed25519 : Ed25519} (host : Host ed25519)

/-! ## The log -/

/-- The entry that a call puts into the log. -/
def entryOf : ToolCall → Option PotAnchorEntry
  | .generate g => (create host .FULL g).toOption.map Prod.fst
  | _ => none

/-- The entries of some calls, in order. -/
def entries (calls : List ToolCall) : List PotAnchorEntry := calls.filterMap (entryOf host)

theorem entries_concat (calls : List ToolCall) (c : ToolCall) :
    entries host (calls ++ [c]) = entries host calls ++ (entryOf host c).toList := by
  rw [entries, List.filterMap_append]
  cases h : entryOf host c with
  | none => rw [List.filterMap_cons_none h]; rfl
  | some e => rw [List.filterMap_cons_some h]; rfl

/-- The entry of a generation has the mode of the switch. -/
theorem mode_of_create {mode : AdaptiveMode} {g : Generation} {entry : PotAnchorEntry}
    {answer : Generated} (h : create host mode g = .ok (entry, answer)) : entry.mode = mode := by
  simp only [create, bind_eq_ok] at h
  obtain ⟨pot, -, potHash, -, grgShards, -, h⟩ := h
  cases h
  rfl

theorem mode_of_mem_entries {calls : List ToolCall} {e : PotAnchorEntry}
    (h : e ∈ entries host calls) : e.mode = .FULL := by
  obtain ⟨c, -, hc⟩ := List.mem_filterMap.1 h
  cases c with
  | generate g =>
    simp only [entryOf, Option.map_eq_some_iff] at hc
    obtain ⟨⟨entry, answer⟩, hcreate, rfl⟩ := hc
    cases hresult : create host .FULL g with
    | error _ =>
      rw [hresult] at hcreate
      cases hcreate
    | ok result =>
      rw [hresult] at hcreate
      cases hcreate
      exact mode_of_create host hresult
  | verify _ _ => cases hc
  | query _ _ => cases hc
  | subgraph _ => cases hc
  | stats _ _ => cases hc
  | health _ _ => cases hc

/-- What holds after some calls. -/
structure Inv (calls : List ToolCall) (server : Server) : Prop where
  adaptiveSwitch : server.adaptiveSwitch = AdaptiveSwitch.new none
  potLog : server.potLog = (entries host calls).rtake POT_LOG_MAX

theorem inv_generate {calls : List ToolCall} {server : Server} (hinv : Inv host calls server)
    (g : Generation) : Inv host (calls ++ [.generate g]) (potGenerate host g server).2 := by
  have hmode : server.adaptiveSwitch.getCurrentMode = .FULL := by
    rw [hinv.adaptiveSwitch]
    rfl
  unfold potGenerate
  rw [hmode]
  cases hcreate : create host .FULL g with
  | error e =>
    refine ⟨hinv.adaptiveSwitch, ?_⟩
    rw [entries_concat, entryOf, hcreate]
    dsimp only [Except.toOption, Option.map_none, Option.toList_none]
    rw [List.append_nil, hinv.potLog]
  | ok result =>
    refine ⟨hinv.adaptiveSwitch, ?_⟩
    rw [entries_concat, entryOf, hcreate]
    dsimp only [Except.toOption, Option.map_some, Option.toList_some]
    rw [hinv.potLog, SlidingWindow.push_rtake]

/-- Calls that put nothing into the log. -/
theorem Inv.concat {host : Host ed25519} {calls : List ToolCall} {server : Server}
    (hinv : Inv host calls server) {c : ToolCall} (hc : entryOf host c = none) :
    Inv host (calls ++ [c]) server := by
  refine ⟨hinv.adaptiveSwitch, ?_⟩
  rw [entries_concat, hc, Option.toList_none, List.append_nil, hinv.potLog]

theorem inv_of_run (calls : List ToolCall) : Inv host calls (serverAfter host calls) := by
  refine Mealy.invariant_history (step host) (P := Inv host) ?_ ⟨rfl, ?_⟩ calls
  · intro calls c server hinv
    cases c with
    | generate g => exact inv_generate host hinv g
    | verify v now => exact hinv.concat rfl
    | query query now => exact hinv.concat rfl
    | subgraph anchors => exact hinv.concat rfl
    | stats period now => exact hinv.concat rfl
    | health probe now => exact hinv.concat rfl
  · rw [List.rtake, entries, List.filterMap_nil, List.drop_nil]
    rfl

/-- **The log of a run** consists of the last 10000 proofs that could be generated, in their order,
all of them in the full mode. -/
theorem log_of_run (calls : List ToolCall) :
    (serverAfter host calls).potLog = (entries host calls).rtake 10000 ∧
      ∀ e ∈ (serverAfter host calls).potLog, e.mode = .FULL := by
  have hlog := (inv_of_run host calls).potLog
  refine ⟨hlog, fun e he => ?_⟩
  rw [hlog] at he
  have hmem : e ∈ entries host calls := List.mem_of_mem_drop he
  exact mode_of_mem_entries host hmem

/-! ## Statistics -/

theorem toFixed4_zero_div {n : ℕ} (hpos : 0 < n) (hn : n < 2 ^ 53) :
    toFixed4 ((Binary64.ofNat 0).div (Binary64.ofNat n)) = .finite 0 := by
  have hzero : Binary64.round 0 = .finite 0 := by
    have h := Binary64.round_natCast (show 0 < 2 ^ 53 by norm_num)
    rwa [Nat.cast_zero] at h
  have hne : (n : ℚ) ≠ 0 := by exact_mod_cast hpos.ne'
  have hdiv : (Binary64.ofNat 0).div (Binary64.ofNat n) = .finite 0 := by
    rw [Binary64.ofNat_eq (by norm_num), Binary64.ofNat_eq hn, Binary64.div, if_neg hne,
      Nat.cast_zero, zero_div, hzero]
  have hfloor : ⌊(0 : ℚ) * 10000 + 1 / 2⌋ = 0 := by norm_num
  rw [hdiv, toFixed4, hfloor, Int.cast_zero, zero_div, hzero]

/-- What is counted in the last entries is counted in all of them, if nothing is counted before. -/
theorem countP_rtake_eq_iff {α : Type} (p : α → Bool) (n : ℕ) (l : List α) :
    (l.rtake n).countP p = l.countP p ↔ ∀ a ∈ l.rdrop n, p a = false := by
  have hsplit : l.rdrop n ++ l.rtake n = l := List.take_append_drop _ l
  have hcount := congrArg (List.countP p) hsplit
  rw [List.countP_append] at hcount
  have hzero : (l.rdrop n).countP p = 0 ↔ ∀ a ∈ l.rdrop n, p a = false := by
    rw [List.countP_eq_zero]
    simp only [Bool.not_eq_true]
  rw [← hzero]
  omega

/-- **The statistics of a run**: no swap is a turbo one, and the swaps of the period are all counted
if none of them is older than the last 10000, and only then. -/
theorem stats_of_run (calls : List ToolCall) {period : Period} {now : ℤ} {stats : Stats}
    (h : potStats period now (serverAfter host calls) = .ok stats) :
    stats.turboCount = 0 ∧ stats.turboRatio = .finite 0 ∧ stats.currentMode = .FULL ∧
      stats.fullCount = stats.totalSwaps ∧
      (stats.totalSwaps = (entries host calls).countP (since (now - period.ms)) ↔
        ∀ e ∈ (entries host calls).rdrop 10000, since (now - period.ms) e = false) := by
  have hinv := inv_of_run host calls
  have hmodes := (log_of_run host calls).2
  simp only [potStats, bind_eq_ok] at h
  obtain ⟨windowStart, -, windowEnd, -, h⟩ := h
  obtain rfl := Except.ok.inj h
  have hfull : ∀ e ∈ (serverAfter host calls).potLog.filter (since (now - period.ms)),
      e.mode = .FULL := fun e he => hmodes e (List.mem_of_mem_filter he)
  have hturbo : ((serverAfter host calls).potLog.filter (since (now - period.ms))).countP
      (fun e => decide (e.mode = .TURBO)) = 0 := by
    rw [List.countP_eq_zero]
    intro e he
    rw [hfull e he]
    decide
  have hlength : ((serverAfter host calls).potLog.filter (since (now - period.ms))).length <
      2 ^ 53 := by
    have hle := List.length_filter_le (since (now - period.ms)) (serverAfter host calls).potLog
    have hlog : (serverAfter host calls).potLog.length ≤ 10000 := by
      rw [hinv.potLog, SlidingWindow.length_rtake]
      exact Nat.min_le_left _ _
    omega
  refine ⟨hturbo, ?_, ?_, ?_, ?_⟩
  · dsimp only
    rw [hturbo]
    split
    · rename_i hpos
      exact toFixed4_zero_div hpos hlength
    · rfl
  · dsimp only
    rw [hinv.adaptiveSwitch]
    rfl
  · exact List.countP_eq_length.2 fun e he => decide_eq_true (hfull e he)
  · dsimp only
    rw [← List.countP_eq_length_filter, hinv.potLog]
    exact countP_rtake_eq_iff _ _ _

namespace Tools.Sample

/-- A host whose pipeline makes one shard of the data. -/
def oneShard : Host TimeSynthesis.OnChainHash.Sample.onePair where
  startedAt := 1699999000000
  encode := TimeSynthesis.OnChainHash.Sample.encode
  keccak256 := TimeSynthesis.OnChainHash.Sample.keccak256
  grg := ⟨fun data _ _ => .ok [data], fun shards _ _ _ => .ok shards.flatten⟩
  potSigner := PotSigner.ofPrivateKey _ ()

def generation (txHash : String) (pot : Except Thrown ProofOfTime) (now : ℤ) : Generation :=
  ⟨txHash, .finite 84532, "0x01", pot, now, now⟩

/-- Two generations that succeed, and one between them that does not. -/
def calls : List ToolCall :=
  [.generate (generation "0xab" (.ok TimeSynthesis.oneProof) 1700000000000),
    .generate (generation "0xcd" (.error (.timeSynthesisError TimeSynthesis.potAllFailed))
      1700000001000),
    .generate (generation "0xef" (.ok TimeSynthesis.OnChainHash.Sample.finerProof) 1700000001500)]

/-- One more generation, before the answer of the subgraph. -/
def more : List ToolCall :=
  [.generate (generation "0x12" (.ok TimeSynthesis.OnChainHash.Sample.laterProof) 1700000002100),
    .subgraph none]

def counted : Stats where
  period := .day
  totalSwaps := 2
  turboCount := 0
  fullCount := 2
  turboRatio := .finite 0
  currentMode := .FULL
  windowStart := "2023-11-13T22:13:22.000Z"
  windowEnd := "2023-11-14T22:13:22.000Z"

/-- The query of the last day with a limit. -/
def limited (q : ℚ) : Query := ⟨none, none, some (.finite q)⟩

end Tools.Sample

open Tools.Sample in
/-- Two swaps are counted. -/
theorem stats_of_run_sample :
    counted.turboCount = 0 ∧ counted.turboRatio = .finite 0 ∧
      counted.currentMode = .FULL ∧ counted.fullCount = counted.totalSwaps ∧
      (counted.totalSwaps =
          (entries oneShard calls).countP (since (1700000002000 - Period.day.ms)) ↔
        ∀ e ∈ (entries oneShard calls).rdrop 10000,
          since (1700000002000 - Period.day.ms) e = false) := by
  have hstats : potStats .day 1700000002000 (serverAfter oneShard calls) = .ok counted := by
    decide +kernel
  exact stats_of_run oneShard calls hstats

/-! ## Queries -/

theorem effectiveLimit_eq {query : Query} {q : ℚ}
    (h : query.limit.getD (.finite 100) = .finite q) :
    query.effectiveLimit = .finite (min q 1000) := by
  rw [Query.effectiveLimit, h, Binary64.min, if_neg (by simp)]
  have hlt : (Binary64.finite 1000).lt (.finite q) = true ↔ 1000 < q := decide_eq_true_iff
  rcases lt_or_ge 1000 q with hbig | hsmall
  · rw [if_pos (hlt.2 hbig), min_eq_right hbig.le]
  · rw [if_neg (mt hlt.1 (not_lt.2 hsmall)), min_eq_left hsmall]

/-- `slice(-q)`, by the sign of `q`. -/
theorem slice_neg {α : Type} (q : ℚ) (l : List α) :
    (1 ≤ q → slice (.finite (-q)) l = l.rtake ⌊q⌋.toNat) ∧
      (-1 < q → q < 1 → slice (.finite (-q)) l = l) ∧
      (q ≤ -1 → slice (.finite (-q)) l = l.drop ⌊-q⌋.toNat) := by
  refine ⟨fun hq => ?_, fun hlo hhi => ?_, fun hq => ?_⟩
  · have htruncate : truncate (-q) = -⌊q⌋ := by
      rw [truncate, if_neg (by linarith), Int.ceil_neg]
    have hfloor : 1 ≤ ⌊q⌋ := Int.le_floor.2 (by exact_mod_cast hq)
    rw [slice]
    rw [htruncate, if_pos (by omega), List.rtake]
    congr 1
    omega
  · have htruncate : truncate (-q) = 0 := by
      unfold truncate
      split
      · exact Int.floor_eq_iff.2 ⟨by push_cast; assumption, by push_cast; linarith⟩
      · exact Int.ceil_eq_iff.2 ⟨by push_cast; linarith, by push_cast; linarith⟩
    rw [slice]
    rw [htruncate, if_neg (by omega)]
    rfl
  · have htruncate : truncate (-q) = ⌊-q⌋ := by rw [truncate, if_pos (by linarith)]
    have hfloor : 1 ≤ ⌊-q⌋ := Int.le_floor.2 (by push_cast; linarith)
    rw [slice]
    rw [htruncate, if_neg (by omega)]

theorem length_slice_le {α : Type} (q : ℚ) (l : List α) :
    (slice (.finite q) l).length ≤ l.length := by
  rw [slice]
  split <;> exact List.length_drop.trans_le (Nat.sub_le _ _)

/-- The log never gets shorter. -/
theorem length_potLog_le (calls more : List ToolCall) :
    (serverAfter host calls).potLog.length ≤ (serverAfter host (calls ++ more)).potLog.length := by
  rw [(inv_of_run host calls).potLog, (inv_of_run host _).potLog, SlidingWindow.length_rtake,
    SlidingWindow.length_rtake, entries, entries, List.filterMap_append, List.length_append]
  omega

/-- **What a query gets of the log** of a run, with a limit that is a number: of the last 10000
entries those in its window of time, as many of the newest as the limit allows if it is at least
one, all of them if it is around zero, and all but the oldest if it is negative. The length of the
log that is told with them, after any calls in between, is not smaller. -/
theorem query_of_run (calls more : List ToolCall) {query : Query} {q : ℚ}
    (hlimit : query.limit.getD (.finite 100) = .finite q) (now : ℤ) :
    (1 ≤ q → potQuery query now (serverAfter host calls) =
        (((entries host calls).rtake 10000).filter (query.covers now)).rtake
          ⌊min q 1000⌋.toNat) ∧
      (-1 < q → q < 1 → potQuery query now (serverAfter host calls) =
        ((entries host calls).rtake 10000).filter (query.covers now)) ∧
      (q ≤ -1 → potQuery query now (serverAfter host calls) =
        (((entries host calls).rtake 10000).filter (query.covers now)).drop ⌊-q⌋.toNat) ∧
      (potQuery query now (serverAfter host calls)).length ≤
        (serverAfter host (calls ++ more)).potLog.length := by
  have hquery : potQuery query now (serverAfter host calls) =
      slice (.finite (-min q 1000))
        (((entries host calls).rtake 10000).filter (query.covers now)) := by
    rw [potQuery, effectiveLimit_eq hlimit, (inv_of_run host calls).potLog]
    rfl
  obtain ⟨hpos, hzero, hneg⟩ := slice_neg (min q 1000)
    (((entries host calls).rtake 10000).filter (query.covers now))
  rw [hquery]
  refine ⟨fun hq => hpos (le_min hq (by norm_num)), fun hlo hhi => hzero ?_ ?_, fun hq => ?_, ?_⟩
  · exact lt_min hlo (by norm_num)
  · exact (min_le_left _ _).trans_lt hhi
  · have hmin : min q 1000 = q := min_eq_left (by linarith)
    rw [hmin] at hneg ⊢
    exact hneg hq
  · calc _ ≤ (((entries host calls).rtake 10000).filter (query.covers now)).length :=
          length_slice_le _ _
      _ ≤ ((entries host calls).rtake 10000).length := List.length_filter_le _ _
      _ = (serverAfter host calls).potLog.length := congrArg List.length
          (inv_of_run host calls).potLog.symm
      _ ≤ (serverAfter host (calls ++ more)).potLog.length := length_potLog_le host calls more

open Tools.Sample in
/-- A limit of zero leaves both entries, and a limit of one the newer of them. -/
theorem query_of_run_zero :
    (potQuery (limited 0) 1700000002000 (serverAfter oneShard calls) =
        ((entries oneShard calls).rtake 10000).filter ((limited 0).covers 1700000002000) ∧
      (potQuery (limited 0) 1700000002000 (serverAfter oneShard calls)).length ≤
        (serverAfter oneShard (calls ++ more)).potLog.length) ∧
    potQuery (limited 1) 1700000002000 (serverAfter oneShard calls) =
      (((entries oneShard calls).rtake 10000).filter ((limited 1).covers 1700000002000)).rtake
        ⌊min (1 : ℚ) 1000⌋.toNat := by
  have hlimit : ∀ q : ℚ, (limited q).limit.getD (.finite 100) = .finite q := fun _ => rfl
  have hzero := query_of_run oneShard calls more (hlimit 0) 1700000002000
  have hone := query_of_run oneShard calls more (hlimit 1) 1700000002000
  exact ⟨⟨hzero.2.1 (by norm_num) (by norm_num), hzero.2.2.2⟩, hone.1 le_rfl⟩

end Mcp

end OpenTTT
