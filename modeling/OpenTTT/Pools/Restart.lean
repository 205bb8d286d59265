import OpenTTT.Pools.Registry

/-!
# Restarting a registry

A restart writes a registry as text and reads it back. `restart` is what it does to the state:
a chain id that is not finite becomes `null`, and everything else stays, with the order of the maps.
No operation reads the chain ids, apart from `serialize`, which writes both as `null`; so a registry
and its restart are `Alike`, and stay so (`step_alike`). `restart_equivalent` is the induction over
the operations.
-/

namespace OpenTTT

namespace PoolRegistry

/-- What is left of a chain id in JSON. -/
def jsonChainId : JsValue → JsValue
  | .number (.finite q) => .number (.finite q)
  | .number _ => .null
  | v => v

def restartStats (stats : PoolStats) : PoolStats :=
  { stats with chainId := stats.chainId.map jsonChainId }

/-- A registry after a restart. -/
def restart (self : PoolRegistry) : PoolRegistry :=
  { self with pools := self.pools.mapValues restartStats }

/-- Two registries that a restart makes equal. -/
def Alike (r r' : PoolRegistry) : Prop := restart r = restart r'

@[simp] theorem jsonChainId_idem (v : JsValue) : jsonChainId (jsonChainId v) = jsonChainId v := by
  cases v with
  | number x => cases x <;> rfl
  | _ => rfl

@[simp] theorem restartStats_idem (stats : PoolStats) :
    restartStats (restartStats stats) = restartStats stats := by
  obtain ⟨chainId, minted, burned⟩ := stats
  cases chainId <;> simp [restartStats]

@[simp] theorem restart_restart (r : PoolRegistry) : restart (restart r) = restart r := by
  simp only [restart, InsertionMap.mapValues, List.map_map, Function.comp_def, restartStats_idem]

theorem alike_restart (r : PoolRegistry) : Alike r (restart r) := (restart_restart r).symm

/-! ## Operations on a registry and on its restart -/

section Operations

variable (lib : PoolLibrary)

/-- An entry that is set before a restart is there after it. -/
theorem restart_set (r : PoolRegistry) (key : String) (stats : PoolStats) :
    restart { restart r with pools := (restart r).pools.set key stats } =
      restart { r with pools := r.pools.set key stats } := by
  have hpools : (((r.pools.mapValues restartStats).set key stats).mapValues restartStats) =
      (r.pools.set key stats).mapValues restartStats := by
    rw [InsertionMap.mapValues_set, InsertionMap.mapValues_set]
    exact congrArg (fun m => InsertionMap.set m key (restartStats stats))
      (congrArg PoolRegistry.pools (restart_restart r))
  exact congrArg (fun pools => PoolRegistry.mk pools r.tokenToPool) hpools

theorem has_restart (r : PoolRegistry) (key : String) :
    (restart r).pools.has key = r.pools.has key := by
  rw [InsertionMap.has, InsertionMap.has, restart, InsertionMap.keys_mapValues]

theorem registerPool_restart (chainId : Number) (poolAddress : String) (r : PoolRegistry) :
    (registerPool lib chainId poolAddress (restart r)).map restart =
      (registerPool lib chainId poolAddress r).map restart := by
  have hsize : (restart r).pools.size = r.pools.size := InsertionMap.size_mapValues _ _
  unfold registerPool
  simp only [has_restart, hsize]
  split
  · rfl
  · split
    · exact congrArg Except.ok (restart_restart r)
    · split
      · rfl
      · exact congrArg Except.ok (restart_set r _ _)

theorem getTokenId_restart (chainId : Number) (poolAddress : String) (timestamp : ℤ)
    (slotIndex : Number) (r : PoolRegistry) :
    getTokenId lib chainId poolAddress timestamp slotIndex (restart r) =
      (getTokenId lib chainId poolAddress timestamp slotIndex r).map
        fun result => (result.1, restart result.2) := by
  unfold getTokenId
  split
  · rfl
  split
  · rfl
  split
  · rfl
  cases JsValue.toBigInt (some (.number chainId.value)) with
  | error e => rfl
  | ok chain =>
    rw [ok_bind, ok_bind]
    cases lib.encode ["uint256", "address", "uint64", "uint32"]
        [.bigint chain, .string (lib.toLowerCase poolAddress), .bigint timestamp,
          .number slotIndex.value] with
    | error e => rfl
    | ok data => rfl

theorem getPoolStats_restart (poolAddress : String) (r : PoolRegistry) :
    getPoolStats lib poolAddress (restart r) = getPoolStats lib poolAddress r := by
  unfold getPoolStats
  split
  · rfl
  · rw [restart, InsertionMap.get?_mapValues, Option.map_map]
    rfl

/-- A change of the amounts commutes with a restart. -/
theorem updateStats_restart (poolAddress : String) {f : PoolStats → PoolStats}
    (hf : ∀ stats, restartStats (f (restartStats stats)) = restartStats (f stats))
    (r : PoolRegistry) :
    restart (updateStats lib poolAddress f (restart r)) =
      restart (updateStats lib poolAddress f r) := by
  unfold updateStats
  split
  · exact restart_restart r
  · have hget : (restart r).pools.get? (lib.toLowerCase poolAddress) =
        (r.pools.get? (lib.toLowerCase poolAddress)).map restartStats :=
      InsertionMap.get?_mapValues _ _ _
    rw [hget]
    cases r.pools.get? (lib.toLowerCase poolAddress) with
    | none => exact restart_restart r
    | some stats =>
      refine (restart_set r _ (f (restartStats stats))).trans ?_
      refine congrArg (fun pools => PoolRegistry.mk pools r.tokenToPool) ?_
      rw [InsertionMap.mapValues_set, InsertionMap.mapValues_set, hf]

/-- The texts of a pool and of its restart are the same. -/
theorem toJson_poolToJs (entry : String × PoolStats) :
    (poolToJs (entry.1, restartStats entry.2)).toJson none = (poolToJs entry).toJson none := by
  obtain ⟨address, chainId, minted, burned⟩ := entry
  cases chainId with
  | none => rfl
  | some v =>
    cases v with
    | number x => cases x <;> rfl
    | _ => rfl

theorem serialize_restart (r : PoolRegistry) : serialize (restart r) = serialize r := by
  have hpools : JsValue.elementsToJson none ((restart r).pools.entries.map poolToJs) =
      JsValue.elementsToJson none (r.pools.entries.map poolToJs) := by
    rw [restart, InsertionMap.mapValues, List.map_map]
    exact JsValue.elementsToJson_congr fun entry _ => toJson_poolToJs entry
  rw [serialize, serialize, JsValue.stringify, JsValue.stringify, toJs, toJs]
  simp only [JsValue.toJson, JsValue.membersToJson, hpools]
  rfl

end Operations

/-- **A step cannot tell** a registry from its restart. -/
theorem step_restart (lib : PoolLibrary) (r : PoolRegistry) (op : Operation) :
    (step lib (restart r) op).1 = (step lib r op).1 ∧
      restart (step lib (restart r) op).2 = restart (step lib r op).2 := by
  cases op with
  | registerPool chainId poolAddress =>
    simp only [step]
    rcases eq_of_map_eq (registerPool_restart lib chainId poolAddress r) with
      ⟨e, hr', hr⟩ | ⟨s', s, hr', hr, hstate⟩
    · rw [hr', hr]
      exact ⟨rfl, restart_restart r⟩
    · rw [hr', hr]
      exact ⟨rfl, hstate⟩
  | getTokenId chainId poolAddress timestamp slotIndex =>
    simp only [step, getTokenId_restart]
    cases getTokenId lib chainId poolAddress timestamp slotIndex r with
    | error e => exact ⟨rfl, restart_restart r⟩
    | ok result => exact ⟨rfl, restart_restart result.2⟩
  | isValidForPool tokenId poolAddress => exact ⟨rfl, restart_restart r⟩
  | getPoolStats poolAddress =>
    exact ⟨congrArg (fun stats => Except.ok (Result.stats stats))
      (getPoolStats_restart lib poolAddress r), restart_restart r⟩
  | recordMint poolAddress amount =>
    refine ⟨rfl, updateStats_restart lib poolAddress (fun stats => ?_) r⟩
    exact restartStats_idem { stats with minted := stats.minted + amount }
  | recordBurn poolAddress amount =>
    refine ⟨rfl, updateStats_restart lib poolAddress (fun stats => ?_) r⟩
    exact restartStats_idem { stats with burned := stats.burned + amount }
  | listPools =>
    exact ⟨congrArg (fun list => Except.ok (Result.addresses list))
      (InsertionMap.keys_mapValues restartStats r.pools), restart_restart r⟩
  | serialize =>
    exact ⟨congrArg (Except.map Result.json) (serialize_restart r), restart_restart r⟩

theorem step_alike (lib : PoolLibrary) {r r' : PoolRegistry} (h : Alike r r') (op : Operation) :
    (step lib r op).1 = (step lib r' op).1 ∧ Alike (step lib r op).2 (step lib r' op).2 := by
  obtain ⟨hout, hnext⟩ := step_restart lib r op
  obtain ⟨hout', hnext'⟩ := step_restart lib r' op
  rw [h] at hout hnext
  exact ⟨hout.symm.trans hout', hnext.symm.trans hnext'⟩

/-! ## What is read from the text of a registry -/

/-- The chain ids of a registry are numbers. -/
def NumericChainIds (r : PoolRegistry) : Prop :=
  ∀ entry ∈ r.pools.entries, ∃ chainId : Number, entry.2.chainId = some (.number chainId.value)

theorem numericChainIds_new : NumericChainIds new := nofun

/-- Setting an entry with a number keeps the chain ids numbers. -/
theorem NumericChainIds.set {r : PoolRegistry} (h : NumericChainIds r) {key : String}
    {stats : PoolStats}
    (hstats : ∃ chainId : Number, stats.chainId = some (.number chainId.value)) :
    NumericChainIds { r with pools := r.pools.set key stats } := by
  intro entry hentry
  rcases InsertionMap.mem_entries_set.1 hentry with rfl | ⟨-, hold⟩
  · exact hstats
  · exact h entry hold

theorem NumericChainIds.updateStats {lib : PoolLibrary} {r : PoolRegistry} (h : NumericChainIds r)
    (poolAddress : String) {f : PoolStats → PoolStats}
    (hf : ∀ stats, (f stats).chainId = stats.chainId) :
    NumericChainIds (updateStats lib poolAddress f r) := by
  unfold PoolRegistry.updateStats
  split
  · exact h
  · split
    · rename_i stats hget
      refine h.set ?_
      rw [hf]
      exact h _ (InsertionMap.get?_eq_some_iff.1 hget)
    · exact h

/-- An operation keeps the chain ids numbers. -/
theorem NumericChainIds.step {lib : PoolLibrary} {r : PoolRegistry} (h : NumericChainIds r)
    (op : Operation) : NumericChainIds (step lib r op).2 := by
  cases op with
  | registerPool chainId poolAddress =>
    simp only [PoolRegistry.step]
    split
    · rename_i r' hregister
      unfold registerPool at hregister
      split at hregister
      · cases hregister
      · dsimp only at hregister
        split at hregister
        · cases hregister
          exact h
        · split at hregister
          · cases hregister
          · cases hregister
            exact h.set ⟨chainId, rfl⟩
    · exact h
  | getTokenId chainId poolAddress timestamp slotIndex =>
    simp only [PoolRegistry.step]
    split
    · rename_i tokenId r' hget
      -- the pools are not touched
      have hpools : r'.pools = r.pools := by
        unfold getTokenId at hget
        split at hget
        · cases hget
        split at hget
        · cases hget
        split at hget
        · cases hget
        obtain ⟨chain, -, hget⟩ := bind_eq_ok.1 hget
        obtain ⟨data, -, hget⟩ := bind_eq_ok.1 hget
        cases hget
        rfl
      intro entry hentry
      exact h entry (hpools ▸ hentry)
    · exact h
  | recordMint poolAddress amount => exact h.updateStats poolAddress fun _ => rfl
  | recordBurn poolAddress amount => exact h.updateStats poolAddress fun _ => rfl
  | isValidForPool tokenId poolAddress => exact h
  | getPoolStats poolAddress => exact h
  | listPools => exact h
  | serialize => exact h

theorem numericChainIds_after (lib : PoolLibrary) (ops : List Operation) :
    NumericChainIds (Mealy.after (step lib) new ops) :=
  Mealy.invariant_history (step lib) (P := fun _ r => NumericChainIds r)
    (fun _ op _ h => h.step op) numericChainIds_new ops

/-- The values that a restart writes. -/
theorem plain_poolToJs {entry : String × PoolStats} {chainId : Number}
    (h : entry.2.chainId = some (.number chainId.value)) :
    (poolToJs (entry.1, restartStats entry.2)).Plain := by
  have hplain : (jsonChainId (.number chainId.value)).Plain := by
    cases hvalue : chainId.value with
    | finite q => exact .number (chainId.isDouble q hvalue)
    | infinity negative => exact .null
    | nan => exact .null
  rw [poolToJs, restartStats, h]
  refine .object (by simp) ?_
  simp [JsValue.Plain.string, hplain]

theorem plain_toJs {r : PoolRegistry} (h : NumericChainIds r) : (toJs (restart r)).Plain := by
  have hpools : (JsValue.array ((restart r).pools.entries.map poolToJs)).Plain := by
    refine .array fun v hv => ?_
    obtain ⟨entry', hentry', rfl⟩ := List.mem_map.1 hv
    obtain ⟨entry, hentry, rfl⟩ := List.mem_map.1 hentry'
    obtain ⟨chainId, hchainId⟩ := h entry hentry
    exact plain_poolToJs hchainId
  have hmappings : (JsValue.array ((restart r).tokenToPool.entries.map mappingToJs)).Plain := by
    refine .array fun v hv => ?_
    obtain ⟨entry, -, rfl⟩ := List.mem_map.1 hv
    refine .object (by simp) ?_
    simp [JsValue.Plain.string]
  refine .object (by simp) ?_
  simp [hpools, hmappings]

/-- The loop over the pools sets the entries that were written. -/
theorem foldlM_restorePool (entries : List (String × PoolStats))
    (pools : InsertionMap String PoolStats) :
    (entries.map poolToJs).foldlM restorePool pools = .ok (pools.setAll entries) := by
  induction entries generalizing pools with
  | nil => rfl
  | cons entry entries ih =>
    obtain ⟨address, chainId, minted, burned⟩ := entry
    have hentry : restorePool pools (poolToJs (address, ⟨chainId, minted, burned⟩)) =
        .ok (pools.set address ⟨chainId, minted, burned⟩) := by
      have hminted : ((poolToJs (address, ⟨chainId, minted, burned⟩)).get "minted" >>=
          JsValue.toBigInt) = .ok minted := by
        refine Eq.trans ?_ (JsValue.toBigInt_toString minted)
        cases chainId <;> rfl
      have hburned : ((poolToJs (address, ⟨chainId, minted, burned⟩)).get "burned" >>=
          JsValue.toBigInt) = .ok burned := by
        refine Eq.trans ?_ (JsValue.toBigInt_toString burned)
        cases chainId <;> rfl
      rw [restorePool, hminted, hburned]
      cases chainId <;> rfl
    rw [List.map_cons, List.foldlM_cons, hentry, ok_bind, ih]
    rfl

/-- The loop over the mappings sets the entries that were written. -/
theorem foldlM_restoreMapping (entries : List (String × String))
    (tokenToPool : InsertionMap String String) :
    (entries.map mappingToJs).foldlM restoreMapping tokenToPool =
      .ok (tokenToPool.setAll entries) := by
  induction entries generalizing tokenToPool with
  | nil => rfl
  | cons entry entries ih =>
    have hentry : restoreMapping tokenToPool (mappingToJs entry) =
        .ok (tokenToPool.set entry.1 entry.2) := rfl
    rw [List.map_cons, List.foldlM_cons, hentry, ok_bind, ih]
    rfl

/-- The entries of a map, set one by one, are the map. -/
theorem setAll_entries {ν : Type} (m : InsertionMap String ν) :
    InsertionMap.empty.setAll m.entries = m := by
  apply InsertionMap.ext
  rw [InsertionMap.entries_setAll]
  · rfl
  · exact m.nodup_keys

/-- **The text of a registry is read back** as its restart. -/
theorem deserialize_serialize {r : PoolRegistry} (h : NumericChainIds r) :
    ∃ json, r.serialize = .ok json ∧ deserialize json = .ok (restart r) := by
  have hround := JsValue.parse_stringify_plain (plain_toJs h)
  obtain ⟨json, hjson, hparse⟩ := bind_eq_ok.1 hround
  refine ⟨json, (serialize_restart r).symm.trans hjson, ?_⟩
  have hpools : ((toJs (restart r)).get "pools" >>= iterate) =
      .ok ((restart r).pools.entries.map poolToJs) := rfl
  have hmappings : (toJs (restart r)).get "tokenMappings" =
      .ok (some (.array ((restart r).tokenToPool.entries.map mappingToJs))) := rfl
  have hfold := foldlM_restorePool (restart r).pools.entries .empty
  have hfold' := foldlM_restoreMapping (restart r).tokenToPool.entries .empty
  rw [setAll_entries] at hfold hfold'
  simp only [deserialize, hparse, hpools, hmappings, Except.mapError, ok_bind, hfold, truthy,
    if_true, iterate, hfold']

/-- **A restarted registry behaves like the one that was written**: after any operations, its text
is read back as a registry with the same mappings in the same order, and any further operations
return and throw the same on both. -/
theorem restart_equivalent (lib : PoolLibrary) (ops : List Operation) :
    ∃ json r', (Mealy.after (step lib) new ops).serialize = .ok json ∧
      deserialize json = .ok r' ∧
      r'.tokenToPool = (Mealy.after (step lib) new ops).tokenToPool ∧
      ∀ ops', Mealy.outputs (step lib) r' ops' =
        Mealy.outputs (step lib) (Mealy.after (step lib) new ops) ops' := by
  obtain ⟨json, hserialize, hdeserialize⟩ := deserialize_serialize (numericChainIds_after lib ops)
  refine ⟨json, _, hserialize, hdeserialize, rfl, fun ops' => ?_⟩
  have hrun := Mealy.outputs_eq_of_simulation (step lib) (f := id) (R := Alike)
    (Q := fun _ => True) (fun _ _ op h _ => step_alike lib h op)
    (alike_restart (Mealy.after (step lib) new ops)) (fun op (_ : op ∈ ops') => trivial)
  rw [List.map_id] at hrun
  exact hrun.symm

end PoolRegistry

end OpenTTT
