import OpenTTT.Foundations.FifoMap
import OpenTTT.Pools.Spelling

/-!
# How long a token id is kept

`getTokenId` stores the pool under the id, in a table that drops its oldest id when it is full. The
test for that does not ask whether the id is in the table: at capacity, an id that is derived again
drops the oldest other one. Under an id that is there, the text of the new call is stored.
`retention_iff` says in which runs an id is kept for its pool until as many others were derived as
the table holds.
-/

namespace OpenTTT

namespace PoolRegistry

/-! ## The table -/

/-- The id and the pool of a call that returned an id. -/
def returned : Operation → Except Thrown Result → Option (String × String)
  | .getTokenId _ poolAddress _ _, .ok (.tokenId id) => some (id, poolAddress)
  | _, _ => none

section

variable (lib : PoolLibrary)

/-- The ids that a run returned, with their pools. -/
def derived (ops : List Operation) : List (String × String) :=
  (ops.zip (Mealy.outputs (step lib) new ops)).filterMap fun c => returned c.1 c.2

/-- The id of arguments that pass the checks: the hash of their encoding. -/
def tokenIdOf (chainId : Number) (poolAddress : String) (timestamp : ℤ) (slotIndex : Number) :
    Option String :=
  if isAddress lib poolAddress = true ∧ isSlotIndex slotIndex.value = true ∧
      timestamp ≤ 18446744073709551615 then do
    let chain ← (JsValue.toBigInt (some (.number chainId.value))).toOption
    let data ← (lib.encode ["uint256", "address", "uint64", "uint32"]
      [.bigint chain, .string (lib.toLowerCase poolAddress), .bigint timestamp,
        .number slotIndex.value]).toOption
    some ("0x" ++ Buffer.toHex (lib.keccak256 data).toList)
  else none

/-- The mapping of an operation, from its id to the text of the pool in lower case. -/
def mapping : Operation → Option (String × String)
  | .getTokenId chainId poolAddress timestamp slotIndex =>
    (tokenIdOf lib chainId poolAddress timestamp slotIndex).map fun id =>
      (id, lib.toLowerCase poolAddress)
  | _ => none

/-- The mappings of a run. -/
def mappings (ops : List Operation) : List (String × String) := ops.filterMap (mapping lib)

end

section Table

variable {lib : PoolLibrary}

/-- **What a call does**: it stores the pool under the id of its arguments, or throws. -/
theorem getTokenId_cases (lib : PoolLibrary) (chainId : Number) (poolAddress : String)
    (timestamp : ℤ) (slotIndex : Number) (r : PoolRegistry) :
    (∃ id, tokenIdOf lib chainId poolAddress timestamp slotIndex = some id ∧
      isAddress lib poolAddress = true ∧
      getTokenId lib chainId poolAddress timestamp slotIndex r = .ok (id, { r with
        tokenToPool := FifoMap.store MAX_TOKEN_MAPPINGS r.tokenToPool
          (id, lib.toLowerCase poolAddress) })) ∨
    tokenIdOf lib chainId poolAddress timestamp slotIndex = none ∧
      ∃ e, getTokenId lib chainId poolAddress timestamp slotIndex r = .error e := by
  by_cases haddress : isAddress lib poolAddress = true
  case neg => simp [tokenIdOf, getTokenId, haddress]
  by_cases hslot : isSlotIndex slotIndex.value = true
  case neg => simp [tokenIdOf, getTokenId, haddress, hslot]
  by_cases htime : timestamp ≤ 18446744073709551615
  case neg => simp [tokenIdOf, getTokenId, haddress, hslot, htime, not_le.1 htime]
  rw [tokenIdOf, if_pos ⟨haddress, hslot, htime⟩, getTokenId, haddress, hslot,
    if_neg (by decide), if_neg (by decide), if_neg (not_lt.2 htime)]
  cases hchain : JsValue.toBigInt (some (.number chainId.value)) with
  | error e => exact Or.inr ⟨rfl, e, rfl⟩
  | ok chain =>
    cases hdata : lib.encode ["uint256", "address", "uint64", "uint32"]
        [.bigint chain, .string (lib.toLowerCase poolAddress), .bigint timestamp,
          .number slotIndex.value] with
    | error e =>
      right
      simp only [Except.toOption, Option.bind_eq_bind, Option.bind_some, ok_bind, hdata]
      exact ⟨rfl, e, rfl⟩
    | ok data =>
      left
      simp only [Except.toOption, Option.bind_eq_bind, Option.bind_some, ok_bind, hdata]
      exact ⟨_, rfl, trivial, rfl⟩

theorem tokenToPool_registerPool {chainId : Number} {poolAddress : String} {r r' : PoolRegistry}
    (h : registerPool lib chainId poolAddress r = .ok r') : r'.tokenToPool = r.tokenToPool := by
  unfold registerPool at h
  split at h
  · cases h
  · dsimp only at h
    split at h
    · cases h
      rfl
    · split at h
      · cases h
      · cases h
        rfl

theorem tokenToPool_updateStats (poolAddress : String) (f : PoolStats → PoolStats)
    (r : PoolRegistry) : (updateStats lib poolAddress f r).tokenToPool = r.tokenToPool := by
  unfold updateStats
  split
  · rfl
  · split <;> rfl

/-- **What an operation does to the table**: it stores its mapping, and returns the id. -/
theorem step_cases (lib : PoolLibrary) (r : PoolRegistry) (op : Operation) :
    (∃ id poolAddress, returned op (step lib r op).1 = some (id, poolAddress) ∧
      isAddress lib poolAddress = true ∧
      mapping lib op = some (id, lib.toLowerCase poolAddress) ∧
      (step lib r op).2.tokenToPool =
        FifoMap.store MAX_TOKEN_MAPPINGS r.tokenToPool (id, lib.toLowerCase poolAddress)) ∨
    returned op (step lib r op).1 = none ∧ mapping lib op = none ∧
      (step lib r op).2.tokenToPool = r.tokenToPool := by
  cases op with
  | getTokenId chainId poolAddress timestamp slotIndex =>
    rw [mapping, step]
    rcases getTokenId_cases lib chainId poolAddress timestamp slotIndex r with
      ⟨id, hid, haddress, hcall⟩ | ⟨hid, e, hcall⟩
    · rw [hid, hcall]
      exact Or.inl ⟨id, poolAddress, rfl, haddress, rfl, rfl⟩
    · rw [hid, hcall]
      exact Or.inr ⟨rfl, rfl, rfl⟩
  | registerPool chainId poolAddress =>
    right
    rw [step]
    cases hregister : registerPool lib chainId poolAddress r with
    | ok r' => exact ⟨rfl, rfl, tokenToPool_registerPool hregister⟩
    | error e => exact ⟨rfl, rfl, rfl⟩
  | recordMint poolAddress amount =>
    exact Or.inr ⟨rfl, rfl, tokenToPool_updateStats poolAddress _ r⟩
  | recordBurn poolAddress amount =>
    exact Or.inr ⟨rfl, rfl, tokenToPool_updateStats poolAddress _ r⟩
  | isValidForPool | getPoolStats | listPools => exact Or.inr ⟨rfl, rfl, rfl⟩
  | serialize =>
    right
    rw [step, PoolRegistry.serialize]
    cases r.toJs.stringify none with
    | ok text => exact ⟨rfl, rfl, rfl⟩
    | error e => exact ⟨rfl, rfl, rfl⟩

/-- The mappings of a run are those of the ids that it returned. -/
theorem map_derived (ops : List Operation) :
    (derived lib ops).map (fun d => (d.1, lib.toLowerCase d.2)) = mappings lib ops := by
  unfold derived mappings
  generalize new = r
  induction ops generalizing r with
  | nil => rfl
  | cons op ops ih =>
    rw [Mealy.outputs, List.zip_cons_cons, List.filterMap_cons, List.filterMap_cons]
    rcases step_cases lib r op with
      ⟨id, poolAddress, hreturned, -, hmapping, -⟩ | ⟨hreturned, hmapping, -⟩
    · rw [hreturned, hmapping, List.map_cons, ih]
    · rw [hreturned, hmapping, ih]

theorem isAddress_of_mem_derived {ops : List Operation} {d : String × String}
    (h : d ∈ derived lib ops) : isAddress lib d.2 = true := by
  obtain ⟨⟨op, result⟩, hmem, hreturned⟩ := List.mem_filterMap.1 h
  obtain ⟨r, hresult⟩ := Mealy.exists_of_mem_zip_outputs (step lib) hmem
  rw [hresult] at hreturned
  rcases step_cases lib r op with ⟨id, poolAddress, hcall, haddress, -⟩ | ⟨hcall, -⟩
  · obtain rfl := Option.some.inj (hcall.symm.trans hreturned)
    exact haddress
  · cases hcall.symm.trans hreturned

theorem tokenToPool_after (ops : List Operation) :
    (Mealy.after (step lib) new ops).tokenToPool =
      FifoMap.storeAll MAX_TOKEN_MAPPINGS (mappings lib ops) := by
  induction ops using List.reverseRecOn with
  | nil => rfl
  | append_singleton ops op ih =>
    rw [Mealy.after_concat, mappings, List.filterMap_append]
    rcases step_cases lib (Mealy.after (step lib) new ops) op with
      ⟨id, poolAddress, -, -, hmapping, htable⟩ | ⟨-, hmapping, htable⟩
    · rw [htable, ih, List.filterMap_cons, hmapping, List.filterMap_nil, FifoMap.storeAll_concat]
      rfl
    · rw [htable, ih, List.filterMap_cons, hmapping, List.filterMap_nil, List.append_nil]
      rfl

end Table

/-! ## The guarantee -/

section

variable (lib : PoolLibrary) (ops : List Operation)

/-- The registry after a run. -/
def afterAll : PoolRegistry := Mealy.after (step lib) new ops

/-- The ids that were returned are valid for their pools, up to those with as many others since as
the table holds. -/
def Retains : Prop :=
  ∀ d ∈ derived lib ops,
    (FifoMap.othersSince d.1 ((derived lib ops).map Prod.fst)).card < MAX_TOKEN_MAPPINGS →
      isValidForPool lib d.1 d.2 (afterAll lib ops) = true

/-- A call that returns an id that is stored changes nothing under other ids. -/
def KeepsMappings (op : Operation) : Prop :=
  ∀ id poolAddress, returned op (step lib (afterAll lib ops) op).1 = some (id, poolAddress) →
    id ∈ (afterAll lib ops).tokenToPool.keys → ∀ id', id' ≠ id →
      (afterAll lib (ops ++ [op])).tokenToPool.get? id' = (afterAll lib ops).tokenToPool.get? id'

/-- A call after a run that derives no id again that a full table holds behind others, and none with
another text of the pool that should be there. -/
structure HarmlessCall (op : Operation) : Prop where
  room : ∀ e, mapping lib op = some e → e.1 ∈ (afterAll lib ops).tokenToPool.keys →
    (afterAll lib ops).tokenToPool.size < MAX_TOKEN_MAPPINGS ∨
      (afterAll lib ops).tokenToPool.keys.head? = some e.1
  text : ∀ e, mapping lib op = some e → ∀ pool, (e.1, pool) ∈ mappings lib ops →
    (FifoMap.othersSince e.1 ((mappings lib ops).map Prod.fst)).card < MAX_TOKEN_MAPPINGS →
      pool = e.2

end

section Guarantee

variable {lib : PoolLibrary} {ops : List Operation} {op : Operation}

theorem harmlessCall_iff : HarmlessCall lib ops op ↔ ∀ e, mapping lib op = some e →
    FifoMap.Harmless MAX_TOKEN_MAPPINGS (mappings lib ops) e := by
  have htable : (afterAll lib ops).tokenToPool = _ := tokenToPool_after ops
  constructor
  · rintro ⟨hroom, htext⟩ e he
    rw [htable] at hroom
    exact ⟨hroom e he, htext e he⟩
  · intro h
    refine ⟨fun e he => ?_, fun e he => (h e he).value⟩
    rw [htable]
    exact (h e he).room

theorem retains_iff :
    Retains lib ops ↔ FifoMap.Retained MAX_TOKEN_MAPPINGS (mappings lib ops) := by
  have hids : (mappings lib ops).map Prod.fst = (derived lib ops).map Prod.fst := by
    rw [← map_derived, List.map_map]
    rfl
  have hvalid {d : String × String} (hd : d ∈ derived lib ops) :
      isValidForPool lib d.1 d.2 (afterAll lib ops) = true ↔
        (FifoMap.storeAll MAX_TOKEN_MAPPINGS (mappings lib ops)).get? d.1 =
          some (lib.toLowerCase d.2) := by
    rw [isValidForPool, isAddress_of_mem_derived hd, afterAll, tokenToPool_after, Bool.true_and,
      decide_eq_true_iff]
  unfold Retains FifoMap.Retained
  rw [hids]
  constructor
  · intro h e he hfew
    rw [← map_derived] at he
    obtain ⟨d, hd, rfl⟩ := List.mem_map.1 he
    exact (hvalid hd).1 (h d hd hfew)
  · intro h d hd hfew
    refine (hvalid hd).2 (h (d.1, lib.toLowerCase d.2) ?_ hfew)
    rw [← map_derived]
    exact List.mem_map_of_mem hd

theorem keepsMappings_iff : KeepsMappings lib ops op ↔ ∀ e, mapping lib op = some e →
    FifoMap.KeepsOthers MAX_TOKEN_MAPPINGS
      (FifoMap.storeAll MAX_TOKEN_MAPPINGS (mappings lib ops)) e := by
  unfold KeepsMappings FifoMap.KeepsOthers
  have hafter : afterAll lib (ops ++ [op]) = (step lib (afterAll lib ops) op).2 :=
    Mealy.after_concat _ _ _ _
  have htable : (afterAll lib ops).tokenToPool = _ := tokenToPool_after ops
  rw [← htable, hafter]
  rcases step_cases lib (afterAll lib ops) op with
    ⟨id, poolAddress, hreturned, -, hmapping, hstored⟩ | ⟨hreturned, hmapping, -⟩
  · rw [hreturned, hmapping, hstored]
    constructor
    · rintro h e he
      obtain rfl := Option.some.inj he
      exact h id poolAddress rfl
    · rintro h id' poolAddress' heq
      obtain ⟨rfl, rfl⟩ := Prod.mk.inj (Option.some.inj heq)
      exact h _ rfl
  · rw [hreturned, hmapping]
    exact ⟨fun _ => nofun, fun _ => nofun⟩

end Guarantee

/-- In a run, ids stay valid until as many others were returned since as the table holds, and a call
that returns a stored id drops no other one. -/
def RetentionGuarantee (lib : PoolLibrary) (ops : List Operation) : Prop :=
  (∀ pre, pre <+: ops → Retains lib pre) ∧
    ∀ pre op, pre ++ [op] <+: ops → KeepsMappings lib pre op

theorem retentionGuarantee_iff_harmless {lib : PoolLibrary} {ops : List Operation} :
    RetentionGuarantee lib ops ↔ ∀ pre op, pre ++ [op] <+: ops → ∀ e, mapping lib op = some e →
      FifoMap.Harmless MAX_TOKEN_MAPPINGS (mappings lib pre) e := by
  unfold RetentionGuarantee
  simp only [retains_iff, keepsMappings_iff]
  exact FifoMap.forall_retained_iff (mapping lib) (by decide) ops

/-- **When ids are retained**: in exactly the runs in which every call is harmless. -/
theorem retention_iff (lib : PoolLibrary) (ops : List Operation) :
    RetentionGuarantee lib ops ↔ ∀ pre op, pre ++ [op] <+: ops → HarmlessCall lib pre op := by
  rw [retentionGuarantee_iff_harmless]
  simp only [harmlessCall_iff]

/-- Runs with fewer ids than the table holds, each of them for one text of a pool, retain them. -/
theorem retentionGuarantee_of_few {lib : PoolLibrary} {ops : List Operation}
    (hfew : ((mappings lib ops).map Prod.fst).toFinset.card < MAX_TOKEN_MAPPINGS)
    (htext : ∀ e ∈ mappings lib ops, ∀ e' ∈ mappings lib ops, e.1 = e'.1 → e.2 = e'.2) :
    RetentionGuarantee lib ops := by
  rw [retentionGuarantee_iff_harmless]
  intro pre op hpre e he
  obtain ⟨rest, hrest⟩ := hpre.filterMap (mapping lib)
  have hmappings : mappings lib ops = mappings lib pre ++ e :: rest := by
    rw [mappings, ← hrest, List.filterMap_append, List.filterMap_cons, he, List.filterMap_nil,
      List.append_assoc]
    rfl
  constructor
  · intro _
    left
    have hsub : ((mappings lib pre).map Prod.fst).toFinset ⊆
        ((mappings lib ops).map Prod.fst).toFinset := by
      rw [hmappings, List.map_append, List.toFinset_append]
      exact Finset.subset_union_left
    exact (FifoMap.size_storeAll_le _ _).trans_lt ((Finset.card_le_card hsub).trans_lt hfew)
  · intro pool hpool _
    refine htext (e.1, pool) ?_ e ?_ rfl
    · rw [hmappings]
      exact List.mem_append_left _ hpool
    · rw [hmappings]
      exact List.mem_append_right _ List.mem_cons_self

/-! ## A full table -/

/-- The text of an id. -/
def idText (lib : PoolLibrary) (a : TokenArguments) : String :=
  "0x" ++ Buffer.toHex (lib.keccak256 a.encoding).toList

theorem slotIndex_isSafe (a : TokenArguments) : a.slotIndex < 2 ^ 53 :=
  a.slotIndex_lt.trans (by decide)

/-- The call for the id of some arguments. -/
def callOf (poolAddress : String) (a : TokenArguments) : Operation :=
  .getTokenId (.ofNat a.chainId a.chainId_lt) poolAddress a.timestamp
    (.ofNat a.slotIndex (slotIndex_isSafe a))

/-- The encoding pads, a text is an address of the pool of all the slots, and their encodings have
different hashes. -/
structure TellsApart (lib : PoolLibrary) (poolAddress : String) (slots : List TokenArguments) :
    Prop where
  pads : PadsStatic lib
  addresses : ∀ a ∈ slots, a.Addresses lib poolAddress
  injOn : Set.InjOn lib.keccak256 (TokenArguments.encoding '' {a | a ∈ slots})

section Full

variable {lib : PoolLibrary} {poolAddress : String} {slots : List TokenArguments}

theorem mapping_callOf (hpads : PadsStatic lib) {a : TokenArguments}
    (h : a.Addresses lib poolAddress) :
    mapping lib (callOf poolAddress a) = some (idText lib a, lib.toLowerCase poolAddress) := by
  obtain ⟨r', hcall⟩ := TokenArguments.offChain_eq hpads h new
  rcases getTokenId_cases lib (.ofNat a.chainId a.chainId_lt) poolAddress a.timestamp
    (.ofNat a.slotIndex (slotIndex_isSafe a)) new with
    ⟨id, hid, -, hok⟩ | ⟨-, e, herror⟩
  · have hreturn := Except.ok.inj (hok.symm.trans hcall)
    rw [callOf, mapping, hid, Option.map_some, (Prod.mk.inj hreturn).1]
    rfl
  · cases herror.symm.trans hcall

namespace TellsApart

/-- Ids are only equal if the hash collides. -/
theorem idText_injOn (h : TellsApart lib poolAddress slots) :
    Set.InjOn (idText lib) {a | a ∈ slots} := by
  intro a ha b hb hid
  have hvalue := congrArg (fun text => JsValue.toBigInt (some (.string text))) hid
  simp only [idText, TokenArguments.toBigInt_tokenId, Except.ok.injEq, Int.natCast_inj] at hvalue
  exact TokenArguments.onChain_injOn h.injOn ha hb (BitVec.eq_of_toNat_eq hvalue)

theorem mappings_eq (h : TellsApart lib poolAddress slots) :
    mappings lib (slots.map (callOf poolAddress)) =
      slots.map fun a => (idText lib a, lib.toLowerCase poolAddress) := by
  rw [mappings, List.filterMap_map, ← List.filterMap_eq_map]
  exact List.filterMap_congr fun a ha => mapping_callOf h.pads (h.addresses a ha)

/-- As long as there is room, the ids are stored in the order of the calls. -/
theorem keys_eq (h : TellsApart lib poolAddress slots) (hnodup : slots.Nodup)
    (hroom : slots.length ≤ MAX_TOKEN_MAPPINGS) :
    (FifoMap.storeAll MAX_TOKEN_MAPPINGS
      (mappings lib (slots.map (callOf poolAddress)))).keys = slots.map (idText lib) := by
  have hids : (mappings lib (slots.map (callOf poolAddress))).map Prod.fst =
      slots.map (idText lib) := by
    rw [h.mappings_eq, List.map_map]
    rfl
  rw [FifoMap.keys_storeAll_of_nodup, hids]
  · rw [hids]
    exact hnodup.map_on fun a ha b hb hid => h.idText_injOn ha hb hid
  · rw [h.mappings_eq, List.length_map]
    exact hroom

/-- **At capacity**, deriving any id but the oldest one again drops the oldest one. -/
theorem not_keepsMappings (h : TellsApart lib poolAddress slots) (hnodup : slots.Nodup)
    (hfull : slots.length = MAX_TOKEN_MAPPINGS) {b : TokenArguments} (hb : b ∈ slots)
    (hhead : slots.head? ≠ some b) :
    ¬ KeepsMappings lib (slots.map (callOf poolAddress)) (callOf poolAddress b) := by
  intro hkeeps
  have hkeys := h.keys_eq hnodup hfull.le
  have hstored := keepsMappings_iff.1 hkeeps _ (mapping_callOf h.pads (h.addresses b hb))
  rcases FifoMap.room_of_keepsOthers hstored (hkeys ▸ List.mem_map_of_mem hb) with hroom | holdest
  · rw [← InsertionMap.length_keys, hkeys, List.length_map, hfull] at hroom
    exact lt_irrefl _ hroom
  · rw [hkeys, List.head?_map] at holdest
    obtain ⟨a, ha, hid⟩ := Option.map_eq_some_iff.1 holdest
    rw [h.idText_injOn (List.mem_of_mem_head? ha) hb hid] at ha
    exact hhead ha

end TellsApart

end Full

/-- A slot of the pool of the sample at a time. -/
def slotAt (t : ℕ) : TokenArguments :=
  { TokenArguments.sampleArguments with
    timestamp := t % 2 ^ 64
    timestamp_lt := Nat.mod_lt _ (by decide) }

/-- As many slots as the table holds. -/
def fullSlots : List TokenArguments := (List.range MAX_TOKEN_MAPPINGS).map slotAt

/-- The full table, and the id of the second slot again. -/
def refill : List Operation :=
  fullSlots.map (callOf checksummed) ++ [callOf checksummed (slotAt 1)]

theorem slotAt_injOn {s t : ℕ} (hs : s < MAX_TOKEN_MAPPINGS) (ht : t < MAX_TOKEN_MAPPINGS)
    (h : slotAt s = slotAt t) : s = t := by
  have htime := congrArg TokenArguments.timestamp h
  have hmax : MAX_TOKEN_MAPPINGS < 2 ^ 64 := by decide
  have hmod : s % 2 ^ 64 = t % 2 ^ 64 := htime
  rwa [Nat.mod_eq_of_lt (hs.trans hmax), Nat.mod_eq_of_lt (ht.trans hmax)] at hmod

theorem nodup_fullSlots : fullSlots.Nodup :=
  List.nodup_range.map_on fun _ hs _ ht h =>
    slotAt_injOn (List.mem_range.1 hs) (List.mem_range.1 ht) h

/-- A library whose hash is the word of the timestamp. -/
def timestampLibrary : PoolLibrary where
  toLowerCase := TokenArguments.sampleLibrary.toLowerCase
  address := TokenArguments.sampleLibrary.address
  encode := TokenArguments.sampleLibrary.encode
  keccak256 data := Solidity.toBytes32 (BitVec.ofNat 256 (Buffer.beValue (data.subarray 64 96)))

theorem keccak256_timestampLibrary (a : TokenArguments) :
    timestampLibrary.keccak256 a.encoding = Solidity.toBytes32 (BitVec.ofNat 256 a.timestamp) := by
  have hwords : a.encoding = (toBeBytes 32 a.chainId ++ toBeBytes 32 a.pool.toNat) ++
      (toBeBytes 32 a.timestamp ++ toBeBytes 32 a.slotIndex) := by
    simp [TokenArguments.encoding, Solidity.words]
  have htime : a.encoding.subarray 64 96 = toBeBytes 32 a.timestamp :=
    Buffer.subarray_of_eq hwords (by simp) (by simp)
  have hlt : a.timestamp < 256 ^ 32 := a.timestamp_lt.trans (by decide)
  simp only [timestampLibrary, htime, Buffer.beValue_toBeBytes hlt]

theorem tellsApart_timestampLibrary : TellsApart timestampLibrary checksummed fullSlots where
  pads := TokenArguments.sampleLibrary_padsStatic
  addresses := by
    intro a ha
    obtain ⟨t, -, rfl⟩ := List.mem_map.1 ha
    exact TokenArguments.addresses_sampleArguments
  injOn := by
    rintro _ ⟨a, ha, rfl⟩ _ ⟨b, hb, rfl⟩ h
    obtain ⟨s, -, rfl⟩ := List.mem_map.1 ha
    obtain ⟨t, -, rfl⟩ := List.mem_map.1 hb
    rw [keccak256_timestampLibrary, keccak256_timestampLibrary] at h
    have hvalue := congrArg (fun word => (Solidity.toUint256 word).toNat) h
    simp only [Solidity.toUint256_toBytes32, BitVec.toNat_ofNat] at hvalue
    have htime : (slotAt s).timestamp = (slotAt t).timestamp := by
      have hs := (slotAt s).timestamp_lt
      have ht := (slotAt t).timestamp_lt
      omega
    exact congrArg _ (TokenArguments.ext rfl rfl htime rfl)

/-- **A full table loses a mapping** of every library that tells the slots apart. -/
theorem not_retentionGuarantee : (∃ lib, TellsApart lib checksummed fullSlots) ∧
    ∀ lib, TellsApart lib checksummed fullSlots → ¬ RetentionGuarantee lib refill := by
  refine ⟨⟨_, tellsApart_timestampLibrary⟩, fun lib h => ?_⟩
  rintro ⟨-, hkeeps⟩
  have hsecond : slotAt 1 ∈ fullSlots := List.mem_map_of_mem (List.mem_range.2 (by decide))
  have hfull : fullSlots.length = MAX_TOKEN_MAPPINGS := by
    rw [fullSlots, List.length_map, List.length_range]
  have hhead : fullSlots.head? ≠ some (slotAt 1) := by
    rw [fullSlots, List.head?_map, List.head?_range, if_neg (by decide), Option.map_some]
    intro hfirst
    exact absurd (slotAt_injOn (by decide) (by decide) (Option.some.inj hfirst)) (by decide)
  exact h.not_keepsMappings nodup_fullSlots hfull hsecond hhead
    (hkeeps _ _ (List.prefix_refl _))

end PoolRegistry

end OpenTTT
