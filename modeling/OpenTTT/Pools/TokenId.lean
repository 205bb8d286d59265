import OpenTTT.Contracts.TTT
import OpenTTT.Pools.Registry

/-!
# Token ids on and off the chain

`PoolRegistry.getTokenId` declares its values as `uint256`, `address`, `uint64` and `uint32`, and
`TTT.getTokenId` as four values of 256 bits, the second an address. Both hash four words of 32
bytes, because the encoding of a static value does not depend on its width: `PadsStatic` says so of
the library, and `token_ids_agree` that the two ids are one number. The words determine the
arguments, so two ids can only be equal if the hash collides.
-/

namespace OpenTTT

/-! ## Hexadecimal texts as numbers -/

namespace JsValue

theorem isSpace_hexDigit {n : ℕ} (h : n < 16) : isSpace (Buffer.hexDigit n) = false := by
  interval_cases n <;> decide

/-- Two digits more, behind those of a number. -/
theorem digitsValue_hexByte (b : UInt8) (v : ℕ) :
    [Buffer.hexDigit (b.toNat / 16), Buffer.hexDigit (b.toNat % 16)].foldlM
      (fun n c => (Json.hexValue c).bind fun d => if d < 16 then some (16 * n + d) else none) v =
        some (256 * v + b.toNat) := by
  have hb : b.toNat < 256 := b.toNat_lt
  have hhigh : Json.hexValue (Buffer.hexDigit (b.toNat / 16)) = some (b.toNat / 16) :=
    Json.hexValue_hexDigit (by omega)
  have hlow : Json.hexValue (Buffer.hexDigit (b.toNat % 16)) = some (b.toNat % 16) :=
    Json.hexValue_hexDigit (by omega)
  simp only [List.foldlM_cons, List.foldlM_nil, hhigh, hlow, Option.bind_some,
    if_pos (show b.toNat / 16 < 16 by omega), if_pos (show b.toNat % 16 < 16 by omega)]
  refine congrArg some ?_
  omega

/-- The digits of bytes have their value, the first byte the most significant one. -/
theorem digitsValue_toHex {bytes : Buffer} (h : bytes ≠ []) :
    digitsValue 16 (Buffer.toHex bytes).toList = some (Buffer.beValue bytes) := by
  have hfold : ∀ bytes : Buffer, (Buffer.toHex bytes).toList.foldlM
      (fun n c => (Json.hexValue c).bind fun d => if d < 16 then some (16 * n + d) else none) 0 =
        some (Buffer.beValue bytes) := by
    intro bytes
    rw [Buffer.toHex, String.toList_ofList]
    induction bytes using List.reverseRecOn with
    | nil => rfl
    | append_singleton bytes b ih =>
      have hvalue : Buffer.beValue (bytes ++ [b]) = 256 * Buffer.beValue bytes + b.toNat := by
        rw [Buffer.beValue, List.reverse_append, Nat.add_comm]
        rfl
      rw [List.flatMap_append, List.foldlM_append, ih, hvalue]
      exact digitsValue_hexByte b _
  have hne : (Buffer.toHex bytes).toList ≠ [] := by
    rw [Buffer.toHex, String.toList_ofList]
    cases bytes with
    | nil => exact absurd rfl h
    | cons b bytes => simp
  rw [digitsValue, if_neg hne, hfold]

/-- `BigInt` of bytes in hexadecimal digits. -/
theorem toBigInt_toHex {bytes : Buffer} (h : bytes ≠ []) :
    toBigInt (some (.string ("0x" ++ Buffer.toHex bytes))) = .ok (Buffer.beValue bytes) := by
  have htext : ("0x" ++ Buffer.toHex bytes).toList = '0' :: 'x' :: (Buffer.toHex bytes).toList := by
    rw [String.toList_append]
    rfl
  have hspace : ∀ c ∈ ("0x" ++ Buffer.toHex bytes).toList, isSpace c = false := by
    rw [htext, Buffer.toHex, String.toList_ofList, List.forall_mem_cons, List.forall_mem_cons]
    refine ⟨by decide, by decide, fun c hc => ?_⟩
    obtain ⟨b, -, hdigit⟩ := List.mem_flatMap.1 hc
    have hb : b.toNat < 256 := b.toNat_lt
    rcases List.mem_pair.1 hdigit with rfl | rfl
    · exact isSpace_hexDigit (by omega)
    · exact isSpace_hexDigit (by omega)
  have hinteger : integerOf ('0' :: 'x' :: (Buffer.toHex bytes).toList) =
      some (Buffer.beValue bytes : ℤ) := by
    rw [integerOf, if_pos (Or.inl rfl), digitsValue_toHex h]
    rfl
  rw [toBigInt, text, ok_bind, trim_of_forall hspace, htext, hinteger]
  all_goals simp

end JsValue

/-! ## The encoding of the library -/

/-- The encoding pads each value of a static type to 32 bytes. -/
def PadsStatic (lib : PoolLibrary) : Prop :=
  AbiEncoder.PadsStatic lib.encode lib.address

/-! ## The arguments of a token id -/

/-- The arguments of both functions, with the address by its bytes. -/
@[ext] structure TokenArguments where
  chainId : ℕ
  pool : Address
  timestamp : ℕ
  slotIndex : ℕ
  chainId_lt : chainId < 2 ^ 53
  timestamp_lt : timestamp < 2 ^ 64
  slotIndex_lt : slotIndex < 2 ^ 32

namespace TokenArguments

variable (lib : PoolLibrary) (a : TokenArguments)

/-- What is hashed. -/
def encoding : Buffer :=
  Solidity.words [a.chainId, a.pool.toNat, a.timestamp, a.slotIndex]

/-- The id in the contract. -/
def onChain : Uint256 :=
  TTT.getTokenId lib.keccak256 (BitVec.ofNat 256 a.chainId) a.pool (BitVec.ofNat 256 a.timestamp)
    (BitVec.ofNat 256 a.slotIndex)

/-- The id of a registry, which stores it. -/
def offChain (poolAddress : String) (r : PoolRegistry) : Except Thrown (String × PoolRegistry) :=
  PoolRegistry.getTokenId lib (.ofNat a.chainId a.chainId_lt) poolAddress a.timestamp
    (.ofNat a.slotIndex (a.slotIndex_lt.trans (by decide))) r

/-- A text is a valid address, of the pool. -/
def Addresses (poolAddress : String) : Prop :=
  PoolRegistry.isAddress lib poolAddress = true ∧
    lib.address (lib.toLowerCase poolAddress) = some a.pool

variable {lib a}

/-- **The words determine the arguments.** -/
theorem encoding_injective : Function.Injective encoding := by
  intro a b h
  have hbound : ∀ a : TokenArguments,
      ∀ n ∈ [a.chainId, a.pool.toNat, a.timestamp, a.slotIndex], n < 2 ^ 256 := by
    intro a
    have hpool := a.pool.isLt
    have hchain := a.chainId_lt
    have htime := a.timestamp_lt
    have hslot := a.slotIndex_lt
    simp only [List.forall_mem_cons, List.not_mem_nil, false_implies, implies_true, and_true]
    omega
  have hwords := Solidity.words_inj (hbound a) (hbound b) h
  simp only [List.cons.injEq, and_true] at hwords
  obtain ⟨hchain, hpool, htime, hslot⟩ := hwords
  ext1
  · exact hchain
  · exact BitVec.eq_of_toNat_eq hpool
  · exact htime
  · exact hslot

theorem onChain_eq : a.onChain lib = Solidity.toUint256 (lib.keccak256 a.encoding) := by
  have hchain := a.chainId_lt
  have htime := a.timestamp_lt
  have hslot := a.slotIndex_lt
  rw [onChain, TTT.getTokenId, TTT.encodeTokenId, encoding, BitVec.toNat_ofNat, BitVec.toNat_ofNat,
    BitVec.toNat_ofNat, Nat.mod_eq_of_lt (by omega), Nat.mod_eq_of_lt (by omega),
    Nat.mod_eq_of_lt (by omega)]

/-- The number of the id in the contract is that of the hash. -/
theorem toNat_onChain : (a.onChain lib).toNat =
    Buffer.beValue (lib.keccak256 a.encoding).toList := by
  have hlt := Buffer.beValue_lt (lib.keccak256 a.encoding).toList
  rw [Vector.length_toList] at hlt
  rw [onChain_eq, Solidity.toUint256, BitVec.toNat_ofNat]
  exact Nat.mod_eq_of_lt (by omega)

theorem keccak256_eq_of_onChain_eq {b : TokenArguments} (h : a.onChain lib = b.onChain lib) :
    lib.keccak256 a.encoding = lib.keccak256 b.encoding := by
  have hvalue := congrArg BitVec.toNat h
  rw [toNat_onChain, toNat_onChain] at hvalue
  rw [← Vector.toList_inj, ← Buffer.toBeBytes_beValue_toList, hvalue,
    Buffer.toBeBytes_beValue_toList]

/-- Ids in the contract are only equal if the hash collides. -/
theorem onChain_injOn {S : Set TokenArguments} (hinj : Set.InjOn lib.keccak256 (encoding '' S)) :
    Set.InjOn (fun a => a.onChain lib) S := by
  intro a ha b hb h
  exact encoding_injective
    (hinj (Set.mem_image_of_mem _ ha) (Set.mem_image_of_mem _ hb) (keccak256_eq_of_onChain_eq h))

/-! ## The two ids -/

/-- The words of the call of a registry. -/
theorem encode_eq (hpads : PadsStatic lib) {poolAddress : String}
    (h : a.Addresses lib poolAddress) :
    lib.encode ["uint256", "address", "uint64", "uint32"]
      [.bigint a.chainId, .string (lib.toLowerCase poolAddress), .bigint a.timestamp,
        .number (Number.ofNat a.slotIndex (a.slotIndex_lt.trans (by decide))).value] =
      .ok a.encoding := by
  have hslot : bigNumberish (.number (Number.ofNat a.slotIndex
      (a.slotIndex_lt.trans (by decide))).value) = some (a.slotIndex : ℤ) := by
    rw [bigNumberish, Number.toInt?_ofNat, Option.filter_some, if_pos]
    simpa using a.slotIndex_lt.trans (show 2 ^ 32 < 2 ^ 53 by decide)
  have hword₁ : staticWord lib.address "uint256" (.bigint a.chainId) = some a.chainId :=
    staticWord_uint lib.address rfl rfl (a.chainId_lt.trans (by decide))
  have hword₂ : staticWord lib.address "address" (.string (lib.toLowerCase poolAddress)) =
      some a.pool.toNat := by
    simp [staticWord, uintBits, h.2]
  have hword₃ : staticWord lib.address "uint64" (.bigint a.timestamp) = some a.timestamp :=
    staticWord_uint lib.address rfl rfl a.timestamp_lt
  have hword₄ : staticWord lib.address "uint32"
      (.number (Number.ofNat a.slotIndex (a.slotIndex_lt.trans (by decide))).value) =
        some a.slotIndex :=
    staticWord_uint lib.address rfl hslot a.slotIndex_lt
  refine hpads _ _ _ ?_
  simp only [staticWords, hword₁, hword₂, hword₃, hword₄, Option.bind_some, Option.map_some]

/-- A slot index of 32 bits passes the check. -/
theorem isSlotIndex_ofNat {n : ℕ} (h : n < 2 ^ 32) :
    PoolRegistry.isSlotIndex (Number.ofNat n (h.trans (by decide))).value = true := by
  have hlow : ¬ ((n : ℚ) < 0) := not_lt.2 (Nat.cast_nonneg n)
  have hhigh : ¬ ((4294967295 : ℚ) < n) := by
    rw [not_lt]
    exact_mod_cast Nat.le_of_lt_succ h
  rw [PoolRegistry.isSlotIndex, Number.toInt?_ofNat]
  simp [Number.ofNat, Binary64.lt, hlow, hhigh]

/-- **What a registry returns** for a valid address: the number of the contract, in hexadecimal
digits. -/
theorem offChain_eq (hpads : PadsStatic lib) {poolAddress : String}
    (h : a.Addresses lib poolAddress) (r : PoolRegistry) : ∃ r',
    a.offChain lib poolAddress r =
      .ok ("0x" ++ Buffer.toHex (lib.keccak256 a.encoding).toList, r') := by
  have htime : ¬ ((a.timestamp : ℤ) > 18446744073709551615) := by
    have hlt := a.timestamp_lt
    omega
  have hchain : JsValue.toBigInt (some (.number (Number.ofNat a.chainId a.chainId_lt).value)) =
      .ok (a.chainId : ℤ) := by
    rw [JsValue.toBigInt, Number.toInt?_ofNat]
  rw [offChain, PoolRegistry.getTokenId, if_neg (by rw [h.1]; decide),
    if_neg (by rw [isSlotIndex_ofNat a.slotIndex_lt]; decide), if_neg htime]
  simp only [hchain, ok_bind, encode_eq hpads h]
  exact ⟨_, rfl⟩

/-- The text of an id as a number. -/
theorem toBigInt_tokenId : JsValue.toBigInt
    (some (.string ("0x" ++ Buffer.toHex (lib.keccak256 a.encoding).toList))) =
      .ok ((a.onChain lib).toNat : ℤ) := by
  have hne : (lib.keccak256 a.encoding).toList ≠ [] := by
    rw [← List.length_pos_iff, Vector.length_toList]
    decide
  rw [JsValue.toBigInt_toHex hne, toNat_onChain]

/-- **Token ids agree and do not collide**, of a hash without collisions among the encodings of some
arguments: a registry returns the number of the contract for a valid address, and both functions
tell the arguments apart, with the addresses compared by their bytes. -/
theorem token_ids_agree (hpads : PadsStatic lib) (S : Set TokenArguments)
    (hinj : Set.InjOn lib.keccak256 (encoding '' S)) :
    (∀ (a : TokenArguments) (poolAddress : String) (r : PoolRegistry), a.Addresses lib poolAddress →
      ∃ tokenId r', a.offChain lib poolAddress r = .ok (tokenId, r') ∧
        JsValue.toBigInt (some (.string tokenId)) = .ok ((a.onChain lib).toNat : ℤ)) ∧
    Set.InjOn (fun a => a.onChain lib) S ∧
    ∀ a ∈ S, ∀ b ∈ S, ∀ (poolAddress poolAddress' : String) (r r₁ r' r₁' : PoolRegistry)
      (tokenId : String), a.Addresses lib poolAddress → b.Addresses lib poolAddress' →
      a.offChain lib poolAddress r = .ok (tokenId, r₁) →
      b.offChain lib poolAddress' r' = .ok (tokenId, r₁') → a = b := by
  refine ⟨fun a poolAddress r h => ?_, onChain_injOn hinj, ?_⟩
  · obtain ⟨r', hr'⟩ := offChain_eq hpads h r
    exact ⟨_, r', hr', toBigInt_tokenId⟩
  · intro a ha b hb poolAddress poolAddress' r r₁ r' r₁' tokenId h h' hid hid'
    obtain ⟨r₂, hr₂⟩ := offChain_eq hpads h r
    obtain ⟨r₂', hr₂'⟩ := offChain_eq hpads h' r'
    rw [hr₂] at hid
    rw [hr₂'] at hid'
    have htext := (congrArg Prod.fst (Except.ok.inj hid)).trans
      (congrArg Prod.fst (Except.ok.inj hid')).symm
    have hvalue := congrArg (fun text => JsValue.toBigInt (some (.string text))) htext
    simp only [toBigInt_tokenId, Except.ok.injEq, Int.natCast_inj] at hvalue
    exact onChain_injOn hinj ha hb (BitVec.eq_of_toNat_eq hvalue)

/-! ## The id of a slot -/

/-- Read forty hexadecimal digits in lower case behind a `0x`. -/
def sampleAddress (text : String) : Option Address :=
  let digits := text.toList.drop 2
  if text.toList.take 2 = ['0', 'x'] ∧ digits.length = 40 ∧
      digits.all (fun c => c.isDigit || ('a' ≤ c && c ≤ 'f')) then
    some (BitVec.ofNat 160 (Buffer.beValue (Buffer.fromHexDigits digits)))
  else none

/-- A slot of a pool. -/
def sampleArguments : TokenArguments where
  chainId := 84532
  pool := 0xde357135ca493e59680182cde9e1c6a4da400811
  timestamp := 1700000000000000000
  slotIndex := 3
  chainId_lt := by decide
  timestamp_lt := by decide
  slotIndex_lt := by decide

/-- The next slot. -/
def nextArguments : TokenArguments :=
  { sampleArguments with
    slotIndex := 4
    slotIndex_lt := by decide }

/-- A library that pads, with the hashes of the two slots. -/
def sampleLibrary : PoolLibrary where
  toLowerCase text := String.ofList (text.toList.map Char.toLower)
  address := sampleAddress
  encode := AbiEncoder.static sampleAddress
  keccak256 data :=
    if data = nextArguments.encoding then
      ⟨(Buffer.fromHex
        "e78d10a62365e573e8f0aa0fa1fd05ad09d11cd6ada3a30e077710c14224a213").toArray, by
          decide +kernel⟩
    else
      ⟨(Buffer.fromHex
        "68120607efe03a7fa1050812c45e1032f4c4af09e2d55216e2ed725f7e258e8a").toArray, by
          decide +kernel⟩

theorem sampleLibrary_padsStatic : PadsStatic sampleLibrary := AbiEncoder.padsStatic_static _

theorem addresses_sampleArguments : sampleArguments.Addresses sampleLibrary
    "0xDE357135cA493e59680182CDE9E1c6A4dA400811" := by
  have haddress : sampleAddress (sampleLibrary.toLowerCase
      "0xDE357135cA493e59680182CDE9E1c6A4dA400811") = some sampleArguments.pool := by
    decide +kernel
  refine ⟨?_, haddress⟩
  have hsome : sampleLibrary.address (sampleLibrary.toLowerCase
      "0xDE357135cA493e59680182CDE9E1c6A4dA400811") = some sampleArguments.pool := haddress
  rw [PoolRegistry.isAddress, hsome]
  decide

/-- The ids of the two slots: in a new registry, in the contract, and in two registries. -/
theorem token_ids_agree_sampleArguments :
    (∃ tokenId r',
      sampleArguments.offChain sampleLibrary "0xDE357135cA493e59680182CDE9E1c6A4dA400811"
        .new = .ok (tokenId, r') ∧
      JsValue.toBigInt (some (.string tokenId)) =
        .ok ((sampleArguments.onChain sampleLibrary).toNat : ℤ)) ∧
    sampleArguments.onChain sampleLibrary ≠ nextArguments.onChain sampleLibrary ∧
    ∀ (r r₁ r' r₁' : PoolRegistry) (tokenId : String),
      sampleArguments.offChain sampleLibrary "0xDE357135cA493e59680182CDE9E1c6A4dA400811" r =
        .ok (tokenId, r₁) →
      nextArguments.offChain sampleLibrary "0xDE357135cA493e59680182CDE9E1c6A4dA400811" r' ≠
        .ok (tokenId, r₁') := by
  have hne : sampleArguments ≠ nextArguments := by
    intro h
    exact absurd (congrArg TokenArguments.slotIndex h) (by decide)
  have hinj : Set.InjOn sampleLibrary.keccak256
      (encoding '' {sampleArguments, nextArguments}) := by
    rw [Set.image_pair, Set.injOn_pair]
    intro h
    exact absurd h (by decide +kernel)
  obtain ⟨hids, honChain, hoffChain⟩ := token_ids_agree sampleLibrary_padsStatic _ hinj
  refine ⟨hids sampleArguments _ .new addresses_sampleArguments, fun h => hne ?_, ?_⟩
  · exact honChain (Set.mem_insert _ _) (Set.mem_insert_of_mem _ rfl) h
  · intro r r₁ r' r₁' tokenId hid hid'
    exact hne (hoffChain _ (Set.mem_insert _ _) _ (Set.mem_insert_of_mem _ rfl) _ _ _ _ _ _ _
      addresses_sampleArguments addresses_sampleArguments hid hid')

end TokenArguments

end OpenTTT
