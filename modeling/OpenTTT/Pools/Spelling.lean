import OpenTTT.Pools.TokenId

/-!
# Spellings of an address

The registry keeps a pool under the lower-case text of its address, and its token ids are computed
from the bytes of the address. `ethers` takes forty digits for an address with or without `0x`, so
a pool has two keys. `spelling_unnoticed_iff` says which replacements of addresses go unnoticed in
every run: those that keep the `0x`, or its absence.
-/

namespace OpenTTT

namespace PoolRegistry

/-! ## Addresses in lower case -/

/-- A text starts with `0x`. -/
def Starts0x (text : String) : Prop := text.toList.take 2 = ['0', 'x']

instance (text : String) : Decidable (Starts0x text) :=
  inferInstanceAs (Decidable (text.toList.take 2 = ['0', 'x']))

/-- The digits of an address, behind its `0x` if it has one. -/
def addressDigits (text : String) : List Char :=
  if Starts0x text then text.toList.drop 2 else text.toList

/-- A hexadecimal digit in lower case. -/
def IsLowerHex (c : Char) : Bool := c.isDigit || ('a' ≤ c && c ≤ 'f')

/-- `ethers.getAddress` of a text in lower case. -/
def lowerCaseAddress (text : String) : Option Address :=
  if (addressDigits text).length = 40 ∧ (addressDigits text).all IsLowerHex then
    some (BitVec.ofNat 160 (Buffer.beValue (Buffer.fromHexDigits (addressDigits text))))
  else none

/-- In lower case, the addresses are forty hexadecimal digits with or without `0x`. -/
def AcceptsBoth (lib : PoolLibrary) : Prop :=
  ∀ text, lib.address (lib.toLowerCase text) = lowerCaseAddress (lib.toLowerCase text)

theorem toList_eq_addressDigits (text : String) :
    text.toList = (if Starts0x text then ['0', 'x'] else []) ++ addressDigits text := by
  unfold addressDigits
  split
  · rename_i h
    rw [← h, List.take_append_drop]
  · rfl

/-- A digit in lower case is a digit, and stays as it is. -/
theorem isLowerHex_spec {c : Char} (h : IsLowerHex c = true) :
    (Buffer.hexValue c).isSome ∧ c.toLower = c := by
  have hc : Char.ofNat c.toNat = c := Char.ofNat_toNat c
  have hrange : (48 ≤ c.toNat ∧ c.toNat ≤ 57) ∨ 97 ≤ c.toNat ∧ c.toNat ≤ 102 := by
    simp only [IsLowerHex, Char.isDigit, Bool.or_eq_true, Bool.and_eq_true, decide_eq_true_eq] at h
    exact h
  rw [← hc]
  generalize c.toNat = n at hrange
  rcases hrange with ⟨hlo, hhi⟩ | ⟨hlo, hhi⟩
  · interval_cases n <;> decide
  · interval_cases n <;> decide

/-- An even number of digits is decoded as a whole. -/
theorem hexPairs_of_all {digits : List Char} (heven : digits.length % 2 = 0)
    (hhex : ∀ c ∈ digits, IsLowerHex c = true) : Buffer.hexPairs digits = digits := by
  fun_induction Buffer.hexPairs digits with
  | case1 c d rest h ih =>
    rw [List.length_cons, List.length_cons] at heven
    rw [ih (by omega) fun e he => hhex e (by simp [he])]
  | case2 c d rest h =>
    refine absurd ?_ h
    rw [(isLowerHex_spec (hhex c (by simp))).1, (isLowerHex_spec (hhex d (by simp))).1]
    rfl
  | case3 digits h =>
    cases digits with
    | nil => rfl
    | cons c rest =>
      cases rest with
      | nil => simp at heven
      | cons d rest => exact absurd rfl (h c d rest)

theorem length_fromHexDigits {digits : List Char} (hlen : digits.length = 40)
    (hhex : ∀ c ∈ digits, IsLowerHex c = true) : (Buffer.fromHexDigits digits).length = 20 := by
  have htext := congrArg List.length (Buffer.toHex_fromHexDigits digits)
  rw [hexPairs_of_all (by omega) hhex, List.length_map, hlen, Buffer.length_toHex] at htext
  omega

/-- Forty digits are determined by their bytes. -/
theorem digits_eq_of_bytes_eq {digits digits' : List Char} (hlen : digits.length = 40)
    (hlen' : digits'.length = 40) (hhex : ∀ c ∈ digits, IsLowerHex c = true)
    (hhex' : ∀ c ∈ digits', IsLowerHex c = true)
    (h : BitVec.ofNat 160 (Buffer.beValue (Buffer.fromHexDigits digits)) =
      BitVec.ofNat 160 (Buffer.beValue (Buffer.fromHexDigits digits'))) : digits = digits' := by
  have hbytes := length_fromHexDigits hlen hhex
  have hbytes' := length_fromHexDigits hlen' hhex'
  have hlt := Buffer.beValue_lt (Buffer.fromHexDigits digits)
  have hlt' := Buffer.beValue_lt (Buffer.fromHexDigits digits')
  rw [hbytes] at hlt
  rw [hbytes'] at hlt'
  have hvalue := congrArg BitVec.toNat h
  rw [BitVec.toNat_ofNat, BitVec.toNat_ofNat, Nat.mod_eq_of_lt (by omega),
    Nat.mod_eq_of_lt (by omega)] at hvalue
  have hdecoded : Buffer.fromHexDigits digits = Buffer.fromHexDigits digits' := by
    rw [← Buffer.toBeBytes_beValue (Buffer.fromHexDigits digits), hvalue, hbytes, ← hbytes',
      Buffer.toBeBytes_beValue]
  have hlower := Buffer.fromHexDigits_eq_iff.1 hdecoded
  rw [hexPairs_of_all (by omega) hhex, hexPairs_of_all (by omega) hhex'] at hlower
  have hid {l : List Char} (hl : ∀ c ∈ l, IsLowerHex c = true) : l.map Char.toLower = l := by
    conv_rhs => rw [← List.map_id l]
    exact List.map_congr_left fun c hc => (isLowerHex_spec (hl c hc)).2
  rw [hid hhex, hid hhex'] at hlower
  exact hlower

/-- Two texts of one address are the same if both have the `0x` or neither. -/
theorem eq_of_lowerCaseAddress_eq {text text' : String} {a : Address}
    (h : lowerCaseAddress text = some a) (h' : lowerCaseAddress text' = some a)
    (hstart : Starts0x text ↔ Starts0x text') : text = text' := by
  unfold lowerCaseAddress at h h'
  split at h
  · rename_i hdigits
    split at h'
    · rename_i hdigits'
      have heq := digits_eq_of_bytes_eq hdigits.1 hdigits'.1 (List.all_eq_true.1 hdigits.2)
        (List.all_eq_true.1 hdigits'.2) (Option.some.inj (h.trans h'.symm))
      rw [← String.toList_inj, toList_eq_addressDigits text, toList_eq_addressDigits text', heq]
      simp only [hstart]
    · cases h'
  · cases h

/-! ## Replacing addresses -/

/-- Two accepted spellings of one address. -/
structure SamePool (lib : PoolLibrary) (p p' : String) : Prop where
  left : isAddress lib p = true
  right : isAddress lib p' = true
  address : lib.address (lib.toLowerCase p) = lib.address (lib.toLowerCase p')

/-- The operations that take the address of a pool, as functions of it. -/
inductive OnPool : (String → Operation) → Prop
  | registerPool (chainId : Number) : OnPool fun p => .registerPool chainId p
  | getTokenId (chainId : Number) (timestamp : ℤ) (slotIndex : Number) :
    OnPool fun p => .getTokenId chainId p timestamp slotIndex
  | isValidForPool (tokenId : String) : OnPool fun p => .isValidForPool tokenId p
  | getPoolStats : OnPool fun p => .getPoolStats p
  | recordMint (amount : ℤ) : OnPool fun p => .recordMint p amount
  | recordBurn (amount : ℤ) : OnPool fun p => .recordBurn p amount

/-- An operation on a pool, with its address kept, or replaced by one that it is related to. -/
inductive Replaced (R : String → String → Prop) : Operation → Operation → Prop
  | keep {f : String → Operation} (p : String) : OnPool f → Replaced R (f p) (f p)
  | replace {f : String → Operation} {p p' : String} : OnPool f → R p p' →
    Replaced R (f p) (f p')

/-- Replacing addresses changes no result of a run. -/
def Unnoticed (lib : PoolLibrary) (R : String → String → Prop) : Prop :=
  ∀ ops ops', List.Forall₂ (Replaced R) ops ops' →
    Mealy.outputs (step lib) new ops = Mealy.outputs (step lib) new ops'

section Replacement

variable {lib : PoolLibrary} {R : String → String → Prop}

/-- Spellings with one text in lower case are one pool for every operation. -/
theorem step_eq_of_lower_eq {p p' : String} (h : SamePool lib p p')
    (hlower : lib.toLowerCase p = lib.toLowerCase p') {f : String → Operation} (hf : OnPool f)
    (r : PoolRegistry) : step lib r (f p) = step lib r (f p') := by
  obtain ⟨hleft, hright, -⟩ := h
  cases hf with
  | registerPool chainId =>
    simp only [step, registerPool, hleft, hright, hlower, Bool.not_true, Bool.false_eq_true,
      if_false]
  | getTokenId chainId timestamp slotIndex =>
    simp only [step, getTokenId, hleft, hright, hlower, Bool.not_true, Bool.false_eq_true,
      if_false]
  | isValidForPool tokenId =>
    simp only [step, PoolRegistry.isValidForPool, hleft, hright, hlower]
  | getPoolStats =>
    simp only [step, PoolRegistry.getPoolStats, hleft, hright, hlower]
  | recordMint amount =>
    simp only [step, PoolRegistry.recordMint, updateStats, hleft, hright, hlower]
  | recordBurn amount =>
    simp only [step, PoolRegistry.recordBurn, updateStats, hleft, hright, hlower]

/-- Replacements that keep the text in lower case are not noticed. -/
theorem unnoticed_of_lower_eq (hR : ∀ p p', R p p' → SamePool lib p p')
    (hlower : ∀ p p', R p p' → lib.toLowerCase p = lib.toLowerCase p') : Unnoticed lib R := by
  intro ops ops' h
  generalize new = r
  induction h generalizing r with
  | nil => rfl
  | @cons op op' ops ops' hop _ ih =>
    have hstep : step lib r op = step lib r op' := by
      cases hop with
      | keep p hf => rfl
      | replace hf hp => exact step_eq_of_lower_eq (hR _ _ hp) (hlower _ _ hp) hf r
    rw [Mealy.outputs, Mealy.outputs, hstep, ih]

/-- The statistics of a pool that has just been registered. -/
theorem outputs_registered (chainId : Number) {p p' : String} (h : isAddress lib p = true)
    (h' : isAddress lib p' = true) :
    Mealy.outputs (step lib) new [.registerPool chainId p, .getPoolStats p'] =
      [.ok .undefined, .ok (.stats (if lib.toLowerCase p' = lib.toLowerCase p then some (0, 0)
        else none))] := by
  have hregister : registerPool lib chainId p new = .ok { new with
      pools := InsertionMap.empty.set (lib.toLowerCase p)
        ⟨some (.number chainId.value), 0, 0⟩ } := by
    rw [registerPool, h, Bool.not_true, if_neg Bool.false_ne_true]
    rfl
  have hstats (r : PoolRegistry) : getPoolStats lib p' r =
      (r.pools.get? (lib.toLowerCase p')).map fun stats => (stats.minted, stats.burned) := by
    rw [getPoolStats, h', Bool.not_true, if_neg Bool.false_ne_true]
  simp only [Mealy.outputs, step, hregister, hstats, InsertionMap.get?_set, InsertionMap.get?_empty]
  split <;> rfl

/-- A replacement that is not noticed keeps the text in lower case. -/
theorem lower_eq_of_unnoticed (hR : ∀ p p', R p p' → SamePool lib p p') (h : Unnoticed lib R)
    {p p' : String} (hp : R p p') : lib.toLowerCase p = lib.toLowerCase p' := by
  obtain ⟨hleft, hright, -⟩ := hR p p' hp
  have hrun := h [.registerPool (.ofNat 1 (by decide)) p, .getPoolStats p]
    [.registerPool (.ofNat 1 (by decide)) p, .getPoolStats p']
    (.cons (.keep p (.registerPool _)) (.cons (.replace .getPoolStats hp) .nil))
  rw [outputs_registered _ hleft hleft, outputs_registered _ hleft hright, if_pos rfl] at hrun
  by_contra hne
  rw [if_neg (Ne.symm hne)] at hrun
  simp at hrun

end Replacement

/-- **Which spellings go unnoticed**: replacements of addresses by others of the same bytes change
no result of any run if and only if each of them keeps the `0x`, or its absence. -/
theorem spelling_unnoticed_iff (lib : PoolLibrary) (haccepts : AcceptsBoth lib)
    (R : String → String → Prop) (hR : ∀ p p', R p p' → SamePool lib p p') :
    Unnoticed lib R ↔ ∀ p p', R p p' →
      (Starts0x (lib.toLowerCase p) ↔ Starts0x (lib.toLowerCase p')) := by
  constructor
  · intro h p p' hp
    rw [lower_eq_of_unnoticed hR h hp]
  · intro hstart
    refine unnoticed_of_lower_eq hR fun p p' hp => ?_
    obtain ⟨hleft, -, haddress⟩ := hR p p' hp
    rw [isAddress, Bool.and_eq_true, Option.isSome_iff_exists] at hleft
    obtain ⟨-, a, ha⟩ := hleft
    have ha' := haddress.symm.trans ha
    rw [haccepts] at ha ha'
    exact eq_of_lowerCaseAddress_eq ha ha' (hstart p p' hp)

/-! ## Samples -/

/-- A library that takes both spellings. -/
def bothLibrary : PoolLibrary where
  toLowerCase := TokenArguments.sampleLibrary.toLowerCase
  address := lowerCaseAddress
  encode := AbiEncoder.static lowerCaseAddress
  keccak256 := TokenArguments.sampleLibrary.keccak256

theorem acceptsBoth_bothLibrary : AcceptsBoth bothLibrary := by
  intro text
  have haddress : bothLibrary.address = lowerCaseAddress := rfl
  rw [haddress]

/-- An address as a checksummed text, in capitals, and without `0x`. -/
def checksummed : String := "0xDE357135cA493e59680182CDE9E1c6A4dA400811"

def capitals : String := "0xDE357135CA493E59680182CDE9E1C6A4DA400811"

def without0x : String := "de357135ca493e59680182cde9e1c6a4da400811"

theorem address_samples : ∀ p ∈ [checksummed, capitals, without0x],
    bothLibrary.address (bothLibrary.toLowerCase p) =
      some 0xde357135ca493e59680182cde9e1c6a4da400811 := by
  decide +kernel

theorem samePool_samples {p p' : String} (hp : p ∈ [checksummed, capitals, without0x])
    (hp' : p' ∈ [checksummed, capitals, without0x]) : SamePool bothLibrary p p' := by
  have haccepted : ∀ p ∈ [checksummed, capitals, without0x], isAddress bothLibrary p = true := by
    intro p hp
    have hne : p ≠ "" := by
      rintro rfl
      exact absurd hp (by decide)
    rw [isAddress, address_samples p hp, decide_eq_true hne]
    rfl
  exact ⟨haccepted p hp, haccepted p' hp',
    (address_samples p hp).trans (address_samples p' hp').symm⟩

/-- The checksum is replaced by capitals. -/
theorem spelling_unnoticed_iff_capitals :
    Unnoticed bothLibrary fun p p' => p = checksummed ∧ p' = capitals := by
  refine (spelling_unnoticed_iff bothLibrary acceptsBoth_bothLibrary _ ?_).2 ?_
  · rintro p p' ⟨rfl, rfl⟩
    exact samePool_samples (by decide) (by decide)
  · rintro p p' ⟨rfl, rfl⟩
    decide +kernel

/-- Replacements of an address by any other one of the same bytes change no result. -/
def SpellingUnnoticed (lib : PoolLibrary) : Prop := Unnoticed lib (SamePool lib)

/-- The `0x` is left out. -/
theorem not_spellingUnnoticed : AcceptsBoth bothLibrary ∧ ¬ SpellingUnnoticed bothLibrary := by
  refine ⟨acceptsBoth_bothLibrary, fun h => ?_⟩
  have hsame : SamePool bothLibrary checksummed without0x :=
    samePool_samples (by decide) (by decide)
  have hlower := lower_eq_of_unnoticed (fun _ _ hp => hp) h hsame
  exact absurd hlower (by decide +kernel)

end PoolRegistry

end OpenTTT
