import OpenTTT.Runtime.Buffer

/-!
# Values of contracts

The types of Solidity that the contracts share, with the arithmetic that reverts when it overflows.
`abi.encode` of values that are not dynamic writes each of them into a word of 32 bytes;
`words_inj` says that the words can be told apart. A call to a contract is a selector of four bytes
followed by its arguments; `selectorOf_encodeCall` reads the selector back.
-/

namespace OpenTTT

abbrev Address := BitVec 160

abbrev Uint256 := BitVec 256

abbrev Uint24 := BitVec 24

abbrev Bytes32 := Vector UInt8 32

namespace Solidity

/-- `a + b`, unless it overflows. -/
def checkedAdd (a b : Uint256) : Option Uint256 :=
  if a.toNat + b.toNat < 2 ^ 256 then some (a + b) else none

/-- A sum that does not overflow is that of the numbers. -/
theorem checkedAdd_eq_some {a b c : Uint256} (h : checkedAdd a b = some c) :
    c.toNat = a.toNat + b.toNat := by
  unfold checkedAdd at h
  split at h
  · rename_i hlt
    cases h
    rw [BitVec.toNat_add]
    exact Nat.mod_eq_of_lt hlt
  · cases h

/-- `a * b`, unless it overflows. -/
def checkedMul (a b : Uint256) : Option Uint256 :=
  if a.toNat * b.toNat < 2 ^ 256 then some (a * b) else none

/-- `a ** n`, unless it overflows. -/
def checkedPow (a : Uint256) (n : ℕ) : Option Uint256 :=
  if a.toNat ^ n < 2 ^ 256 then some (BitVec.ofNat 256 (a.toNat ^ n)) else none

/-- `bytes32(0)`. -/
def zeroBytes32 : Bytes32 := Vector.replicate 32 0

/-- `uint256(word)`. -/
def toUint256 (word : Bytes32) : Uint256 := BitVec.ofNat 256 (Buffer.beValue word.toList)

/-- Values in words of 32 bytes. -/
def words (values : List ℕ) : Buffer := values.flatMap (toBeBytes 32)

/-- Values of the width of a word are told apart by their words. -/
theorem words_inj {a b : List ℕ} (ha : ∀ n ∈ a, n < 2 ^ 256) (hb : ∀ n ∈ b, n < 2 ^ 256)
    (h : words a = words b) : a = b := by
  have hwords := (Buffer.selfDelimiting_toBeBytes 32).forall₂_of_flatMap (fun n _ => ?_) ha hb h
  · rwa [List.forall₂_eq_eq_eq] at hwords
  · rw [← List.length_pos_iff, Buffer.length_toBeBytes]
    omega

/-! ## Calls -/

/-- `abi.encodeWithSelector`, for arguments that are not dynamic. -/
def encodeCall (selector : BitVec 32) (arguments : List ℕ) : Buffer :=
  toBeBytes 4 selector.toNat ++ words arguments

/-- The selector of the data of a call. -/
def selectorOf (data : Buffer) : Option (BitVec 32) :=
  if data.length < 4 then none else some (BitVec.ofNat 32 (Buffer.beValue (data.take 4)))

/-- The argument of a call at a position. -/
def argument (data : Buffer) (i : ℕ) : Uint256 :=
  BitVec.ofNat 256 (Buffer.beValue ((data.drop (4 + 32 * i)).take 32))

/-- The first arguments of a call, unless the data is too short. -/
def decodeArguments (n : ℕ) (data : Buffer) : Option (List Uint256) :=
  if data.length < 4 + 32 * n then none else some ((List.range n).map (argument data))

/-- A word as an address, unless it is too large. -/
def toAddress (word : Uint256) : Option Address :=
  if word.toNat < 2 ^ 160 then some (word.setWidth 160) else none

/-- `bytes32(word)`. -/
def toBytes32 (word : Uint256) : Bytes32 := ⟨(toBeBytes 32 word.toNat).toArray, by simp⟩

@[simp] theorem toUint256_toBytes32 (word : Uint256) : toUint256 (toBytes32 word) = word := by
  have hbytes : (toBytes32 word).toList = toBeBytes 32 word.toNat := rfl
  have hlt : word.toNat < 256 ^ 32 := word.isLt
  rw [toUint256, hbytes, Buffer.beValue_toBeBytes hlt, BitVec.ofNat_toNat, BitVec.setWidth_eq]

@[simp] theorem selectorOf_encodeCall (selector : BitVec 32) (arguments : List ℕ) :
    selectorOf (encodeCall selector arguments) = some selector := by
  have hlength : ¬ (encodeCall selector arguments).length < 4 := by
    rw [encodeCall, List.length_append, Buffer.length_toBeBytes]
    omega
  have htake : (encodeCall selector arguments).take 4 = toBeBytes 4 selector.toNat :=
    List.take_left' (Buffer.length_toBeBytes 4 _)
  have hlt : selector.toNat < 256 ^ 4 := by have := selector.isLt; omega
  rw [selectorOf, if_neg hlength, htake, Buffer.beValue_toBeBytes hlt, BitVec.ofNat_toNat,
    BitVec.setWidth_eq]

end Solidity

end OpenTTT
