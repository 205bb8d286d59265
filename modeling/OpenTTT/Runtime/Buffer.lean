import OpenTTT.Foundations.SelfDelimiting
import OpenTTT.Runtime.Errors
import OpenTTT.Runtime.Words
import Mathlib.Tactic.IntervalCases
import Mathlib.Tactic.Ring
import Mathlib.Data.List.Basic

/-!
# Byte buffers

The `Buffer` of the runtime as a list of bytes, with the operations the code uses. A read past
the end of a buffer throws a `RangeError`; `subarray` clamps its bounds instead. The hexadecimal
encoding decodes pair by pair and stops at the first pair that is none, as it is documented. The
runtime looks at the low byte of a UTF-16 unit only, so that it also takes some characters beyond
U+00FF for digits, such as U+0136 for a 6; here they end the decoding.
-/

namespace OpenTTT

/-- `text.padStart(width, '0')`. -/
def padStart (width : ℕ) (text : String) : String :=
  String.ofList (List.replicate (width - text.toList.length) '0') ++ text

/-- A buffer of bytes. -/
abbrev Buffer := List UInt8

namespace Buffer

/-- The value of bytes, the least significant first. -/
def leValue : Buffer → ℕ
  | [] => 0
  | b :: bs => b.toNat + 256 * leValue bs

/-- Read an unsigned integer of `width` bytes, the least significant first. -/
def readUIntLE (width : ℕ) (buf : Buffer) (offset : ℕ) : Except Thrown ℕ :=
  if offset + width ≤ buf.length then .ok (leValue ((buf.drop offset).take width))
  else .error .rangeError

def readUInt32LE (buf : Buffer) (offset : ℕ) : Except Thrown ℕ := readUIntLE 4 buf offset

def readBigUInt64LE (buf : Buffer) (offset : ℕ) : Except Thrown ℕ := readUIntLE 8 buf offset

/-- The value of bytes, the most significant first. -/
def beValue (buf : Buffer) : ℕ := leValue buf.reverse

/-- Read an unsigned integer of `width` bytes, the most significant first. -/
def readUIntBE (width : ℕ) (buf : Buffer) (offset : ℕ) : Except Thrown ℕ :=
  if offset + width ≤ buf.length then .ok (beValue ((buf.drop offset).take width))
  else .error .rangeError

def readUInt8 (buf : Buffer) (offset : ℕ) : Except Thrown ℕ := readUIntBE 1 buf offset

def readUInt32BE (buf : Buffer) (offset : ℕ) : Except Thrown ℕ := readUIntBE 4 buf offset

def readBigUInt64BE (buf : Buffer) (offset : ℕ) : Except Thrown ℕ := readUIntBE 8 buf offset

/-- The `width` lowest bytes of a number, the least significant first. -/
def leBytes : ℕ → ℕ → Buffer
  | 0, _ => []
  | width + 1, n => UInt8.ofNat n :: leBytes width (n / 256)

/-- `writeUInt32LE` into a new buffer of four bytes. -/
def writeUInt32LE (n : ℕ) : Except Thrown Buffer :=
  if n < 2 ^ 32 then .ok (leBytes 4 n) else .error .rangeError

/-- The bytes from `start` up to `stop`, as far as there are any. -/
def subarray (buf : Buffer) (start stop : ℕ) : Buffer := (buf.take stop).drop start

/-- The bytes of a text of one-byte characters. -/
def ofAscii (text : String) : Buffer := text.toList.map fun c => UInt8.ofNat c.toNat

/-- The first 32 bytes of a hash of 64. -/
def first32 (digest : Vector UInt8 64) : Vector UInt8 32 :=
  Vector.ofFn fun i => digest.get (i.castLE (by omega))

/-! ## Numbers in bytes -/

@[simp] theorem length_leBytes (width n : ℕ) : (leBytes width n).length = width := by
  induction width generalizing n with
  | zero => rfl
  | succ width ih => rw [leBytes, List.length_cons, ih]

theorem leValue_lt (buf : Buffer) : leValue buf < 256 ^ buf.length := by
  induction buf with
  | nil => simp [leValue]
  | cons b buf ih =>
    have hb : b.toNat < 256 := b.toNat_lt
    rw [leValue, List.length_cons, Nat.pow_succ]
    omega

/-- Reading the bytes of a number that fits into them. -/
theorem leValue_leBytes {width n : ℕ} (h : n < 256 ^ width) : leValue (leBytes width n) = n := by
  induction width generalizing n with
  | zero =>
    rw [pow_zero, Nat.lt_one_iff] at h
    rw [leBytes, leValue, h]
  | succ width ih =>
    have hdiv : n / 256 < 256 ^ width := by
      rw [Nat.div_lt_iff_lt_mul (by omega), ← Nat.pow_succ]
      exact h
    rw [leBytes, leValue, ih hdiv, UInt8.toNat_ofNat']
    exact Nat.mod_add_div n 256

/-- Writing the number of some bytes. -/
theorem leBytes_leValue (buf : Buffer) : leBytes buf.length (leValue buf) = buf := by
  induction buf with
  | nil => rfl
  | cons b buf ih =>
    have hb : b.toNat < 256 := b.toNat_lt
    have hdiv : (b.toNat + 256 * leValue buf) / 256 = leValue buf := by omega
    have hbyte : UInt8.ofNat (b.toNat + 256 * leValue buf) = b := by
      rw [← UInt8.toNat_inj, UInt8.toNat_ofNat']
      omega
    rw [List.length_cons, leValue, leBytes, hdiv, ih, hbyte]

/-- Bytes with the same number are the same. -/
theorem leValue_injOn {a b : Buffer} (hlen : a.length = b.length) (h : leValue a = leValue b) :
    a = b := by
  rw [← leBytes_leValue a, ← leBytes_leValue b, hlen, h]

/-- A number that is read from four bytes. -/
theorem lt_of_readUInt32LE {buf : Buffer} {offset n : ℕ} (h : buf.readUInt32LE offset = .ok n) :
    n < 2 ^ 32 := by
  unfold readUInt32LE readUIntLE at h
  split at h
  · cases h
    refine (leValue_lt _).trans_le ?_
    calc 256 ^ ((buf.drop offset).take 4).length ≤ 256 ^ 4 :=
          Nat.pow_le_pow_right (by omega) (List.length_take_le _ _)
      _ = 2 ^ 32 := by decide
  · cases h

/-- The bytes of a number in the two orders. -/
theorem toBeBytes_eq_reverse (width n : ℕ) : toBeBytes width n = (leBytes width n).reverse := by
  have hle : leBytes width n = (List.range width).map fun i => UInt8.ofNat (n / 256 ^ i) := by
    induction width generalizing n with
    | zero => rfl
    | succ width ih =>
      rw [leBytes, ih, List.range_succ_eq_map, List.map_cons, List.map_map, pow_zero, Nat.div_one]
      refine congrArg _ (List.map_congr_left fun i _ => ?_)
      rw [Function.comp_apply, Nat.div_div_eq_div_mul, Nat.succ_eq_add_one, pow_succ']
  rw [hle, ← List.map_reverse]
  rfl

@[simp] theorem length_toBeBytes (width n : ℕ) : (toBeBytes width n).length = width := by
  simp [toBeBytes]

theorem beValue_toBeBytes {width n : ℕ} (h : n < 256 ^ width) :
    beValue (toBeBytes width n) = n := by
  rw [beValue, toBeBytes_eq_reverse, List.reverse_reverse, leValue_leBytes h]

/-- Numbers that fit into the bytes that they are written with. -/
theorem selfDelimiting_toBeBytes (width : ℕ) :
    SelfDelimiting {n | n < 256 ^ width} (· = ·) (toBeBytes width) := by
  apply SelfDelimiting.of_length fun n _ => length_toBeBytes width n
  intro n hn m hm h
  rw [← beValue_toBeBytes hn, h, beValue_toBeBytes hm]

theorem toBeBytes_beValue (buf : Buffer) : toBeBytes buf.length (beValue buf) = buf := by
  rw [toBeBytes_eq_reverse, beValue, ← List.length_reverse, leBytes_leValue, List.reverse_reverse]

theorem beValue_lt (buf : Buffer) : beValue buf < 256 ^ buf.length := by
  have h := leValue_lt buf.reverse
  rw [List.length_reverse] at h
  exact h

/-! ## Values inside a buffer -/

/-- The bytes that stand between others. -/
theorem subarray_of_eq {buf pre v post : Buffer} {start stop : ℕ} (h : buf = pre ++ (v ++ post))
    (hstart : pre.length = start) (hstop : start + v.length = stop) :
    buf.subarray start stop = v := by
  have hlen : (pre ++ v).length = stop := by rw [List.length_append, hstart, hstop]
  rw [h, subarray, ← List.append_assoc, List.take_left' hlen, List.drop_left' hstart]

/-- The number whose bytes stand between others. -/
theorem readUIntBE_of_eq {buf pre v post : Buffer} {offset width : ℕ} (h : buf = pre ++ (v ++ post))
    (hoffset : pre.length = offset) (hwidth : v.length = width) :
    buf.readUIntBE width offset = .ok (beValue v) := by
  rw [h, readUIntBE, List.drop_left' hoffset, List.take_left' hwidth, if_pos]
  rw [List.length_append, List.length_append]
  omega

/-- A buffer cut after its first bytes. -/
theorem exists_vector_append (n : ℕ) {buf : Buffer} (h : n ≤ buf.length) :
    ∃ (v : Vector UInt8 n) (rest : Buffer), v.toList ++ rest = buf ∧
      rest.length = buf.length - n :=
  ⟨⟨(buf.take n).toArray, by simp [h]⟩, buf.drop n, List.take_append_drop n buf,
    List.length_drop⟩

/-- The number of as many bytes as `toBeBytes` is asked for. -/
theorem toBeBytes_beValue_toList {n : ℕ} (v : Vector UInt8 n) :
    toBeBytes n (beValue v.toList) = v.toList := by
  have h := toBeBytes_beValue v.toList
  rw [Vector.length_toList] at h
  exact h

/-! ## The hexadecimal encoding -/

/-- The hexadecimal digit of a number below 16. -/
def hexDigit (n : ℕ) : Char := if n < 10 then Char.ofNat (48 + n) else Char.ofNat (87 + n)

/-- The value of a hexadecimal digit, in either case. -/
def hexValue (c : Char) : Option ℕ :=
  if '0' ≤ c ∧ c ≤ '9' then some (c.toNat - 48)
  else if 'a' ≤ c ∧ c ≤ 'f' then some (c.toNat - 87)
  else if 'A' ≤ c ∧ c ≤ 'F' then some (c.toNat - 55)
  else none

/-- `buf.toString('hex')`. -/
def toHex (buf : Buffer) : String :=
  String.ofList (buf.flatMap fun b => [hexDigit (b.toNat / 16), hexDigit (b.toNat % 16)])

/-- The bytes of the pairs of digits before the first pair that is none. -/
def fromHexDigits : List Char → Buffer
  | c :: d :: rest =>
    match hexValue c, hexValue d with
    | some x, some y => UInt8.ofNat (16 * x + y) :: fromHexDigits rest
    | _, _ => []
  | _ => []

/-- `Buffer.from(text, 'hex')`. -/
def fromHex (text : String) : Buffer := fromHexDigits text.toList

theorem toList_toHex (buf : Buffer) : (toHex buf).toList =
    buf.flatMap fun b => [hexDigit (b.toNat / 16), hexDigit (b.toNat % 16)] := by
  rw [toHex, String.toList_ofList]

theorem length_toHex (buf : Buffer) : (toHex buf).toList.length = 2 * buf.length := by
  rw [toList_toHex]
  induction buf with
  | nil => rfl
  | cons b buf ih =>
    rw [List.flatMap_cons, List.length_append, ih, List.length_cons]
    simp only [List.length_cons, List.length_nil]
    omega

theorem hexValue_hexDigit {n : ℕ} (h : n < 16) : hexValue (hexDigit n) = some n := by
  interval_cases n <;> decide

/-- The hexadecimal encoding is read back. -/
theorem fromHex_toHex (buf : Buffer) : fromHex (toHex buf) = buf := by
  rw [fromHex, toHex, String.toList_ofList]
  induction buf with
  | nil => rfl
  | cons b buf ih =>
    have hb : b.toNat < 256 := b.toNat_lt
    have hbyte : UInt8.ofNat (16 * (b.toNat / 16) + b.toNat % 16) = b := by
      rw [Nat.div_add_mod, UInt8.ofNat_toNat]
    simp only [List.flatMap_cons, List.cons_append, List.nil_append, fromHexDigits,
      hexValue_hexDigit (show b.toNat / 16 < 16 by omega),
      hexValue_hexDigit (show b.toNat % 16 < 16 by omega), hbyte, ih]

/-! ### What the decoding reads -/

/-- The digits of a text that are decoded: the pairs before the first one that is none. -/
def hexPairs : List Char → List Char
  | c :: d :: rest =>
    if (hexValue c).isSome && (hexValue d).isSome then c :: d :: hexPairs rest else []
  | _ => []

/-- What the decoding leaves of a text. -/
def hexRest (digits : List Char) : List Char := digits.drop (hexPairs digits).length

theorem hexPairs_append_hexRest (digits : List Char) :
    hexPairs digits ++ hexRest digits = digits := by
  unfold hexRest
  fun_induction hexPairs digits with
  | case1 c d rest h ih => exact congrArg (c :: d :: ·) ih
  | case2 c d rest h => rfl
  | case3 digits h => rfl

/-- A digit is the one of its value, up to its case. -/
theorem hexValue_eq_some {c : Char} {n : ℕ} (h : hexValue c = some n) :
    n < 16 ∧ hexDigit n = c.toLower := by
  have hc : Char.ofNat c.toNat = c := Char.ofNat_toNat c
  unfold hexValue at h
  split_ifs at h with hdigit hlower hupper <;> cases h
  · obtain ⟨hlo, hhi⟩ : 48 ≤ c.toNat ∧ c.toNat ≤ 57 := hdigit
    rw [← hc]
    generalize c.toNat = n at hlo hhi
    interval_cases n <;> decide
  · obtain ⟨hlo, hhi⟩ : 97 ≤ c.toNat ∧ c.toNat ≤ 102 := hlower
    rw [← hc]
    generalize c.toNat = n at hlo hhi
    interval_cases n <;> decide
  · obtain ⟨hlo, hhi⟩ : 65 ≤ c.toNat ∧ c.toNat ≤ 70 := hupper
    rw [← hc]
    generalize c.toNat = n at hlo hhi
    interval_cases n <;> decide

/-- The encoding of what is decoded. -/
theorem toHex_fromHexDigits (digits : List Char) :
    (toHex (fromHexDigits digits)).toList = (hexPairs digits).map Char.toLower := by
  rw [toHex, String.toList_ofList]
  fun_induction fromHexDigits digits with
  | case1 c d rest x y hx hy ih =>
    obtain ⟨hxlt, hxc⟩ := hexValue_eq_some hx
    obtain ⟨hylt, hyd⟩ := hexValue_eq_some hy
    have hbyte : (UInt8.ofNat (16 * x + y)).toNat = 16 * x + y := by
      rw [UInt8.toNat_ofNat']
      omega
    have hdiv : (16 * x + y) / 16 = x := by omega
    have hmod : (16 * x + y) % 16 = y := by omega
    rw [hexPairs, hx, hy, if_pos (by rfl), List.flatMap_cons, ih, hbyte, hdiv, hmod, hxc, hyd]
    rfl
  | case2 c d rest h =>
    rw [hexPairs, if_neg]
    · rfl
    · intro hsome
      rw [Bool.and_eq_true, Option.isSome_iff_exists, Option.isSome_iff_exists] at hsome
      obtain ⟨⟨x, hx⟩, y, hy⟩ := hsome
      exact h x y hx hy
  | case3 digits h =>
    rw [hexPairs.eq_def]
    split
    · rename_i c d rest
      exact absurd rfl (h c d rest)
    · rfl

/-- Two texts decode to the same bytes if the digits that are decoded are the same. -/
theorem fromHexDigits_eq_iff {digits digits' : List Char} :
    fromHexDigits digits = fromHexDigits digits' ↔
      (hexPairs digits).map Char.toLower = (hexPairs digits').map Char.toLower := by
  rw [← toHex_fromHexDigits, ← toHex_fromHexDigits, String.toList_inj]
  constructor
  · intro h
    rw [h]
  · intro h
    rw [← fromHex_toHex (fromHexDigits digits), h, fromHex_toHex]

/-- Of texts that decode to the same bytes, what is left tells whether they are the same up to the
case of letters. -/
theorem map_toLower_eq_iff {digits digits' : List Char}
    (h : fromHexDigits digits = fromHexDigits digits') :
    digits.map Char.toLower = digits'.map Char.toLower ↔
      (hexRest digits).map Char.toLower = (hexRest digits').map Char.toLower := by
  conv_lhs => rw [← hexPairs_append_hexRest digits, ← hexPairs_append_hexRest digits',
    List.map_append, List.map_append, fromHexDigits_eq_iff.1 h]
  exact List.append_right_inj _

end Buffer

end OpenTTT
