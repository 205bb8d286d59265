import OpenTTT.Runtime.Buffer
import Mathlib.Data.Nat.Size

/-!
# Signatures and keys in DER

`parseDERSignature` and `extractPublicKeyFromDER` of `signer.ts`, beside the encodings that they
read. An `INTEGER` of DER has the fewest bytes that leave its sign bit clear (`length_derInteger`),
so the bytes of a number below `2 ^ 256` are between one and 33 of them, and a leading zero byte is
there or not, by the highest bit of the number.

A read past the end of an array is undefined in the source. `parseDERSignature` then compares with
it, or counts with it: a slice up to no number is empty.
-/

namespace OpenTTT

/-! ## Texts of bytes -/

/-- A number of 32 bytes as `ethers` takes it: `0x` and 64 digits. -/
def hex64 (n : ℕ) : String := "0x" ++ Buffer.toHex (toBeBytes 32 n)

namespace Buffer

theorem toHex_append (a b : Buffer) : toHex (a ++ b) = toHex a ++ toHex b := by
  rw [← String.toList_inj, String.toList_append, toList_toHex, toList_toHex, toList_toHex,
    List.flatMap_append]

theorem toHex_replicate_zero (k : ℕ) :
    toHex (List.replicate k 0) = String.ofList (List.replicate (2 * k) '0') := by
  induction k with
  | zero => rfl
  | succ k ih =>
    have hcons : List.replicate (k + 1) (0 : UInt8) = [0] ++ List.replicate k 0 := rfl
    have hzero : toHex [0] = String.ofList ['0', '0'] := rfl
    rw [hcons, toHex_append, ih, hzero, ← String.ofList_append]
    rfl

end Buffer

/-- The bytes of a number that fits into fewer of them. -/
theorem toBeBytes_eq_replicate_append {width k n : ℕ} (hk : k ≤ width) (hn : n < 256 ^ k) :
    toBeBytes width n = List.replicate (width - k) 0 ++ toBeBytes k n := by
  obtain ⟨d, rfl⟩ := Nat.exists_eq_add_of_le hk
  rw [Nat.add_sub_cancel_left]
  induction d with
  | zero => rfl
  | succ d ih =>
    have hsmall : n < 256 ^ (k + d) :=
      hn.trans_le (Nat.pow_le_pow_right (by omega) (Nat.le_add_right k d))
    have htop : UInt8.ofNat (n / 256 ^ (k + d)) = 0 := by rw [Nat.div_eq_of_lt hsmall]; rfl
    have hcons : toBeBytes (k + d + 1) n =
        UInt8.ofNat (n / 256 ^ (k + d)) :: toBeBytes (k + d) n := by
      rw [toBeBytes, toBeBytes, List.range_succ, List.reverse_append, List.map_append]
      rfl
    rw [← Nat.add_assoc, hcons, htop, ih (Nat.le_add_right k d)]
    rfl

/-- Digits that are missing in front are padded. -/
theorem padStart_toHex {k n : ℕ} (hk : k ≤ 32) (hn : n < 256 ^ k) :
    "0x" ++ padStart 64 (Buffer.toHex (toBeBytes k n)) = hex64 n := by
  have hlen : 64 - 2 * k = 2 * (32 - k) := by omega
  rw [hex64, toBeBytes_eq_replicate_append hk hn, Buffer.toHex_append,
    Buffer.toHex_replicate_zero, padStart, Buffer.length_toHex, Buffer.length_toBeBytes, hlen]

/-! ## The encoding of a signature -/

/-- The bytes of an `INTEGER`: as few as leave the sign bit clear. -/
def derInteger (n : ℕ) : Buffer := toBeBytes (n.size / 8 + 1) n

/-- The bytes of a value with its tag and its length, of less than 128. -/
def derValue (tag : UInt8) (content : Buffer) : Buffer :=
  tag :: UInt8.ofNat content.length :: content

/-- `SEQUENCE { INTEGER r, INTEGER s }`. -/
def derSignature (r s : ℕ) : Buffer :=
  derValue 0x30 (derValue 0x02 (derInteger r) ++ derValue 0x02 (derInteger s))

@[simp] theorem length_derInteger (n : ℕ) : (derInteger n).length = n.size / 8 + 1 :=
  Buffer.length_toBeBytes _ n

theorem length_derInteger_lt {n : ℕ} (hn : n < 2 ^ 256) : (derInteger n).length < 256 := by
  have hsize : n.size ≤ 256 := Nat.size_le.2 hn
  rw [length_derInteger]
  omega

/-! ## The parser of a signature -/

structure DERSignature where
  r : String
  s : String
  deriving DecidableEq

/-- `if (r[0] === 0x00) r = r.slice(1)`. -/
def dropSignByte : Buffer → Buffer
  | [] => []
  | b :: bs => if b = 0x00 then bs else b :: bs

def parseDERSignature (sig : Buffer) : Except Thrown DERSignature :=
  if sig[0]? ≠ some 0x30 then .error (.error "Invalid DER signature: not a sequence")
  else if sig[2]? ≠ some 0x02 then
    .error (.error "Invalid DER signature: expected integer for R")
  else
    match sig[3]? with
    -- the position after a length that is undefined is no number, and nothing is there
    | none => .error (.error "Invalid DER signature: expected integer for S")
    | some rLen =>
      let pos := 4 + rLen.toNat
      if sig[pos]? ≠ some 0x02 then
        .error (.error "Invalid DER signature: expected integer for S")
      else
        let sLen := (sig[pos + 1]?.map UInt8.toNat).getD 0
        let r := dropSignByte (sig.subarray 4 pos)
        let s := dropSignByte (sig.subarray (pos + 2) (pos + 2 + sLen))
        .ok ⟨"0x" ++ padStart 64 (Buffer.toHex r), "0x" ++ padStart 64 (Buffer.toHex s)⟩

/-- Without its sign byte an integer of at most 256 bits fits into 32 bytes. -/
theorem dropSignByte_derInteger {n : ℕ} (hn : n < 2 ^ 256) :
    ∃ k ≤ 32, n < 256 ^ k ∧ dropSignByte (derInteger n) = toBeBytes k n := by
  have hsize : n.size ≤ 256 := Nat.size_le.2 hn
  have hcons : derInteger n =
      UInt8.ofNat (n / 256 ^ (n.size / 8)) :: toBeBytes (n.size / 8) n := by
    rw [derInteger, toBeBytes, toBeBytes, List.range_succ, List.reverse_append, List.map_append]
    rfl
  have hfits : n < 256 ^ (n.size / 8 + 1) := by
    have hpow : (256 : ℕ) ^ (n.size / 8 + 1) = 2 ^ (8 * (n.size / 8 + 1)) := (pow_mul 2 8 _).symm
    rw [hpow, ← Nat.size_le]
    omega
  by_cases htop : n < 256 ^ (n.size / 8)
  · refine ⟨n.size / 8, by omega, htop, ?_⟩
    rw [hcons, Nat.div_eq_of_lt htop]
    rfl
  · -- the leading byte is part of the number, so the number has no 33 bytes
    have hbyte : n / 256 ^ (n.size / 8) < 256 := Nat.div_lt_of_lt_mul (by rwa [← pow_succ])
    have hpos : 0 < n / 256 ^ (n.size / 8) :=
      Nat.div_pos (Nat.le_of_not_lt htop) (pow_pos (by omega) _)
    have hne : UInt8.ofNat (n / 256 ^ (n.size / 8)) ≠ 0 := by
      rw [Ne, ← UInt8.toNat_inj, UInt8.toNat_ofNat', Nat.mod_eq_of_lt hbyte]
      exact hpos.ne'
    have hlen : n.size / 8 + 1 ≤ 32 := by
      by_contra h
      have h32 : n.size / 8 = 32 := by omega
      rw [h32] at htop
      exact htop (hn.trans_eq (pow_mul 2 8 32))
    refine ⟨n.size / 8 + 1, hlen, hfits, ?_⟩
    rw [hcons, dropSignByte, if_neg hne, ← hcons, derInteger]

/-- An integer that is parsed from its bytes, without the sign byte. -/
theorem hex_dropSignByte_derInteger {n : ℕ} (hn : n < 2 ^ 256) :
    "0x" ++ padStart 64 (Buffer.toHex (dropSignByte (derInteger n))) = hex64 n := by
  obtain ⟨k, hk, hfits, hdrop⟩ := dropSignByte_derInteger hn
  rw [hdrop, padStart_toHex hk hfits]

/-- What is parsed of two integers. -/
theorem parseDERSignature_derValue {a b : Buffer} (ha : a.length < 256) (hb : b.length < 256) :
    parseDERSignature (derValue 0x30 (derValue 0x02 a ++ derValue 0x02 b)) =
      .ok ⟨"0x" ++ padStart 64 (Buffer.toHex (dropSignByte a)),
        "0x" ++ padStart 64 (Buffer.toHex (dropSignByte b))⟩ := by
  obtain ⟨total, htotal⟩ : ∃ total, total =
      UInt8.ofNat (derValue 0x02 a ++ derValue 0x02 b).length := ⟨_, rfl⟩
  obtain ⟨sig, hsig⟩ : ∃ sig : Buffer, sig = [0x30, total, 0x02, UInt8.ofNat a.length] ++
      (a ++ (0x02 :: UInt8.ofNat b.length :: b)) := ⟨_, rfl⟩
  have hencoded : derValue 0x30 (derValue 0x02 a ++ derValue 0x02 b) = sig := by
    rw [hsig, derValue, ← htotal, derValue, derValue]
    rfl
  have ha' : (UInt8.ofNat a.length).toNat = a.length := by
    rw [UInt8.toNat_ofNat', Nat.mod_eq_of_lt ha]
  have hb' : (UInt8.ofNat b.length).toNat = b.length := by
    rw [UInt8.toNat_ofNat', Nat.mod_eq_of_lt hb]
  have hlenR : sig[3]? = some (UInt8.ofNat a.length) := by
    rw [hsig]
    rfl
  have hr : sig.subarray 4 (4 + a.length) = a := Buffer.subarray_of_eq hsig rfl rfl
  -- the second integer comes right after the bytes of the first one
  have hsecond (i : ℕ) : sig[4 + a.length + i]? = (0x02 :: UInt8.ofNat b.length :: b)[i]? := by
    rw [hsig, ← List.append_assoc, List.getElem?_append_right (by simp; omega)]
    congr 1
    simp only [List.length_append, List.length_cons, List.length_nil]
    omega
  have hs : sig.subarray (4 + a.length + 2) (4 + a.length + 2 + b.length) = b := by
    have hsplit : sig = ([0x30, total, 0x02, UInt8.ofNat a.length] ++
        (a ++ [0x02, UInt8.ofNat b.length])) ++ (b ++ []) := by simp [hsig]
    refine Buffer.subarray_of_eq hsplit ?_ rfl
    simp only [List.length_append, List.length_cons, List.length_nil]
    omega
  rw [hencoded, parseDERSignature, if_neg (by simp [hsig]), if_neg (by simp [hsig]), hlenR]
  simp only [ha', hsecond 1, hr]
  rw [if_neg]
  · rw [List.getElem?_cons_succ, List.getElem?_cons_zero, Option.map_some, Option.getD_some, hb',
      hs]
  · exact not_not.2 (hsecond 0)

/-- **The parser inverts the encoding** of a signature. -/
theorem parse_derSignature {r s : ℕ} (hr : r < 2 ^ 256) (hs : s < 2 ^ 256) :
    parseDERSignature (derSignature r s) = .ok ⟨hex64 r, hex64 s⟩ := by
  rw [derSignature, parseDERSignature_derValue (length_derInteger_lt hr) (length_derInteger_lt hs),
    hex_dropSignByte_derInteger hr, hex_dropSignByte_derInteger hs]

/-- A number of one byte, and one whose sign bit takes a byte of its own. -/
theorem parse_derSignature_short_long :
    parseDERSignature (derSignature 1 (2 ^ 255)) = .ok ⟨hex64 1, hex64 (2 ^ 255)⟩ :=
  parse_derSignature (by norm_num) (by norm_num)

/-! ## The parser of a key -/

/-- `number.toString(16)` of a byte. -/
def toString16 (b : UInt8) : String :=
  String.ofList (if b.toNat < 16 then [Buffer.hexDigit b.toNat]
    else [Buffer.hexDigit (b.toNat / 16), Buffer.hexDigit (b.toNat % 16)])

def derError (text : String) : Thrown := .error ("DER parse error: " ++ text)

def readTag (der : Buffer) (pos : ℕ) : Except Thrown (UInt8 × ℕ) :=
  match der[pos]? with
  | none => .error (derError "unexpected end of data while reading tag")
  | some tag => .ok (tag, pos + 1)

/-- The loop of `readLength`, over numbers of 32 bits with a sign. -/
def readLengthBytes (der : Buffer) : ℕ → BitVec 32 → ℕ → Except Thrown (ℤ × ℕ)
  | 0, length, pos => .ok (length.toInt, pos)
  | numBytes + 1, length, pos =>
    match der[pos]? with
    | none => .error (derError "unexpected end of data in multi-byte length")
    | some b => readLengthBytes der numBytes (length <<< 8 ||| BitVec.ofNat 32 b.toNat) (pos + 1)

def readLength (der : Buffer) (pos : ℕ) : Except Thrown (ℤ × ℕ) :=
  match der[pos]? with
  | none => .error (derError "unexpected end of data while reading length")
  | some first =>
    if first < 0x80 then .ok (first.toNat, pos + 1)
    else
      let numBytes := first.toNat % 0x80
      if numBytes = 0 ∨ numBytes > 4 then
        .error (derError ("unsupported length encoding (" ++ toString numBytes ++ " bytes)"))
      else readLengthBytes der numBytes 0 (pos + 1)

/-- A tag that must be the one that is expected. -/
def expectTag (der : Buffer) (pos : ℕ) (tag : UInt8) (expected : String) : Except Thrown ℕ := do
  let (found, pos) ← readTag der pos
  if found ≠ tag then
    .error (derError ("expected " ++ expected ++ ", got 0x" ++ toString16 found))
  else .ok pos

/-- `der.slice(start, stop)`: a negative bound counts from the end. -/
def Buffer.slice (der : Buffer) (start : ℕ) (stop : ℤ) : Buffer :=
  der.subarray start (if stop < 0 then der.length + stop else stop).toNat

/-- The part of `extractPublicKeyFromDER` behind the algorithm. -/
def readBitString (der : Buffer) (pos : ℕ) : Except Thrown Buffer := do
  let pos ← expectTag der pos 0x03 "BITSTRING (0x03)"
  let (bsLen, pos) ← readLength der pos
  match der[pos]? with
  | none => .error (derError "expected 0 unused bits in BITSTRING, got undefined")
  | some unusedBits =>
    if unusedBits ≠ 0x00 then
      .error (derError ("expected 0 unused bits in BITSTRING, got " ++ toString unusedBits.toNat))
    else
      let keyBytes := Buffer.slice der (pos + 1) (pos + 1 + bsLen - 1)
      if keyBytes.length ≠ 65 ∨ keyBytes[0]? ≠ some 0x04 then
        .error (derError ("expected 65-byte uncompressed secp256k1 key (04||X||Y), got " ++
          toString keyBytes.length ++ " bytes"))
      else .ok keyBytes

def extractPublicKeyFromDER (der : Buffer) : Except Thrown Buffer := do
  let pos ← expectTag der 0 0x30 "SEQUENCE (0x30)"
  let (_, pos) ← readLength der pos
  let pos ← expectTag der pos 0x30 "inner SEQUENCE (0x30)"
  let (innerLen, pos) ← readLength der pos
  -- a tag before the start is undefined, and has no `toString`
  if pos + innerLen < 0 then .error .typeError else readBitString der (pos + innerLen).toNat

/-- `SubjectPublicKeyInfo`, of an algorithm whose encoding takes less than 58 bytes. -/
def subjectPublicKeyInfo (algorithm key : Buffer) : Buffer :=
  derValue 0x30 (derValue 0x30 algorithm ++ derValue 0x03 (0x00 :: key))

theorem expectTag_of_getElem? {der : Buffer} {pos : ℕ} {tag : UInt8} (h : der[pos]? = some tag)
    (expected : String) : expectTag der pos tag expected = .ok (pos + 1) := by
  rw [expectTag, readTag, h, ok_bind]
  exact if_neg (not_not.2 rfl)

theorem readLength_of_getElem? {der : Buffer} {pos : ℕ} {b : UInt8} (h : der[pos]? = some b)
    (hb : b < 0x80) : readLength der pos = .ok ((b.toNat : ℤ), pos + 1) := by
  rw [readLength, h]
  exact if_pos hb

theorem readBitString_of_getElem? {der key : Buffer} {pos : ℕ} {b : UInt8}
    (htag : der[pos]? = some 0x03) (hlen : der[pos + 1]? = some b) (hb : b < 0x80)
    (hbits : der[pos + 2]? = some 0x00)
    (hkey : Buffer.slice der (pos + 3) (pos + 2 + b.toNat : ℕ) = key)
    (h65 : key.length = 65) (h04 : key[0]? = some 0x04) : readBitString der pos = .ok key := by
  have hstop : ((pos + 1 + 1 : ℕ) : ℤ) + 1 + b.toNat - 1 = (pos + 2 + b.toNat : ℕ) := by omega
  rw [readBitString, expectTag_of_getElem? htag, ok_bind, readLength_of_getElem? hlen hb, ok_bind]
  simp only [hbits, hstop, hkey, h65, h04, ne_eq, not_true_eq_false, or_self, if_false]

/-- The bytes of a short `SubjectPublicKeyInfo`, with lengths of one byte. -/
theorem subjectPublicKeyInfo_eq {algorithm key : Buffer} (halgorithm : algorithm.length < 58)
    (h65 : key.length = 65) : ∃ total a : UInt8, total < 0x80 ∧ a < 0x80 ∧
      a.toNat = algorithm.length ∧ subjectPublicKeyInfo algorithm key =
        [0x30, total, 0x30, a] ++ (algorithm ++ (0x03 :: 66 :: 0x00 :: key)) := by
  have hbits : UInt8.ofNat (0x00 :: key).length = 66 := by rw [List.length_cons, h65]; rfl
  have h128 : (0x80 : UInt8).toNat = 128 := rfl
  have hlenA : (UInt8.ofNat algorithm.length).toNat = algorithm.length := by
    rw [UInt8.toNat_ofNat', Nat.mod_eq_of_lt (by omega)]
  refine ⟨UInt8.ofNat (derValue 0x30 algorithm ++ derValue 0x03 (0x00 :: key)).length,
    UInt8.ofNat algorithm.length, ?_, ?_, hlenA, ?_⟩
  · rw [UInt8.lt_iff_toNat_lt, UInt8.toNat_ofNat', List.length_append, derValue, derValue]
    simp only [List.length_cons, h65]
    omega
  · rw [UInt8.lt_iff_toNat_lt, hlenA]
    omega
  · rw [subjectPublicKeyInfo, derValue, derValue, derValue, hbits]
    rfl

/-- The key is found behind an algorithm whose lengths take one byte. -/
theorem extractPublicKeyFromDER_subjectPublicKeyInfo {algorithm key : Buffer}
    (halgorithm : algorithm.length < 58) (h65 : key.length = 65) (h04 : key[0]? = some 0x04) :
    extractPublicKeyFromDER (subjectPublicKeyInfo algorithm key) = .ok key := by
  obtain ⟨total, a, hshort, hshortA, hlenA, hinfo⟩ := subjectPublicKeyInfo_eq halgorithm h65
  obtain ⟨der, hder⟩ : ∃ der : Buffer,
      der = [0x30, total, 0x30, a] ++ (algorithm ++ (0x03 :: 66 :: 0x00 :: key)) := ⟨_, rfl⟩
  rw [← hder] at hinfo
  have hafter (i : ℕ) : der[4 + algorithm.length + i]? = (0x03 :: 66 :: 0x00 :: key)[i]? := by
    rw [hder, ← List.append_assoc, List.getElem?_append_right (by simp; omega)]
    congr 1
    simp only [List.length_append, List.length_cons, List.length_nil]
    omega
  have hslice : Buffer.slice der (4 + algorithm.length + 3)
      (4 + algorithm.length + 2 + (66 : UInt8).toNat : ℕ) = key := by
    have hsplit : der = ([0x30, total, 0x30, a] ++ (algorithm ++ [0x03, 66, 0x00])) ++
        (key ++ []) := by simp [hder]
    rw [Buffer.slice, if_neg (by omega), Int.toNat_natCast]
    refine Buffer.subarray_of_eq hsplit ?_ (by rw [h65]; rfl)
    simp only [List.length_append, List.length_cons, List.length_nil]
    omega
  have h0 : der[0]? = some 0x30 := by rw [hder]; rfl
  have h1 : der[0 + 1]? = some total := by rw [hder]; rfl
  have h2 : der[0 + 1 + 1]? = some 0x30 := by rw [hder]; rfl
  have h3 : der[0 + 1 + 1 + 1]? = some a := by rw [hder]; rfl
  have hpos : ((0 + 1 + 1 + 1 + 1 : ℕ) : ℤ) + a.toNat = (4 + algorithm.length : ℕ) := by
    rw [hlenA]
    omega
  rw [hinfo, extractPublicKeyFromDER, expectTag_of_getElem? h0, ok_bind,
    readLength_of_getElem? h1 hshort, ok_bind]
  simp only [expectTag_of_getElem? h2, readLength_of_getElem? h3 hshortA, ok_bind, hpos]
  rw [if_neg (by omega), Int.toNat_natCast]
  exact readBitString_of_getElem? (hafter 0) (hafter 1) (by decide) (hafter 2) hslice h65 h04

end OpenTTT
