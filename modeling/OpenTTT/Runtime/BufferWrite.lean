import OpenTTT.Foundations.Binary32
import OpenTTT.Foundations.Unicode
import OpenTTT.Runtime.Buffer

/-!
# Writing into buffers

Buffers of a given size, and the operations that put numbers and texts into them at an offset. A
number that its bytes cannot hold throws, and so does one that does not fit into the buffer; a text
is cut to the characters that there is room for. The lemmas are about a buffer that is filled up to
an offset, and say how much of it is filled afterwards.
-/

namespace OpenTTT

/-- The length of a string of the language: its number of code units. -/
def stringLength (text : String) : ℕ := (Unicode.utf16 text.toList).length

/-- The byte that is kept of a number: its integer part, modulo 256. -/
def toUint8 : Binary64 → UInt8
  | .finite q => UInt8.ofInt (q.num.tdiv q.den)
  | _ => 0

namespace Buffer

/-! ## The operations -/

def alloc (size : ℕ) : Buffer := List.replicate size 0

/-- The buffer with some bytes in place of those from an offset on. -/
def put (buf bytes : Buffer) (offset : ℕ) : Buffer :=
  buf.take offset ++ bytes ++ buf.drop (offset + bytes.length)

/-- Put the bytes of a number into the buffer, if there is room for them. -/
def store (buf bytes : Buffer) (offset : ℕ) : Except Thrown Buffer :=
  if offset + bytes.length ≤ buf.length then .ok (buf.put bytes offset) else .error .rangeError

def writeBigUInt64BE (buf : Buffer) (value : ℤ) (offset : ℕ) : Except Thrown Buffer :=
  if 0 ≤ value ∧ value < 2 ^ 64 then buf.store (toBeBytes 8 value.toNat) offset
  else .error .rangeError

/-- The value is compared with the bounds as a number: that which is none passes. -/
def writeUInt8 (buf : Buffer) (value : Binary64) (offset : ℕ) : Except Thrown Buffer :=
  if (Binary64.finite 255).lt value ∨ value.lt (.finite 0) then .error .rangeError
  else buf.store [toUint8 value] offset

/-- The bytes of a number in single precision. -/
def floatBytes (value : Binary64) : Buffer :=
  toBeBytes 4 (Binary32.word (Binary32.round value))

def writeFloatBE (buf : Buffer) (value : Binary64) (offset : ℕ) : Except Thrown Buffer :=
  buf.store (floatBytes value) offset

/-- `buf.write(text, offset)`: the characters that there is room for, up to the end of the
buffer. -/
def write (buf : Buffer) (text : String) (offset : ℕ) : Except Thrown Buffer :=
  if offset ≤ buf.length then
    .ok (buf.put (Unicode.utf8Within (buf.length - offset) text.toList) offset)
  else .error .rangeError

/-- `source.copy(buf, offset)`. -/
def copyInto (source buf : Buffer) (offset : ℕ) : Buffer :=
  buf.put (source.take (buf.length - offset)) offset

def readFloatBE (buf : Buffer) (offset : ℕ) : Except Thrown Binary64 := do
  let w ← buf.readUIntBE 4 offset
  .ok (Binary32.ofWord w)

/-- `Buffer.from(text, 'utf8')`. -/
def ofUtf8 (text : String) : Buffer := Unicode.utf8 text.toList

/-- `buf.toString('utf8', start, stop)`. -/
def utf8Text (buf : Buffer) (start stop : ℕ) : String :=
  String.ofList (Unicode.ofUtf8 (buf.subarray start stop))

/-- As many bytes of a text as it has code units. -/
def unitBytes (text : String) : Buffer := (ofUtf8 text).take (stringLength text)

@[simp] theorem length_floatBytes (value : Binary64) : (floatBytes value).length = 4 :=
  length_toBeBytes 4 _

@[simp] theorem length_unitBytes (text : String) : (unitBytes text).length = stringLength text := by
  rw [unitBytes, List.length_take]
  exact Nat.min_eq_left (Unicode.length_utf16_le text.toList).1

/-! ## Filling a buffer -/

/-- A buffer of a given size whose first bytes, up to an offset, are those that have been
written. -/
structure Filled (size offset : ℕ) (written buf : Buffer) : Prop where
  length_written : written.length = offset
  exists_rest : ∃ rest, buf = written ++ rest
  length_buf : buf.length = size

theorem filled_alloc (size : ℕ) : Filled size 0 [] (alloc size) :=
  ⟨rfl, ⟨alloc size, rfl⟩, List.length_replicate⟩

/-- Numbers that `writeBigUInt64BE` takes. -/
def IsUInt64 (value : ℤ) : Prop := 0 ≤ value ∧ value < 2 ^ 64

/-- Numbers that `writeUInt8` takes. -/
def IsUInt8 (value : Binary64) : Prop :=
  ¬ ((Binary64.finite 255).lt value = true ∨ value.lt (.finite 0) = true)

instance decidableIsUInt64 : DecidablePred IsUInt64 := fun value =>
  inferInstanceAs (Decidable (0 ≤ value ∧ value < 2 ^ 64))

instance decidableIsUInt8 : DecidablePred IsUInt8 := fun value =>
  inferInstanceAs (Decidable (¬ ((Binary64.finite 255).lt value = true ∨
    value.lt (.finite 0) = true)))

section Filling

variable {size offset : ℕ} {written buf buf' : Buffer}

/-- A buffer that is filled up to its end. -/
theorem Filled.eq_written (h : Filled size size written buf) : buf = written := by
  obtain ⟨hlen, ⟨rest, rfl⟩, hsize⟩ := h
  rw [List.length_append, hlen] at hsize
  rw [List.length_eq_zero_iff.1 (show rest.length = 0 by omega), List.append_nil]

/-- Bytes that are put behind those that have been written. -/
theorem Filled.put (h : Filled size offset written buf) {bytes : Buffer}
    (hroom : offset + bytes.length ≤ size) :
    Filled size (offset + bytes.length) (written ++ bytes) (buf.put bytes offset) := by
  obtain ⟨rfl, ⟨rest, rfl⟩, hsize⟩ := h
  have hput : Buffer.put (written ++ rest) bytes written.length =
      written ++ bytes ++ rest.drop bytes.length := by
    rw [Buffer.put, List.take_left, ← List.drop_drop, List.drop_left]
  rw [List.length_append] at hsize
  refine ⟨List.length_append, ⟨_, hput⟩, ?_⟩
  rw [hput, List.length_append, List.length_append, List.length_drop]
  omega

theorem Filled.store (h : Filled size offset written buf) {bytes : Buffer}
    (hok : buf.store bytes offset = .ok buf') :
    Filled size (offset + bytes.length) (written ++ bytes) buf' := by
  unfold Buffer.store at hok
  split at hok
  · rename_i hroom
    rw [h.length_buf] at hroom
    rw [← Except.ok.inj hok]
    exact h.put hroom
  · cases hok

theorem Filled.exists_store (h : Filled size offset written buf) {bytes : Buffer}
    (hroom : offset + bytes.length ≤ size) :
    ∃ buf', buf.store bytes offset = .ok buf' ∧
      Filled size (offset + bytes.length) (written ++ bytes) buf' :=
  ⟨_, if_pos (h.length_buf.symm ▸ hroom), h.put hroom⟩

/-! ### Numbers -/

theorem Filled.writeBigUInt64BE (h : Filled size offset written buf) {value : ℤ}
    (hok : buf.writeBigUInt64BE value offset = .ok buf') :
    IsUInt64 value ∧ Filled size (offset + 8) (written ++ toBeBytes 8 value.toNat) buf' := by
  unfold Buffer.writeBigUInt64BE at hok
  split at hok
  · rename_i hvalue
    exact ⟨hvalue, h.store hok⟩
  · cases hok

theorem Filled.exists_writeBigUInt64BE (h : Filled size offset written buf) {value : ℤ}
    (hvalue : IsUInt64 value) (hroom : offset + 8 ≤ size) :
    ∃ buf', buf.writeBigUInt64BE value offset = .ok buf' ∧
      Filled size (offset + 8) (written ++ toBeBytes 8 value.toNat) buf' := by
  have hbounds : 0 ≤ value ∧ value < 2 ^ 64 := hvalue
  rw [Buffer.writeBigUInt64BE, if_pos hbounds]
  exact h.exists_store (by rwa [length_toBeBytes])

theorem Filled.writeUInt8 (h : Filled size offset written buf) {value : Binary64}
    (hok : buf.writeUInt8 value offset = .ok buf') :
    IsUInt8 value ∧ Filled size (offset + 1) (written ++ [toUint8 value]) buf' := by
  unfold Buffer.writeUInt8 at hok
  split at hok
  · cases hok
  · rename_i hvalue
    exact ⟨hvalue, h.store hok⟩

theorem Filled.exists_writeUInt8 (h : Filled size offset written buf) {value : Binary64}
    (hvalue : IsUInt8 value) (hroom : offset + 1 ≤ size) :
    ∃ buf', buf.writeUInt8 value offset = .ok buf' ∧
      Filled size (offset + 1) (written ++ [toUint8 value]) buf' := by
  rw [Buffer.writeUInt8, if_neg hvalue]
  exact h.exists_store hroom

theorem Filled.writeFloatBE (h : Filled size offset written buf) {value : Binary64}
    (hok : buf.writeFloatBE value offset = .ok buf') :
    Filled size (offset + 4) (written ++ floatBytes value) buf' :=
  h.store hok

theorem Filled.exists_writeFloatBE (h : Filled size offset written buf) (value : Binary64)
    (hroom : offset + 4 ≤ size) :
    ∃ buf', buf.writeFloatBE value offset = .ok buf' ∧
      Filled size (offset + 4) (written ++ floatBytes value) buf' :=
  h.exists_store (by rwa [length_floatBytes])

/-- The numbers of a byte. -/
theorem isUInt8_ofNat_iff {n : ℕ} : IsUInt8 (.ofNat n) ↔ n ≤ 255 := by
  constructor
  · intro h
    by_contra hn
    exact h (Or.inl (Binary64.lt_ofNat (m := 255) (by norm_num) (by omega)))
  · rintro hn (habove | hbelow)
    · rw [Binary64.ofNat_eq (by omega), Binary64.lt, decide_eq_true_eq] at habove
      have hlt : 255 < n := by exact_mod_cast habove
      omega
    · rw [Binary64.ofNat_eq (by omega), Binary64.lt, decide_eq_true_eq] at hbelow
      exact absurd hbelow (not_lt.2 (Nat.cast_nonneg n))

theorem toNat_toUint8_natCast {n : ℕ} (h : n ≤ 255) : (toUint8 (.finite n)).toNat = n := by
  have hbyte : toUint8 (.finite n) = UInt8.ofInt n := by
    rw [toUint8, Rat.num_natCast, Rat.den_natCast, Nat.cast_one, Int.tdiv_one]
  rw [hbyte, UInt8.ofInt, UInt8.toNat_ofNat']
  omega

theorem toNat_toUint8_ofNat {n : ℕ} (h : n ≤ 255) : (toUint8 (.ofNat n)).toNat = n := by
  rw [Binary64.ofNat_eq (by omega), toNat_toUint8_natCast h]

/-- A number is got back from its byte if it is one of those of a byte. -/
theorem ofNat_toUint8_iff {x : Binary64} :
    Binary64.ofNat (toUint8 x).toNat = x ↔ ∃ n : ℕ, n ≤ 255 ∧ x = .finite n := by
  have hlt := (toUint8 x).toNat_lt
  constructor
  · intro h
    refine ⟨(toUint8 x).toNat, by omega, ?_⟩
    rw [← Binary64.ofNat_eq (by omega), h]
  · rintro ⟨n, hn, rfl⟩
    rw [toNat_toUint8_natCast hn, Binary64.ofNat_eq (by omega)]

/-! ### Texts -/

/-- Of a text, as many bytes count as written as it has code units, if there is room for three
more: those behind them are not. -/
theorem Filled.write (h : Filled size offset written buf) {text : String}
    (hroom : offset + stringLength text + 3 ≤ size) (hok : buf.write text offset = .ok buf') :
    Filled size (offset + stringLength text) (written ++ unitBytes text) buf' := by
  set bytes := Unicode.utf8Within (buf.length - offset) text.toList
  have htake : bytes.take (stringLength text) = unitBytes text :=
    Unicode.take_utf8Within (by rw [h.length_buf]; omega) text.toList
  have hle : bytes.length ≤ size - offset := by
    rw [← h.length_buf]
    exact Unicode.length_utf8Within_le _ _
  obtain ⟨-, ⟨rest, hrest⟩, hsize⟩ := h.put (show offset + bytes.length ≤ size by omega)
  have hput : buf.put bytes offset = buf' := by
    unfold Buffer.write at hok
    split at hok
    · exact Except.ok.inj hok
    · cases hok
  rw [hput] at hrest hsize
  refine ⟨?_, ⟨bytes.drop (stringLength text) ++ rest, ?_⟩, hsize⟩
  · rw [List.length_append, h.length_written, length_unitBytes]
  · rw [← htake, List.append_assoc, ← List.append_assoc _ (bytes.drop _), List.take_append_drop,
      ← List.append_assoc]
    exact hrest

theorem Filled.exists_write (h : Filled size offset written buf) (text : String)
    (hroom : offset + stringLength text + 3 ≤ size) :
    ∃ buf', buf.write text offset = .ok buf' ∧
      Filled size (offset + stringLength text) (written ++ unitBytes text) buf' := by
  have hle : offset ≤ buf.length := by
    rw [h.length_buf]
    omega
  have hok : buf.write text offset =
      .ok (buf.put (Unicode.utf8Within (buf.length - offset) text.toList) offset) := if_pos hle
  exact ⟨_, hok, h.write hroom hok⟩

theorem Filled.copyInto (h : Filled size offset written buf) {bytes : Buffer}
    (hroom : offset + bytes.length ≤ size) :
    Filled size (offset + bytes.length) (written ++ bytes) (bytes.copyInto buf offset) := by
  have htake : bytes.take (buf.length - offset) = bytes :=
    List.take_of_length_le (by rw [h.length_buf]; omega)
  rw [Buffer.copyInto, htake]
  exact h.put hroom

end Filling

/-! ## Reading on -/

/-- What there is in a buffer from an offset on. -/
def Ahead (offset : ℕ) (rest buf : Buffer) : Prop := ∃ pre, pre.length = offset ∧ buf = pre ++ rest

theorem ahead_of_eq {rest buf : Buffer} (h : buf = rest) : Ahead 0 rest buf := ⟨[], rfl, h⟩

/-- The number that single precision makes of a number. -/
def single (x : Binary64) : Binary64 := Binary32.ofWord (Binary32.word (Binary32.round x))

section Reading

variable {offset : ℕ} {rest buf : Buffer}

theorem Ahead.skip {bytes : Buffer} (h : Ahead offset (bytes ++ rest) buf) :
    Ahead (offset + bytes.length) rest buf := by
  obtain ⟨pre, rfl, hbuf⟩ := h
  exact ⟨pre ++ bytes, List.length_append, by rw [hbuf, List.append_assoc]⟩

theorem Ahead.readUIntBE {bytes : Buffer} (h : Ahead offset (bytes ++ rest) buf) :
    buf.readUIntBE bytes.length offset = .ok (beValue bytes) := by
  obtain ⟨pre, hoffset, hbuf⟩ := h
  exact readUIntBE_of_eq hbuf hoffset rfl

theorem Ahead.readUInt8 {b : UInt8} (h : Ahead offset ([b] ++ rest) buf) :
    buf.readUInt8 offset = .ok b.toNat ∧ Ahead (offset + 1) rest buf :=
  ⟨h.readUIntBE, h.skip⟩

theorem Ahead.readBigUInt64BE {value : ℤ} (h : Ahead offset (toBeBytes 8 value.toNat ++ rest) buf)
    (hvalue : IsUInt64 value) :
    buf.readBigUInt64BE offset = .ok value.toNat ∧ Ahead (offset + 8) rest buf := by
  obtain ⟨hlo, hhi⟩ := hvalue
  have hread := h.readUIntBE
  have hskip := h.skip
  rw [length_toBeBytes] at hread hskip
  rw [beValue_toBeBytes (by omega)] at hread
  exact ⟨hread, hskip⟩

theorem Ahead.readFloatBE {x : Binary64} (h : Ahead offset (floatBytes x ++ rest) buf) :
    buf.readFloatBE offset = .ok (single x) ∧ Ahead (offset + 4) rest buf := by
  have hword := Binary32.word_round_lt x
  have hread := h.readUIntBE
  have hskip := h.skip
  rw [length_floatBytes] at hread hskip
  rw [floatBytes, beValue_toBeBytes (by omega)] at hread
  refine ⟨?_, hskip⟩
  rw [Buffer.readFloatBE, hread]
  rfl

theorem Ahead.utf8Text {bytes : Buffer} (h : Ahead offset (bytes ++ rest) buf) :
    buf.utf8Text offset (offset + bytes.length) = String.ofList (Unicode.ofUtf8 bytes) := by
  obtain ⟨pre, hoffset, hbuf⟩ := h
  rw [Buffer.utf8Text, subarray_of_eq hbuf hoffset rfl]

end Reading

/-! ## Reading a part -/

section Part

variable {part buf : Buffer} {width offset : ℕ}

/-- A number that is read from the first part of a buffer is inside of it, and is the number that
is read from the whole. -/
theorem readUIntBE_of_isPrefix (hpart : part <+: buf) {n : ℕ}
    (h : part.readUIntBE width offset = .ok n) :
    offset + width ≤ part.length ∧ buf.readUIntBE width offset = .ok n := by
  obtain ⟨rest, rfl⟩ := hpart
  unfold readUIntBE at h ⊢
  split at h
  · rename_i hroom
    have hwhole : offset + width ≤ (part ++ rest).length := by
      rw [List.length_append]
      omega
    have hbytes : ((part ++ rest).drop offset).take width = (part.drop offset).take width := by
      rw [List.drop_append_of_le_length (by omega), List.take_append_of_le_length]
      rw [List.length_drop]
      omega
    rw [if_pos hwhole, hbytes]
    exact ⟨hroom, h⟩
  · cases h

/-- So is a number of single precision. -/
theorem readFloatBE_of_isPrefix (hpart : part <+: buf) {x : Binary64}
    (h : part.readFloatBE offset = .ok x) : offset + 4 ≤ part.length := by
  obtain ⟨w, hw, -⟩ := bind_eq_ok.1 h
  exact (readUIntBE_of_isPrefix hpart hw).1

end Part

end Buffer

end OpenTTT
