import Mathlib.Data.Nat.Notation
import Mathlib.Data.List.Basic
import Mathlib.Tactic.SplitIfs

/-!
# Unicode text

Texts as sequences of scalar values, in the two encodings. `utf16` gives the code units of a text,
which count its length in languages whose strings are made of them, and `ofUtf16` reads code units.
The bytes of a text in UTF-8 are those of `String.utf8EncodeChar`; `ofUtf8` is the decoder of the
Encoding Standard, which never fails but puts a replacement character for every longest part of a
sequence that is not one.

`ofUtf8_utf8` says that the decoder reads what is encoded, and `ofUtf8_cut` what it makes of a text
that is cut inside of a character.
-/

namespace Unicode

/-- The character that stands for what cannot be decoded. -/
def replacement : Char := '\uFFFD'

/-! ## UTF-16 -/

/-- The code units of a character. -/
def unitsOf (c : Char) : List ℕ :=
  if c.toNat < 0x10000 then [c.toNat]
  else [0xd800 + (c.toNat - 0x10000) / 0x400, 0xdc00 + (c.toNat - 0x10000) % 0x400]

/-- The code units of a text. -/
def utf16 (text : List Char) : List ℕ := text.flatMap unitsOf

/-- The character of a code unit of its own; there is none for half of a pair. -/
def ofUnit (u : ℕ) : Char := if 0xd800 ≤ u ∧ u ≤ 0xdfff then replacement else Char.ofNat u

/-- The text of code units. -/
def ofUtf16 : List ℕ → List Char
  | [] => []
  | [u] => [ofUnit u]
  | u :: v :: units =>
    if (0xd800 ≤ u ∧ u ≤ 0xdbff) ∧ (0xdc00 ≤ v ∧ v ≤ 0xdfff) then
      Char.ofNat (0x10000 + (u - 0xd800) * 0x400 + (v - 0xdc00)) :: ofUtf16 units
    else ofUnit u :: ofUtf16 (v :: units)

/-- A character is not half of a pair. -/
theorem toNat_bounds (c : Char) :
    (c.toNat < 0xd800 ∨ 0xdfff < c.toNat) ∧ c.toNat ≤ 0x10ffff := by
  rcases c.valid with h | ⟨hlo, hhi⟩
  · have h' : c.toNat < 0xd800 := h
    omega
  · have hlo' : 0xdfff < c.toNat := hlo
    have hhi' : c.toNat < 0x110000 := hhi
    omega

theorem ofUtf16_unitsOf (c : Char) (units : List ℕ) :
    ofUtf16 (unitsOf c ++ units) = c :: ofUtf16 units := by
  have hbounds := toNat_bounds c
  unfold unitsOf
  split
  · have hunit : ofUnit c.toNat = c := by
      rw [ofUnit, if_neg (by omega), Char.ofNat_toNat]
    cases units with
    | nil => exact congrArg (fun c' => [c']) hunit
    | cons v units => rw [List.singleton_append, ofUtf16, if_neg (by omega), hunit]
  · have hvalue : 0x10000 + (0xd800 + (c.toNat - 0x10000) / 0x400 - 0xd800) * 0x400 +
        (0xdc00 + (c.toNat - 0x10000) % 0x400 - 0xdc00) = c.toNat := by omega
    rw [List.cons_append, List.singleton_append, ofUtf16, if_pos (by omega), hvalue,
      Char.ofNat_toNat]

/-- The code units of a text are read back. -/
theorem ofUtf16_utf16 (text : List Char) : ofUtf16 (utf16 text) = text := by
  induction text with
  | nil => rfl
  | cons c text ih =>
    rw [utf16, List.flatMap_cons, ofUtf16_unitsOf]
    exact congrArg _ ih

/-! ## UTF-8 -/

/-- The bytes of a text. -/
def utf8 (text : List Char) : List UInt8 := text.flatMap String.utf8EncodeChar

/-- A character of which bytes are missing: how many, the bounds of the next one, and the value of
the bytes before. -/
structure Pending where
  needed : ℕ
  lower : ℕ
  upper : ℕ
  codePoint : ℕ

/-- A byte at the start of a character. -/
def firstByte (b : ℕ) : List Char × Option Pending :=
  if b ≤ 0x7f then ([Char.ofNat b], none)
  else if 0xc2 ≤ b ∧ b ≤ 0xdf then ([], some ⟨1, 0x80, 0xbf, b - 0xc0⟩)
  else if 0xe0 ≤ b ∧ b ≤ 0xef then
    ([], some ⟨2, if b = 0xe0 then 0xa0 else 0x80, if b = 0xed then 0x9f else 0xbf, b - 0xe0⟩)
  else if 0xf0 ≤ b ∧ b ≤ 0xf4 then
    ([], some ⟨3, if b = 0xf0 then 0x90 else 0x80, if b = 0xf4 then 0x8f else 0xbf, b - 0xf0⟩)
  else ([replacement], none)

/-- A byte inside of a character. One that does not continue it is a first byte. -/
def nextByte (p : Pending) (b : ℕ) : List Char × Option Pending :=
  if p.lower ≤ b ∧ b ≤ p.upper then
    if p.needed = 1 then ([Char.ofNat (p.codePoint * 64 + (b - 0x80))], none)
    else ([], some ⟨p.needed - 1, 0x80, 0xbf, p.codePoint * 64 + (b - 0x80)⟩)
  else (replacement :: (firstByte b).1, (firstByte b).2)

def decodeByte : Option Pending → ℕ → List Char × Option Pending
  | none, b => firstByte b
  | some p, b => nextByte p b

/-- The characters that some bytes complete, and the one that they leave incomplete. -/
def feed (p : Option Pending) : List UInt8 → List Char × Option Pending
  | [] => ([], p)
  | b :: bs =>
    ((decodeByte p b.toNat).1 ++ (feed (decodeByte p b.toNat).2 bs).1,
      (feed (decodeByte p b.toNat).2 bs).2)

/-- The decoder. -/
def ofUtf8 (bs : List UInt8) : List Char :=
  (feed none bs).1 ++ if (feed none bs).2.isSome then [replacement] else []

theorem feed_append (p : Option Pending) (bs bs' : List UInt8) :
    feed p (bs ++ bs') =
      ((feed p bs).1 ++ (feed (feed p bs).2 bs').1, (feed (feed p bs).2 bs').2) := by
  induction bs generalizing p with
  | nil => rfl
  | cons b bs ih => rw [List.cons_append, feed, ih, feed, List.append_assoc]

/-- The bytes of a character, by their number. -/
theorem utf8EncodeChar_cases (c : Char) :
    (c.toNat ≤ 0x7f ∧ String.utf8EncodeChar c = [UInt8.ofNat c.toNat]) ∨
    ((0x7f < c.toNat ∧ c.toNat ≤ 0x7ff) ∧ String.utf8EncodeChar c =
      [UInt8.ofNat (c.toNat / 64 % 0x20 + 0xc0), UInt8.ofNat (c.toNat % 0x40 + 0x80)]) ∨
    ((0x7ff < c.toNat ∧ c.toNat ≤ 0xffff) ∧ String.utf8EncodeChar c =
      [UInt8.ofNat (c.toNat / 4096 % 0x10 + 0xe0), UInt8.ofNat (c.toNat / 64 % 0x40 + 0x80),
        UInt8.ofNat (c.toNat % 0x40 + 0x80)]) ∨
    (0xffff < c.toNat ∧ String.utf8EncodeChar c =
      [UInt8.ofNat (c.toNat / 262144 % 0x08 + 0xf0), UInt8.ofNat (c.toNat / 4096 % 0x40 + 0x80),
        UInt8.ofNat (c.toNat / 64 % 0x40 + 0x80), UInt8.ofNat (c.toNat % 0x40 + 0x80)]) := by
  have hencode : String.utf8EncodeChar c =
      if c.toNat ≤ 0x7f then [UInt8.ofNat c.toNat]
      else if c.toNat ≤ 0x7ff then
        [UInt8.ofNat (c.toNat / 64 % 0x20 + 0xc0), UInt8.ofNat (c.toNat % 0x40 + 0x80)]
      else if c.toNat ≤ 0xffff then
        [UInt8.ofNat (c.toNat / 4096 % 0x10 + 0xe0), UInt8.ofNat (c.toNat / 64 % 0x40 + 0x80),
          UInt8.ofNat (c.toNat % 0x40 + 0x80)]
      else
        [UInt8.ofNat (c.toNat / 262144 % 0x08 + 0xf0), UInt8.ofNat (c.toNat / 4096 % 0x40 + 0x80),
          UInt8.ofNat (c.toNat / 64 % 0x40 + 0x80), UInt8.ofNat (c.toNat % 0x40 + 0x80)] := rfl
  rw [hencode]
  split_ifs with h₁ h₂ h₃
  · exact Or.inl ⟨h₁, rfl⟩
  · exact Or.inr (Or.inl ⟨⟨by omega, h₂⟩, rfl⟩)
  · exact Or.inr (Or.inr (Or.inl ⟨⟨by omega, h₃⟩, rfl⟩))
  · exact Or.inr (Or.inr (Or.inr ⟨by omega, rfl⟩))

/-- The value of a byte is that of a number below 256. -/
theorem toNat_byte {n : ℕ} (h : n < 256) : (UInt8.ofNat n).toNat = n := by
  rw [UInt8.toNat_ofNat', Nat.mod_eq_of_lt h]

/-- A byte that starts a character, but does not complete it. -/
theorem feed_cons_none {p : Pending} {n : ℕ} (h : n < 256) (hfirst : firstByte n = ([], some p))
    (bs : List UInt8) : feed none (UInt8.ofNat n :: bs) = feed (some p) bs := by
  rw [feed, toNat_byte h, decodeByte, hfirst]
  rfl

/-- A byte that continues a character, but does not complete it. -/
theorem feed_cons_some {m l u v n : ℕ} (h : n < 256) (hlower : l ≤ n) (hupper : n ≤ u)
    (bs : List UInt8) : feed (some ⟨m + 2, l, u, v⟩) (UInt8.ofNat n :: bs) =
      feed (some ⟨m + 1, 0x80, 0xbf, v * 64 + (n - 0x80)⟩) bs := by
  rw [feed, toNat_byte h, decodeByte, nextByte, if_pos ⟨hlower, hupper⟩, if_neg (by simp)]
  rfl

/-- The byte that completes a character. -/
theorem feed_last {c : Char} {l u v n : ℕ} (h : n < 256) (hlower : l ≤ n) (hupper : n ≤ u)
    (hvalue : v * 64 + (n - 0x80) = c.toNat) :
    feed (some ⟨1, l, u, v⟩) [UInt8.ofNat n] = ([c], none) := by
  rw [feed, toNat_byte h, decodeByte, nextByte, if_pos ⟨hlower, hupper⟩, if_pos rfl, hvalue,
    Char.ofNat_toNat]
  rfl

theorem firstByte_two {n : ℕ} (h : 0xc2 ≤ n ∧ n ≤ 0xdf) :
    firstByte n = ([], some ⟨1, 0x80, 0xbf, n - 0xc0⟩) := by
  rw [firstByte, if_neg (by omega), if_pos h]

theorem firstByte_three {n : ℕ} (h : 0xe0 ≤ n ∧ n ≤ 0xef) :
    firstByte n = ([], some ⟨2, if n = 0xe0 then 0xa0 else 0x80,
      if n = 0xed then 0x9f else 0xbf, n - 0xe0⟩) := by
  rw [firstByte, if_neg (by omega), if_neg (by omega), if_pos h]

theorem firstByte_four {n : ℕ} (h : 0xf0 ≤ n ∧ n ≤ 0xf4) :
    firstByte n = ([], some ⟨3, if n = 0xf0 then 0x90 else 0x80,
      if n = 0xf4 then 0x8f else 0xbf, n - 0xf0⟩) := by
  rw [firstByte, if_neg (by omega), if_neg (by omega), if_neg (by omega), if_pos h]

/-- Bytes that complete a character, while no fewer of them do. -/
def Completes (bytes : List UInt8) (c : Char) : Prop :=
  feed none bytes = ([c], none) ∧
    ∀ k, 0 < k → k < bytes.length → ∃ p, feed none (bytes.take k) = ([], some p)

section Completes

variable {c : Char}

theorem completes_one (h : c.toNat ≤ 0x7f) : Completes [UInt8.ofNat c.toNat] c := by
  constructor
  · rw [feed, toNat_byte (by omega), decodeByte, firstByte, if_pos h, Char.ofNat_toNat]
    rfl
  · intro k hpos hlt
    rw [List.length_singleton] at hlt
    omega

theorem completes_two (h : 0x7f < c.toNat ∧ c.toNat ≤ 0x7ff) :
    Completes [UInt8.ofNat (c.toNat / 64 % 0x20 + 0xc0), UInt8.ofNat (c.toNat % 0x40 + 0x80)]
      c := by
  have h₁ := feed_cons_none (by omega) (firstByte_two (n := c.toNat / 64 % 0x20 + 0xc0) (by omega))
  constructor
  · rw [h₁]
    exact feed_last (by omega) (by omega) (by omega) (by omega)
  · intro k hpos hlt
    obtain rfl : k = 1 := by
      simp only [List.length_cons, List.length_nil] at hlt
      omega
    exact ⟨_, h₁ []⟩

theorem completes_three (h : 0x7ff < c.toNat ∧ c.toNat ≤ 0xffff) :
    Completes [UInt8.ofNat (c.toNat / 4096 % 0x10 + 0xe0), UInt8.ofNat (c.toNat / 64 % 0x40 + 0x80),
      UInt8.ofNat (c.toNat % 0x40 + 0x80)] c := by
  have hbounds := toNat_bounds c
  have h₁ := feed_cons_none (by omega)
    (firstByte_three (n := c.toNat / 4096 % 0x10 + 0xe0) (by omega))
  have h₂ (bs : List UInt8) := feed_cons_some (m := 0)
    (l := if c.toNat / 4096 % 0x10 + 0xe0 = 0xe0 then 0xa0 else 0x80)
    (u := if c.toNat / 4096 % 0x10 + 0xe0 = 0xed then 0x9f else 0xbf)
    (v := c.toNat / 4096 % 0x10 + 0xe0 - 0xe0) (n := c.toNat / 64 % 0x40 + 0x80)
    (by omega) (by split_ifs <;> omega) (by split_ifs <;> omega) bs
  constructor
  · rw [h₁, h₂]
    exact feed_last (by omega) (by omega) (by omega) (by omega)
  · intro k hpos hlt
    obtain rfl | rfl : k = 1 ∨ k = 2 := by
      simp only [List.length_cons, List.length_nil] at hlt
      omega
    · exact ⟨_, h₁ []⟩
    · exact ⟨_, (h₁ _).trans (h₂ [])⟩

theorem completes_four (h : 0xffff < c.toNat) :
    Completes [UInt8.ofNat (c.toNat / 262144 % 0x08 + 0xf0),
      UInt8.ofNat (c.toNat / 4096 % 0x40 + 0x80), UInt8.ofNat (c.toNat / 64 % 0x40 + 0x80),
      UInt8.ofNat (c.toNat % 0x40 + 0x80)] c := by
  have hbounds := toNat_bounds c
  have h₁ := feed_cons_none (by omega)
    (firstByte_four (n := c.toNat / 262144 % 0x08 + 0xf0) (by omega))
  have h₂ (bs : List UInt8) := feed_cons_some (m := 1)
    (l := if c.toNat / 262144 % 0x08 + 0xf0 = 0xf0 then 0x90 else 0x80)
    (u := if c.toNat / 262144 % 0x08 + 0xf0 = 0xf4 then 0x8f else 0xbf)
    (v := c.toNat / 262144 % 0x08 + 0xf0 - 0xf0) (n := c.toNat / 4096 % 0x40 + 0x80)
    (by omega) (by split_ifs <;> omega) (by split_ifs <;> omega) bs
  have h₃ (bs : List UInt8) := feed_cons_some (m := 0) (l := 0x80) (u := 0xbf)
    (v :=
      (c.toNat / 262144 % 0x08 + 0xf0 - 0xf0) * 64 + (c.toNat / 4096 % 0x40 + 0x80 - 0x80))
    (n := c.toNat / 64 % 0x40 + 0x80) (by omega) (by omega) (by omega) bs
  constructor
  · rw [h₁, h₂, h₃]
    exact feed_last (by omega) (by omega) (by omega) (by omega)
  · intro k hpos hlt
    obtain rfl | rfl | rfl : k = 1 ∨ k = 2 ∨ k = 3 := by
      simp only [List.length_cons, List.length_nil] at hlt
      omega
    · exact ⟨_, h₁ []⟩
    · exact ⟨_, (h₁ _).trans (h₂ [])⟩
    · exact ⟨_, (h₁ _).trans ((h₂ _).trans (h₃ []))⟩

end Completes

/-- **The bytes of a character** complete it, and no fewer of them do. -/
theorem completes_utf8EncodeChar (c : Char) : Completes (String.utf8EncodeChar c) c := by
  rcases utf8EncodeChar_cases c with ⟨hc, henc⟩ | ⟨hc, henc⟩ | ⟨hc, henc⟩ | ⟨hc, henc⟩
  · exact henc ▸ completes_one hc
  · exact henc ▸ completes_two hc
  · exact henc ▸ completes_three hc
  · exact henc ▸ completes_four hc

/-! ## Reading what is encoded -/

theorem feed_utf8 (text : List Char) : feed none (utf8 text) = (text, none) := by
  induction text with
  | nil => rfl
  | cons c text ih =>
    rw [utf8, List.flatMap_cons, feed_append, (completes_utf8EncodeChar c).1, ← utf8, ih]
    rfl

/-- **The bytes of a text are read back.** -/
theorem ofUtf8_utf8 (text : List Char) : ofUtf8 (utf8 text) = text := by
  rw [ofUtf8, feed_utf8]
  exact List.append_nil text

/-- **A text that is cut inside of a character** is read with a replacement for that character. -/
theorem ofUtf8_cut (text : List Char) {c : Char} {k : ℕ} (hpos : 0 < k)
    (hlt : k < (String.utf8EncodeChar c).length) :
    ofUtf8 (utf8 text ++ (String.utf8EncodeChar c).take k) = text ++ [replacement] := by
  obtain ⟨p, hp⟩ := (completes_utf8EncodeChar c).2 k hpos hlt
  rw [ofUtf8, feed_append, feed_utf8, hp]
  simp

/-! ## Cut texts -/

/-- The bytes of as many characters of a text as there is room for. -/
def utf8Within (room : ℕ) : List Char → List UInt8
  | [] => []
  | c :: text =>
    if (String.utf8EncodeChar c).length ≤ room then
      String.utf8EncodeChar c ++ utf8Within (room - (String.utf8EncodeChar c).length) text
    else []

theorem length_utf8Within_le (room : ℕ) (text : List Char) :
    (utf8Within room text).length ≤ room := by
  induction text generalizing room with
  | nil => exact Nat.zero_le room
  | cons c text ih =>
    rw [utf8Within]
    split
    · have hrest := ih (room - (String.utf8EncodeChar c).length)
      rw [List.length_append]
      omega
    · exact Nat.zero_le room

/-- Three bytes of room are enough for the rest of a character. -/
theorem take_utf8Within {room k : ℕ} (h : k + 3 ≤ room) (text : List Char) :
    (utf8Within room text).take k = (utf8 text).take k := by
  induction text generalizing room k with
  | nil => rfl
  | cons c text ih =>
    have hfour := c.utf8Size_le_four
    rw [← String.length_utf8EncodeChar] at hfour
    rw [utf8Within, utf8, List.flatMap_cons, ← utf8]
    split
    · rw [List.take_append, List.take_append]
      rcases Nat.le_total (String.utf8EncodeChar c).length k with hle | hle
      · rw [ih (by omega)]
      · rw [Nat.sub_eq_zero_of_le hle, List.take_zero, List.take_zero]
    · obtain rfl : k = 0 := by omega
      rw [List.take_zero, List.take_zero]

/-- The bytes of a text up to some place end with a character, or inside of one. -/
theorem take_utf8 {n : ℕ} (text : List Char) (h : n ≤ (utf8 text).length) :
    (∃ before after, text = before ++ after ∧ (utf8 text).take n = utf8 before) ∨
    ∃ before c after k, text = before ++ c :: after ∧ 0 < k ∧
      k < (String.utf8EncodeChar c).length ∧
      (utf8 text).take n = utf8 before ++ (String.utf8EncodeChar c).take k := by
  induction text generalizing n with
  | nil => exact Or.inl ⟨[], [], rfl, List.take_nil⟩
  | cons c text ih =>
    rw [utf8, List.flatMap_cons, ← utf8] at h ⊢
    rw [List.length_append] at h
    rw [List.take_append]
    rcases Nat.eq_zero_or_pos n with rfl | hpos
    · exact Or.inl ⟨[], c :: text, rfl, by simp [utf8]⟩
    rcases Nat.lt_or_ge n (String.utf8EncodeChar c).length with hlt | hge
    · refine Or.inr ⟨[], c, text, n, rfl, hpos, hlt, ?_⟩
      rw [Nat.sub_eq_zero_of_le (Nat.le_of_lt hlt), List.take_zero, List.append_nil]
      rfl
    rw [List.take_of_length_le hge]
    rcases ih (n := n - (String.utf8EncodeChar c).length) (by omega) with
      ⟨before, after, rfl, htake⟩ | ⟨before, d, after, k, rfl, hk, hk', htake⟩
    · exact Or.inl ⟨c :: before, after, rfl, by rw [htake, utf8, utf8, List.flatMap_cons]⟩
    · refine Or.inr ⟨c :: before, d, after, k, rfl, hk, hk', ?_⟩
      rw [htake, ← List.append_assoc]
      rfl

/-- A character has at least as many bytes as code units, and as many only if it is one of ASCII. -/
theorem length_unitsOf_le (c : Char) : (unitsOf c).length ≤ (String.utf8EncodeChar c).length ∧
    ((unitsOf c).length = (String.utf8EncodeChar c).length ↔ c.toNat ≤ 0x7f) := by
  have hunits : (unitsOf c).length = if c.toNat < 0x10000 then 1 else 2 := by
    unfold unitsOf
    split <;> rfl
  rw [hunits]
  rcases utf8EncodeChar_cases c with ⟨hc, henc⟩ | ⟨hc, henc⟩ | ⟨hc, henc⟩ | ⟨hc, henc⟩ <;>
    have hlen := congrArg List.length henc <;>
    simp only [List.length_cons, List.length_nil] at hlen <;>
    split <;> omega

/-- So does a text. -/
theorem length_utf16_le (text : List Char) : (utf16 text).length ≤ (utf8 text).length ∧
    ((utf16 text).length = (utf8 text).length ↔ ∀ c ∈ text, c.toNat ≤ 0x7f) := by
  induction text with
  | nil => simp [utf16, utf8]
  | cons c text ih =>
    have hc := length_unitsOf_le c
    rw [utf16, utf8, List.flatMap_cons, List.flatMap_cons, ← utf16, ← utf8, List.length_append,
      List.length_append, List.forall_mem_cons, ← hc.2, ← ih.2]
    omega

/-- **A text that is cut to as many bytes as it has code units** is still read if and only if it is
in ASCII, up to a replacement character at its end. -/
theorem ofUtf8_take_utf16_iff (text : List Char) :
    ofUtf8 ((utf8 text).take (utf16 text).length) = text ↔
      ∃ ascii, (∀ c ∈ ascii, c.toNat ≤ 0x7f) ∧ (text = ascii ∨ text = ascii ++ [replacement]) := by
  constructor
  · intro hread
    rcases take_utf8 text (length_utf16_le text).1 with
      ⟨before, after, rfl, htake⟩ | ⟨before, c, after, k, rfl, hpos, hlt, htake⟩
    · rw [htake, ofUtf8_utf8, List.self_eq_append_right] at hread
      subst hread
      rw [List.append_nil] at htake ⊢
      have hlen := congrArg List.length htake
      rw [List.length_take, Nat.min_eq_left (length_utf16_le before).1] at hlen
      exact ⟨before, (length_utf16_le before).2.1 hlen, Or.inl rfl⟩
    · rw [htake, ofUtf8_cut before hpos hlt, List.append_cancel_left_eq, List.cons.injEq] at hread
      obtain ⟨rfl, rfl⟩ := hread
      refine ⟨before, (length_utf16_le before).2.1 ?_, Or.inr rfl⟩
      have hlen := congrArg List.length htake
      have hle := (length_utf16_le before).1
      have hunits : (utf16 (before ++ [replacement])).length = (utf16 before).length + 1 := by
        rw [utf16, List.flatMap_append, List.length_append]
        rfl
      rw [List.length_take, Nat.min_eq_left (length_utf16_le _).1, List.length_append,
        List.length_take, Nat.min_eq_left (Nat.le_of_lt hlt), hunits] at hlen
      omega
  · rintro ⟨ascii, hascii, rfl | rfl⟩
    · rw [(length_utf16_le text).2.2 hascii, List.take_length, ofUtf8_utf8]
    · have hunits : (utf16 (ascii ++ [replacement])).length = (utf8 ascii).length + 1 := by
        rw [utf16, List.flatMap_append, List.length_append, ← utf16,
          (length_utf16_le ascii).2.2 hascii]
        rfl
      have hbytes : utf8 (ascii ++ [replacement]) =
          utf8 ascii ++ String.utf8EncodeChar replacement := by
        rw [utf8, List.flatMap_append, List.flatMap_singleton, ← utf8]
      rw [hunits, hbytes, List.take_length_add_append]
      exact ofUtf8_cut ascii Nat.one_pos (by decide)

end Unicode
