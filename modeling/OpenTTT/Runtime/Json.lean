import OpenTTT.Foundations.JsonNumber
import OpenTTT.Runtime.Errors
import OpenTTT.Runtime.NumberText

/-!
# JSON in the runtime

`JSON.stringify`, `JSON.parse` and the conversion `BigInt(…)`, on the values that the code
serializes. A property that is undefined is absent. The replacers of the code look at bigints only;
without one, a bigint throws.

`parse_stringify` says what is left of a value after a round trip through its text.
-/

namespace OpenTTT

/-- A value of the language, as far as the code serializes such values. -/
inductive JsValue
  | null
  | boolean (b : Bool)
  | number (x : Binary64)
  | bigint (z : ℤ)
  | string (text : String)
  | array (elements : List JsValue)
  | object (members : List (String × JsValue))

/-! ## Numbers -/

/-- A number of the language, which is a double. -/
structure Number where
  value : Binary64
  isDouble : ∀ q, value = .finite q → Binary64.round q = .finite q

namespace Number

/-- A natural number as a number of the language. -/
def ofNat (n : ℕ) (h : n < 2 ^ 53) : Number where
  value := .finite n
  isDouble := by
    intro q hq
    cases hq
    exact Binary64.round_natCast h

theorem toInt?_ofNat {n : ℕ} (h : n < 2 ^ 53) : (ofNat n h).value.toInt? = some (n : ℤ) := by
  simp [ofNat, Binary64.toInt?]

end Number

/-- The number that is nearest to a decimal. -/
def decimalToNumber (d : Json.Decimal) : Binary64 :=
  Binary64.round (if d.negative then -(d.digits * 10 ^ d.exponent) else d.digits * 10 ^ d.exponent)

/-- The numbers in a text of JSON. -/
def numberFormat : Json.NumberFormat Binary64 where
  write x := (numberToString x).toList
  read text := (Json.readDecimal text).map fun r => (decimalToNumber r.1, r.2)

/-! ## Texts and values -/

namespace JsValue

section Stringify

variable (replacer : Option (ℤ → String))

mutual

/-- The value of JSON that is serialized. A number that is not finite is `null`. -/
def toJson : JsValue → Except Thrown (Json.Value Binary64)
  | .null => .ok .null
  | .boolean b => .ok (.bool b)
  | .number (.finite q) => .ok (.number (.finite q))
  | .number _ => .ok .null
  | .bigint z =>
    match replacer with
    | some replace => .ok (.string (replace z))
    | none => .error .typeError
  | .string text => .ok (.string text)
  | .array elements => do
    let vs ← elementsToJson elements
    .ok (.array vs)
  | .object members => do
    let ms ← membersToJson members
    .ok (.object ms)

def elementsToJson : List JsValue → Except Thrown (List (Json.Value Binary64))
  | [] => .ok []
  | v :: vs => do
    let w ← toJson v
    let ws ← elementsToJson vs
    .ok (w :: ws)

def membersToJson : List (String × JsValue) → Except Thrown (List (String × Json.Value Binary64))
  | [] => .ok []
  | (key, v) :: ms => do
    let w ← toJson v
    let ns ← membersToJson ms
    .ok ((key, w) :: ns)

end

/-- `JSON.stringify`. -/
def stringify (v : JsValue) : Except Thrown String := do
  let w ← v.toJson replacer
  .ok (String.ofList (Json.write numberFormat w))

end Stringify

mutual

def ofJson : Json.Value Binary64 → JsValue
  | .null => .null
  | .bool b => .boolean b
  | .number x => .number x
  | .string text => .string text
  | .array elements => .array (elementsOfJson elements)
  | .object members => .object (membersOfJson members)

def elementsOfJson : List (Json.Value Binary64) → List JsValue
  | [] => []
  | v :: vs => ofJson v :: elementsOfJson vs

def membersOfJson : List (String × Json.Value Binary64) → List (String × JsValue)
  | [] => []
  | (key, v) :: ms => (key, ofJson v) :: membersOfJson ms

end

/-- `JSON.parse`. -/
def parse (text : String) : Except Thrown JsValue :=
  match Json.read numberFormat text.toList with
  | some v => .ok (ofJson v)
  | none => .error .syntaxError

/-! ## Conversion to a bigint -/

/-- White space and line ends. -/
def isSpace (c : Char) : Bool :=
  c.toNat ∈ [0x09, 0x0a, 0x0b, 0x0c, 0x0d, 0x20, 0xa0, 0x1680, 0x2028, 0x2029, 0x202f, 0x205f,
    0x3000, 0xfeff] ∨ (0x2000 ≤ c.toNat ∧ c.toNat ≤ 0x200a)

def trim (text : List Char) : List Char :=
  ((text.dropWhile isSpace).reverse.dropWhile isSpace).reverse

/-- A number in digits. -/
def digitsValue (base : ℕ) (digits : List Char) : Option ℕ :=
  if digits = [] then none
  else digits.foldlM (fun n c => (Json.hexValue c).bind fun d =>
    if d < base then some (base * n + d) else none) 0

/-- The integer that a text without space stands for. -/
def integerOf : List Char → Option ℤ
  | [] => some 0
  | '+' :: digits => (digitsValue 10 digits).map Int.ofNat
  | '-' :: digits => (digitsValue 10 digits).map Int.negOfNat
  | '0' :: c :: digits =>
    if c = 'x' ∨ c = 'X' then (digitsValue 16 digits).map Int.ofNat
    else if c = 'o' ∨ c = 'O' then (digitsValue 8 digits).map Int.ofNat
    else if c = 'b' ∨ c = 'B' then (digitsValue 2 digits).map Int.ofNat
    else (digitsValue 10 ('0' :: c :: digits)).map Int.ofNat
  | digits => (digitsValue 10 digits).map Int.ofNat

mutual

/-- The text of a value. An object with a property of the name of the method has no text. -/
def text : JsValue → Except Thrown String
  | .null => .ok "null"
  | .boolean b => .ok (if b then "true" else "false")
  | .number x => .ok (numberToString x)
  | .bigint z => .ok (toString z)
  | .string text => .ok text
  | .array elements => do
    let texts ← elementTexts elements
    .ok (String.intercalate "," texts)
  | .object members =>
    if "toString" ∈ members.map Prod.fst then .error .typeError else .ok "[object Object]"

/-- The texts of elements, where that of `null` is empty. -/
def elementTexts : List JsValue → Except Thrown (List String)
  | [] => .ok []
  | .null :: vs => do
    let texts ← elementTexts vs
    .ok ("" :: texts)
  | v :: vs => do
    let t ← text v
    let texts ← elementTexts vs
    .ok (t :: texts)

end

/-- `BigInt(v)`, also of a value that is undefined. -/
def toBigInt : Option JsValue → Except Thrown ℤ
  | none | some .null => .error .typeError
  | some (.boolean b) => .ok (if b then 1 else 0)
  | some (.number x) =>
    match x.toInt? with
    | some z => .ok z
    | none => .error .rangeError
  | some (.bigint z) => .ok z
  | some v => do
    let t ← v.text
    match integerOf (trim t.toList) with
    | some z => .ok z
    | none => .error .syntaxError

/-! ## Properties -/

/-- `v[key]`, if there is such a property. Of `null` there are none to be read. -/
def get (key : String) : JsValue → Except Thrown (Option JsValue)
  | .null => .error .typeError
  | .object members => .ok ((members.find? fun m => decide (m.1 = key)).map Prod.snd)
  | _ => .ok none

/-- `{...v, [key]: w}`, of a value that is an object. -/
def set (v : JsValue) (key : String) (w : JsValue) : JsValue :=
  match v with
  | .object members => .object (Json.define key w members)
  | v => v

end JsValue

/-! ## The text of a number is read back -/

/-- A text that is a decimal with some parts, which rounds to `x`. -/
def IsDecimalOf (text : List Char) (x : ℚ) : Prop :=
  ∃ integer fraction exponent, text = Json.decimalText false integer fraction exponent ∧
    Json.IsInteger integer ∧ (∀ d ∈ fraction, d.isDigit = true) ∧
    Binary64.round (Nat.ofDigitChars 10 (integer ++ fraction) 0 *
      10 ^ (exponent.getD 0 - fraction.length : ℤ)) = .finite x

/-- The digits of a positive number. -/
structure IsDigitsOf (digits : List Char) (s : ℕ) : Prop where
  value : Nat.ofDigitChars 10 digits 0 = s
  head : ∃ c ds, digits = c :: ds ∧ c ≠ '0'
  isDigit : ∀ d ∈ digits, d.isDigit = true

theorem isDigitsOf_toDigits {s : ℕ} (hs : 0 < s) : IsDigitsOf (Nat.toDigits 10 s) s where
  value := Nat.ofDigitChars_ten_toDigits
  head := by
    rcases Json.isInteger_toDigits s with hzero | ⟨c, ds, hcons, hne, -⟩
    · have hvalue := congrArg (fun ds => Nat.ofDigitChars 10 ds 0) hzero
      rw [Nat.ofDigitChars_ten_toDigits] at hvalue
      have hs' : s = 0 := hvalue
      omega
    · exact ⟨c, ds, hcons, hne⟩
  isDigit := Json.isDigit_of_mem_toDigits

theorem isDigit_of_mem_zeros {i : ℕ} : ∀ d ∈ List.replicate i '0', d.isDigit = true := by
  intro d hd
  rw [List.eq_of_mem_replicate hd]
  rfl

section Texts

variable {x : ℚ} {digits : List Char} {s : ℕ}

/-- Digits that are followed by others are an integer. -/
theorem IsDigitsOf.isInteger_append (h : IsDigitsOf digits s) {rest : List Char}
    (hrest : ∀ d ∈ rest, d.isDigit = true) : Json.IsInteger (digits ++ rest) := by
  obtain ⟨c, ds, rfl, hne⟩ := h.head
  refine Or.inr ⟨c, ds ++ rest, rfl, hne, ?_⟩
  intro d hd
  rw [← List.cons_append, List.mem_append] at hd
  exact hd.elim (h.isDigit d) (hrest d)

theorem IsDigitsOf.isInteger_take (h : IsDigitsOf digits s) {j : ℕ} (hj : 0 < j) :
    Json.IsInteger (digits.take j) := by
  obtain ⟨c, ds, hcons, hne⟩ := h.head
  obtain ⟨j, rfl⟩ : ∃ i, j = i + 1 := ⟨j - 1, by omega⟩
  have htake : digits.take (j + 1) = c :: ds.take j := by rw [hcons, List.take_succ_cons]
  exact Or.inr ⟨c, ds.take j, htake, hne,
    fun d hd => h.isDigit d (List.mem_of_mem_take (htake ▸ hd))⟩

/-- An integer, with zeros behind its digits. -/
theorem IsDigitsOf.isDecimalOf_zeros (h : IsDigitsOf digits s) (i : ℕ)
    (hround : Binary64.round (s * 10 ^ (i : ℤ)) = .finite x) :
    IsDecimalOf (digits ++ List.replicate i '0') x := by
  refine ⟨digits ++ List.replicate i '0', [], none, ?_, h.isInteger_append isDigit_of_mem_zeros,
    by simp, ?_⟩
  · simp [Json.decimalText, Json.fractionText, Json.exponentText]
  · rw [List.append_nil, Nat.ofDigitChars_append, h.value, Nat.ofDigitChars_replicate_zero]
    rw [zpow_natCast, mul_comm] at hround
    simpa using hround

/-- A point inside of the digits, and an exponent. -/
theorem IsDigitsOf.isDecimalOf_point (h : IsDigitsOf digits s) {j : ℕ} (hpos : 0 < j)
    (hle : j ≤ digits.length) (exponent : Option ℤ)
    (hround : Binary64.round (s * 10 ^ (exponent.getD 0 + j - digits.length : ℤ)) = .finite x) :
    IsDecimalOf (Json.decimalText false (digits.take j) (digits.drop j) exponent) x := by
  refine ⟨digits.take j, digits.drop j, exponent, rfl, h.isInteger_take hpos,
    fun d hd => h.isDigit d (List.mem_of_mem_drop hd), ?_⟩
  have hexp : exponent.getD 0 - ((digits.drop j).length : ℤ) =
      exponent.getD 0 + j - digits.length := by
    rw [List.length_drop]
    omega
  rw [List.take_append_drop, h.value, hexp]
  exact hround

/-- A point before the digits, with zeros behind it. -/
theorem IsDigitsOf.isDecimalOf_fraction (h : IsDigitsOf digits s) (j : ℕ)
    (hround : Binary64.round (s * 10 ^ (-(j : ℤ) - digits.length)) = .finite x) :
    IsDecimalOf ('0' :: '.' :: (List.replicate j '0' ++ digits)) x := by
  refine ⟨['0'], List.replicate j '0' ++ digits, none, ?_, Or.inl rfl, ?_, ?_⟩
  · obtain ⟨c, ds, rfl, -⟩ := h.head
    simp [Json.decimalText, Json.fractionText, Json.exponentText]
  · intro d hd
    rw [List.mem_append] at hd
    exact hd.elim (isDigit_of_mem_zeros d) (h.isDigit d)
  · have hexp : (none : Option ℤ).getD 0 - ((List.replicate j '0' ++ digits).length : ℤ) =
        -(j : ℤ) - digits.length := by
      rw [List.length_append, List.length_replicate, Option.getD_none]
      push_cast
      ring
    have hvalue : Nat.ofDigitChars 10 (['0'] ++ (List.replicate j '0' ++ digits)) 0 = s := by
      rw [← List.append_assoc, Nat.ofDigitChars_append, ← h.value]
      congr 1
      rw [Nat.ofDigitChars_append, Nat.ofDigitChars_replicate_zero]
      rfl
    rw [hexp, hvalue]
    exact hround

/-- The digits of a number, with the point after the first `n` of them. -/
theorem isDecimalOf_placePoint {k : ℕ} {n : ℤ} (hlo : 10 ^ k ≤ s) (hhi : s < 10 ^ (k + 1))
    (hround : Binary64.round (s * 10 ^ (n - ((k + 1 : ℕ) : ℤ))) = .finite x) :
    IsDecimalOf (placePoint s n).toList x := by
  have hlen := DecimalText.length_toDigits_eq hlo hhi
  have hdigits := isDigitsOf_toDigits ((Nat.pow_pos (by omega)).trans_le hlo)
  have hlength : (toString s).length = k + 1 := by
    rw [← String.length_toList, DecimalText.toList_toString, hlen]
  have hexponent : ((if 0 ≤ n - 1 then "e+" else "e-") ++ toString (n - 1).natAbs).toList =
      Json.exponentText (some (n - 1)) := by
    rw [String.toList_append, DecimalText.toList_toString, Json.exponentText]
    by_cases hneg : n - 1 < 0
    · rw [if_neg (by omega), if_pos hneg]
      rfl
    · rw [if_pos (by omega), if_neg hneg]
      rfl
  unfold placePoint
  simp only [hlength]
  split
  · rename_i hinteger
    rw [String.toList_append, String.toList_ofList, DecimalText.toList_toString]
    refine hdigits.isDecimalOf_zeros _ ?_
    rw [Int.toNat_of_nonneg (by omega)]
    exact hround
  split
  · rename_i hinteger hpoint
    obtain ⟨j, rfl⟩ : ∃ j : ℕ, n = j := ⟨n.toNat, by omega⟩
    have htext := hdigits.isDecimalOf_point (j := j) (by omega) (by omega) none
      (by rw [hlen, Option.getD_none, zero_add]; exact hround)
    have hdrop : (Nat.toDigits 10 s).drop j ≠ [] := by
      rw [ne_eq, List.drop_eq_nil_iff, hlen]
      omega
    simp only [Json.decimalText, Json.fractionText, Json.exponentText, if_neg hdrop] at htext
    simp only [String.toList_append, String.toList_ofList, DecimalText.toList_toString,
      Int.toNat_natCast]
    simpa using htext
  split
  · rename_i hbefore
    obtain ⟨j, hj⟩ : ∃ j : ℕ, -n = j := ⟨(-n).toNat, by omega⟩
    have htext := hdigits.isDecimalOf_fraction j (by rw [hlen, ← hj, neg_neg]; exact hround)
    simp only [String.toList_append, String.toList_ofList, DecimalText.toList_toString, hj,
      Int.toNat_natCast]
    simpa using htext
  have hround' : Binary64.round (s * 10 ^ (((some (n - 1) : Option ℤ).getD 0) + ((1 : ℕ) : ℤ) -
      (Nat.toDigits 10 s).length)) = .finite x := by
    rw [hlen, Option.getD_some, Nat.cast_one, sub_add_cancel]
    exact hround
  have htext := hdigits.isDecimalOf_point Nat.one_pos (by omega) (some (n - 1)) hround'
  split
  · rename_i hone
    have hdrop : (Nat.toDigits 10 s).drop 1 = [] := List.drop_eq_nil_of_le (by omega)
    have htake : (Nat.toDigits 10 s).take 1 = Nat.toDigits 10 s :=
      List.take_of_length_le (by omega)
    rw [String.toList_append, hexponent, DecimalText.toList_toString]
    simpa [Json.decimalText, Json.fractionText, hdrop, htake] using htext
  · rename_i hmany
    have hdrop : (Nat.toDigits 10 s).drop 1 ≠ [] := by
      rw [ne_eq, List.drop_eq_nil_iff, hlen]
      omega
    rw [String.toList_append, hexponent]
    simp only [String.toList_append, String.toList_ofList, DecimalText.toList_toString]
    simp only [Json.decimalText, Json.fractionText, if_neg hdrop] at htext
    simpa using htext

/-- The text of a positive double is one of its decimals. -/
theorem isDecimalOf_positiveToString (hx : 0 < x) (hdouble : Binary64.round x = .finite x) :
    IsDecimalOf (positiveToString x).toList x := by
  unfold positiveToString
  split
  · rename_i hinteger
    have hnum : 0 < x.num := Rat.num_pos.2 hx
    have htext := (isDigitsOf_toDigits (s := x.num.toNat) (by omega)).isDecimalOf_zeros (x := x) 0
      (by
        have hcast : ((x.num.toNat : ℕ) : ℚ) = x := by
          rw [← Int.cast_natCast, Int.toNat_of_nonneg hnum.le]
          exact Rat.coe_int_num_of_den_eq_one hinteger.1
        rw [hcast, Nat.cast_zero, zpow_zero, mul_one]
        exact hdouble)
    rw [DecimalText.toString_of_nonneg hnum.le, DecimalText.toList_toString]
    simpa using htext
  · obtain ⟨k, hlo, hhi, hround⟩ := shortestDigits_round hx hdouble
    exact isDecimalOf_placePoint hlo hhi hround

/-- A text that is a decimal is read as the number that it rounds to, also behind a sign. -/
theorem reads_of_isDecimalOf {text : List Char} (h : IsDecimalOf text x) (negative : Bool) :
    (∃ c rest, (if negative then ['-'] else []) ++ text = c :: rest ∧
      (c = '-' ∨ c.isDigit = true)) ∧
    ∀ rest, Json.Ends rest →
      numberFormat.read ((if negative then ['-'] else []) ++ text ++ rest) =
        some (if negative then (Binary64.finite x).neg else .finite x, rest) := by
  obtain ⟨integer, fraction, exponent, rfl, hinteger, hfraction, hround⟩ := h
  have htext : (if negative then ['-'] else []) ++
      Json.decimalText false integer fraction exponent =
        Json.decimalText negative integer fraction exponent := by
    cases negative <;> rfl
  rw [htext]
  refine ⟨Json.exists_decimalText_cons negative hinteger fraction exponent, ?_⟩
  intro rest hrest
  simp only [numberFormat, Json.readDecimal_text negative exponent hinteger hfraction hrest,
    Option.map_some, decimalToNumber]
  cases negative with
  | false => simp only [Bool.false_eq_true, if_false, hround]
  | true => simp only [if_true, Binary64.round_neg, hround]

/-- **The text of a finite double is read back.** -/
theorem reads_finite {q : ℚ} (hdouble : Binary64.round q = .finite q) :
    numberFormat.Reads (.finite q) := by
  have hwrite : numberFormat.write (.finite q) = (numberToString (.finite q)).toList := rfl
  rcases lt_trichotomy q 0 with hneg | rfl | hpos
  · have hdouble' : Binary64.round (-q) = .finite (-q) := by
      rw [Binary64.round_neg, hdouble]
      rfl
    obtain ⟨hhead, hread⟩ :=
      reads_of_isDecimalOf (isDecimalOf_positiveToString (neg_pos.2 hneg) hdouble') true
    have htext : numberFormat.write (.finite q) = ['-'] ++ (positiveToString (-q)).toList := by
      rw [hwrite, numberToString_finite, if_neg hneg.ne, if_pos hneg, String.toList_append]
      rfl
    rw [if_pos rfl, ← htext] at hhead
    refine ⟨hhead, fun rest hrest => ?_⟩
    have h := hread rest hrest
    rw [if_pos rfl, ← htext, if_pos rfl] at h
    rw [h, Binary64.neg, neg_neg]
  · have hzero : IsDecimalOf ['0'] 0 := by
      refine ⟨['0'], [], none, rfl, Or.inl rfl, by simp, ?_⟩
      have hvalue : Nat.ofDigitChars 10 (['0'] ++ []) 0 = 0 := rfl
      rw [hvalue, Nat.cast_zero, zero_mul]
      exact hdouble
    obtain ⟨hhead, hread⟩ := reads_of_isDecimalOf hzero false
    exact ⟨hhead, hread⟩
  · obtain ⟨hhead, hread⟩ := reads_of_isDecimalOf (isDecimalOf_positiveToString hpos hdouble) false
    have htext : numberFormat.write (.finite q) = (positiveToString q).toList := by
      rw [hwrite, numberToString_finite, if_neg hpos.ne', if_neg (not_lt.2 hpos.le)]
    rw [if_neg Bool.false_ne_true, List.nil_append, ← htext] at hhead
    refine ⟨hhead, fun rest hrest => ?_⟩
    have h := hread rest hrest
    rw [if_neg Bool.false_ne_true, List.nil_append, ← htext, if_neg Bool.false_ne_true] at h
    exact h

end Texts

/-- The number that has a text, if there is one. -/
def numberOfText (text : String) : Binary64 :=
  match numberFormat.read text.toList with
  | some (x, _) => x
  | none => if text = "NaN" then .nan else .infinity (text = "-Infinity")

/-- **The text of a number is read back**, also if the number is not finite. -/
theorem numberOfText_numberToString (x : Number) :
    numberOfText (numberToString x.value) = x.value := by
  obtain ⟨value, isDouble⟩ := x
  cases value with
  | finite q =>
    have hread := (reads_finite (isDouble q rfl)).read [] trivial
    rw [List.append_nil] at hread
    have htext : numberFormat.read (numberToString (.finite q)).toList = some (.finite q, []) :=
      hread
    rw [numberOfText, htext]
  | infinity negative =>
    change numberOfText (if negative then "-Infinity" else "Infinity") = .infinity negative
    cases negative <;> decide
  | nan =>
    change numberOfText "NaN" = .nan
    decide

/-- Numbers with the same text are the same. -/
theorem numberToString_injective : Function.Injective fun x : Number => numberToString x.value := by
  intro x y h
  have hvalue : x.value = y.value := by
    rw [← numberOfText_numberToString x, ← numberOfText_numberToString y]
    exact congrArg numberOfText h
  obtain ⟨value, isDouble⟩ := x
  obtain rfl : value = y.value := hvalue
  rfl

/-! ## A round trip -/

namespace JsValue

/-- The value of a digit. -/
theorem hexValue_of_isDigit {c : Char} (h : c.isDigit = true) :
    Json.hexValue c = some (c.toNat - '0'.toNat) ∧ c.toNat - '0'.toNat < 10 := by
  rw [Char.isDigit_iff_toNat] at h
  have hzero : '0'.toNat = 48 := rfl
  have hnine : '9'.toNat = 57 := rfl
  refine ⟨?_, by omega⟩
  rw [Json.hexValue, if_pos]
  · rfl
  · rw [Char.le_def, Char.le_def, UInt32.le_iff_toNat_le, UInt32.le_iff_toNat_le]
    exact h

/-- The digits of a number have its value. -/
theorem digitsValue_toDigits (n : ℕ) : digitsValue 10 (Nat.toDigits 10 n) = some n := by
  have hfold : ∀ (ds : List Char) (init : ℕ), (∀ d ∈ ds, d.isDigit = true) →
      ds.foldlM (fun n c => (Json.hexValue c).bind fun d =>
        if d < 10 then some (10 * n + d) else none) init = some (Nat.ofDigitChars 10 ds init) := by
    intro ds
    induction ds with
    | nil => exact fun init _ => rfl
    | cons d ds ih =>
      intro init hds
      obtain ⟨hvalue, hlt⟩ := hexValue_of_isDigit (hds d List.mem_cons_self)
      rw [List.foldlM_cons, hvalue, Option.bind_some, if_pos hlt, Nat.ofDigitChars_cons]
      exact ih _ fun c hc => hds c (List.mem_cons_of_mem d hc)
  rw [digitsValue, if_neg Nat.toDigits_ne_nil, hfold _ _ Json.isDigit_of_mem_toDigits,
    Nat.ofDigitChars_ten_toDigits]

theorem isSpace_of_isDigit {c : Char} (h : c.isDigit = true) : isSpace c = false := by
  rw [Char.isDigit_iff_toNat] at h
  have hzero : '0'.toNat = 48 := rfl
  have hnine : '9'.toNat = 57 := rfl
  simp only [isSpace, decide_eq_false_iff_not, List.mem_cons, List.not_mem_nil, or_false]
  omega

/-- A text without spaces is not changed by `trim`. -/
theorem trim_of_forall {text : List Char} (h : ∀ c ∈ text, isSpace c = false) :
    trim text = text := by
  have hdrop : ∀ l : List Char, (∀ c ∈ l, isSpace c = false) → l.dropWhile isSpace = l := by
    intro l hl
    cases l with
    | nil => rfl
    | cons c l =>
      have hc : ¬ isSpace c = true := by
        rw [hl c List.mem_cons_self]
        exact Bool.false_ne_true
      exact List.dropWhile_cons_of_neg hc
  rw [trim, hdrop text h, hdrop _ fun c hc => h c (List.mem_reverse.1 hc), List.reverse_reverse]

theorem integerOf_toDigits (n : ℕ) : integerOf (Nat.toDigits 10 n) = some (n : ℤ) := by
  have hvalue := digitsValue_toDigits n
  rcases Json.isInteger_toDigits n with hzero | ⟨c, ds, hcons, hne, hdigits⟩
  · rw [hzero] at hvalue ⊢
    rw [integerOf, hvalue]
    · rfl
    all_goals simp
  · rw [hcons] at hvalue ⊢
    have hc := hdigits c List.mem_cons_self
    rw [integerOf, hvalue]
    · rfl
    · simp
    · rintro digits h
      rw [(List.cons.inj h).1] at hc
      cases hc
    · rintro digits h
      rw [(List.cons.inj h).1] at hc
      cases hc
    · rintro d digits h
      exact hne (List.cons.inj h).1

/-- **The text of a bigint** is converted back. -/
theorem toBigInt_toString (z : ℤ) : toBigInt (some (.string (toString z))) = .ok z := by
  have hinteger : integerOf (trim (toString z).toList) = some z := by
    rcases Int.lt_or_le z 0 with hneg | hpos
    · have htext : (toString z).toList = '-' :: Nat.toDigits 10 (-z).toNat := by
        rw [DecimalText.toString_of_neg hneg, String.toList_append, DecimalText.toList_toString]
        rfl
      have hspace : ∀ c ∈ (toString z).toList, isSpace c = false := by
        rw [htext, List.forall_mem_cons]
        exact ⟨by decide, fun c hc => isSpace_of_isDigit (Json.isDigit_of_mem_toDigits c hc)⟩
      rw [trim_of_forall hspace, htext, integerOf, digitsValue_toDigits, Option.map_some,
        Int.negOfNat_eq, Int.ofNat_eq_natCast, Int.toNat_of_nonneg (by omega), neg_neg]
    · have htext : (toString z).toList = Nat.toDigits 10 z.toNat := by
        rw [DecimalText.toString_of_nonneg hpos, DecimalText.toList_toString]
      have hspace : ∀ c ∈ (toString z).toList, isSpace c = false := by
        rw [htext]
        exact fun c hc => isSpace_of_isDigit (Json.isDigit_of_mem_toDigits c hc)
      rw [trim_of_forall hspace, htext, integerOf_toDigits, Int.toNat_of_nonneg hpos]
  rw [toBigInt, text, ok_bind, hinteger]
  all_goals simp

/-- Values without a number that is not finite, and without a property twice. -/
inductive Serializable : JsValue → Prop
  | null : Serializable .null
  | boolean (b : Bool) : Serializable (.boolean b)
  | number {q : ℚ} : Binary64.round q = .finite q → Serializable (.number (.finite q))
  | bigint (z : ℤ) : Serializable (.bigint z)
  | string (text : String) : Serializable (.string text)
  | array {vs : List JsValue} : (∀ v ∈ vs, Serializable v) → Serializable (.array vs)
  | object {ms : List (String × JsValue)} : (ms.map Prod.fst).Nodup →
      (∀ m ∈ ms, Serializable m.2) → Serializable (.object ms)

section RoundTrip

variable (replace : ℤ → String)

mutual

/-- The value with its bigints replaced. -/
def replaced : JsValue → JsValue
  | .bigint z => .string (replace z)
  | .array elements => .array (replacedElements elements)
  | .object members => .object (replacedMembers members)
  | v => v

def replacedElements : List JsValue → List JsValue
  | [] => []
  | v :: vs => replaced v :: replacedElements vs

def replacedMembers : List (String × JsValue) → List (String × JsValue)
  | [] => []
  | (key, v) :: ms => (key, replaced v) :: replacedMembers ms

end

/-- A value is serialized as one of JSON that is written and read back, with its bigints
replaced. -/
def RoundTrips (v : JsValue) : Prop :=
  ∃ w, v.toJson (some replace) = .ok w ∧ Json.Writable numberFormat w ∧
    ofJson w = v.replaced replace

variable {replace}

theorem roundTrips_elements {vs : List JsValue} (h : ∀ v ∈ vs, RoundTrips replace v) :
    ∃ ws, elementsToJson (some replace) vs = .ok ws ∧ (∀ w ∈ ws, Json.Writable numberFormat w) ∧
      elementsOfJson ws = replacedElements replace vs := by
  induction vs with
  | nil => exact ⟨[], rfl, by simp, rfl⟩
  | cons v vs ih =>
    obtain ⟨w, hw, hwritable, hof⟩ := h v List.mem_cons_self
    obtain ⟨ws, hws, hwritables, hofs⟩ := ih fun v' hv' => h v' (List.mem_cons_of_mem v hv')
    refine ⟨w :: ws, ?_, List.forall_mem_cons.2 ⟨hwritable, hwritables⟩, ?_⟩
    · rw [elementsToJson, hw, ok_bind, hws]
      rfl
    · rw [elementsOfJson, hof, hofs]
      rfl

theorem roundTrips_members {ms : List (String × JsValue)}
    (h : ∀ m ∈ ms, RoundTrips replace m.2) :
    ∃ ns, membersToJson (some replace) ms = .ok ns ∧ ns.map Prod.fst = ms.map Prod.fst ∧
      (∀ n ∈ ns, Json.Writable numberFormat n.2) ∧
      membersOfJson ns = replacedMembers replace ms := by
  induction ms with
  | nil => exact ⟨[], rfl, rfl, by simp, rfl⟩
  | cons m ms ih =>
    obtain ⟨key, v⟩ := m
    obtain ⟨w, hw, hwritable, hof⟩ := h (key, v) List.mem_cons_self
    obtain ⟨ns, hns, hkeys, hwritables, hofs⟩ := ih fun m' hm' => h m' (List.mem_cons_of_mem _ hm')
    refine ⟨(key, w) :: ns, ?_, ?_, List.forall_mem_cons.2 ⟨hwritable, hwritables⟩, ?_⟩
    · rw [membersToJson, hw, ok_bind, hns]
      rfl
    · rw [List.map_cons, List.map_cons, hkeys]
    · rw [membersOfJson, hof, hofs]
      rfl

theorem roundTrips_of_serializable {v : JsValue} (h : Serializable v) : RoundTrips replace v := by
  induction h with
  | null => exact ⟨.null, rfl, .null, rfl⟩
  | boolean b => exact ⟨.bool b, rfl, .bool b, rfl⟩
  | @number q hdouble => exact ⟨.number (.finite q), rfl, .number (reads_finite hdouble), rfl⟩
  | bigint z => exact ⟨.string (replace z), rfl, .string _, rfl⟩
  | string text => exact ⟨.string text, rfl, .string text, rfl⟩
  | array hvs ih =>
    obtain ⟨ws, hws, hwritables, hofs⟩ := roundTrips_elements ih
    refine ⟨.array ws, ?_, .array hwritables, ?_⟩
    · rw [toJson, hws]
      rfl
    · rw [ofJson, hofs]
      rfl
  | object hnodup hms ih =>
    obtain ⟨ns, hns, hkeys, hwritables, hofs⟩ := roundTrips_members ih
    refine ⟨.object ns, ?_, .object (hkeys ▸ hnodup) hwritables, ?_⟩
    · rw [toJson, hns]
      rfl
    · rw [ofJson, hofs]
      rfl

variable (replace) in
/-- **A round trip** through the text of a value replaces its bigints, and keeps the rest. -/
theorem parse_stringify {v : JsValue} (h : Serializable v) :
    (v.stringify (some replace) >>= parse) = .ok (v.replaced replace) := by
  obtain ⟨w, hw, hwritable, hof⟩ : RoundTrips replace v := roundTrips_of_serializable h
  rw [stringify, hw, ok_bind, ok_bind, parse, String.toList_ofList, Json.read_write hwritable]
  exact congrArg Except.ok hof

end RoundTrip

/-- Serializable values without a bigint. -/
inductive Plain : JsValue → Prop
  | null : Plain .null
  | boolean (b : Bool) : Plain (.boolean b)
  | number {q : ℚ} : Binary64.round q = .finite q → Plain (.number (.finite q))
  | string (text : String) : Plain (.string text)
  | array {vs : List JsValue} : (∀ v ∈ vs, Plain v) → Plain (.array vs)
  | object {ms : List (String × JsValue)} : (ms.map Prod.fst).Nodup →
      (∀ m ∈ ms, Plain m.2) → Plain (.object ms)

theorem Plain.serializable {v : JsValue} (h : Plain v) : Serializable v := by
  induction h with
  | null => exact .null
  | boolean b => exact .boolean b
  | number hdouble => exact .number hdouble
  | string text => exact .string text
  | array _ ih => exact .array ih
  | object hnodup _ ih => exact .object hnodup ih

/-- Values that serialize alike, as elements. -/
theorem elementsToJson_congr {r r' : Option (ℤ → String)} {α : Type} {f g : α → JsValue}
    {l : List α} (h : ∀ a ∈ l, (f a).toJson r = (g a).toJson r') :
    elementsToJson r (l.map f) = elementsToJson r' (l.map g) := by
  induction l with
  | nil => rfl
  | cons a l ih =>
    rw [List.map_cons, List.map_cons, elementsToJson, elementsToJson, h a List.mem_cons_self,
      ih fun b hb => h b (List.mem_cons_of_mem a hb)]

theorem membersToJson_congr {r r' : Option (ℤ → String)} {ms : List (String × JsValue)}
    (h : ∀ m ∈ ms, m.2.toJson r = m.2.toJson r') : membersToJson r ms = membersToJson r' ms := by
  induction ms with
  | nil => rfl
  | cons m ms ih =>
    obtain ⟨key, v⟩ := m
    rw [membersToJson, membersToJson, h (key, v) List.mem_cons_self,
      ih fun m hm => h m (List.mem_cons_of_mem _ hm)]

/-- A replacer has nothing to do in a value without bigints. -/
theorem Plain.toJson {v : JsValue} (h : Plain v) (r r' : Option (ℤ → String)) :
    v.toJson r = v.toJson r' := by
  induction h with
  | null | boolean b | number hdouble | string text => rfl
  | array _ ih =>
    have helements := elementsToJson_congr ih
    rw [List.map_id'] at helements
    rw [JsValue.toJson, JsValue.toJson, helements]
  | object _ _ ih =>
    rw [JsValue.toJson, JsValue.toJson, membersToJson_congr ih]

theorem replacedElements_eq {replace : ℤ → String} {vs : List JsValue}
    (h : ∀ v ∈ vs, v.replaced replace = v) : replacedElements replace vs = vs := by
  induction vs with
  | nil => rfl
  | cons v vs ih =>
    rw [replacedElements, h v List.mem_cons_self, ih fun w hw => h w (List.mem_cons_of_mem v hw)]

theorem replacedMembers_eq {replace : ℤ → String} {ms : List (String × JsValue)}
    (h : ∀ m ∈ ms, m.2.replaced replace = m.2) : replacedMembers replace ms = ms := by
  induction ms with
  | nil => rfl
  | cons m ms ih =>
    obtain ⟨key, v⟩ := m
    rw [replacedMembers, h (key, v) List.mem_cons_self,
      ih fun n hn => h n (List.mem_cons_of_mem _ hn)]

theorem Plain.replaced {v : JsValue} (h : Plain v) (replace : ℤ → String) :
    v.replaced replace = v := by
  induction h with
  | null | boolean b | number hdouble | string text => rfl
  | array _ ih => exact congrArg JsValue.array (replacedElements_eq ih)
  | object _ _ ih => exact congrArg JsValue.object (replacedMembers_eq ih)

/-- **A round trip without a replacer**: a value without bigints is read back as it was. -/
theorem parse_stringify_plain {v : JsValue} (h : Plain v) :
    (v.stringify none >>= parse) = .ok v := by
  have hround := parse_stringify toString h.serializable
  rw [h.replaced, stringify, h.toJson (some toString) none] at hround
  exact hround

end JsValue

end OpenTTT
