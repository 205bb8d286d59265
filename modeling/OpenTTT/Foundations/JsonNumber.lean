import OpenTTT.Foundations.Json

/-!
# The numbers of JSON

A number is written as a decimal: an integer without leading zeros, digits behind a point, and an
exponent, the last two if there are any. `readDecimal` reads one from the start of a text;
`readDecimal_text` says that it finds the parts that a decimal is written with.
-/

namespace Json

/-- The number `digits * 10 ^ exponent`, or its negative. -/
structure Decimal where
  negative : Bool
  digits : ℕ
  exponent : ℤ
  deriving DecidableEq

/-! ## Reading -/

def readSign : List Char → Bool × List Char
  | [] => (false, [])
  | c :: rest => if c = '-' then (true, rest) else (false, c :: rest)

def readInteger : List Char → Option (List Char × List Char)
  | [] => none
  | c :: rest =>
    if c = '0' then some (['0'], rest)
    else if c.isDigit then some (c :: rest.takeWhile Char.isDigit, rest.dropWhile Char.isDigit)
    else none

def readFraction : List Char → Option (List Char × List Char)
  | [] => some ([], [])
  | c :: rest =>
    if c = '.' then
      if rest.takeWhile Char.isDigit = [] then none
      else some (rest.takeWhile Char.isDigit, rest.dropWhile Char.isDigit)
    else some ([], c :: rest)

/-- The sign of an exponent. -/
def readExponentSign : List Char → Bool × List Char
  | [] => (false, [])
  | c :: rest =>
    if c = '-' then (true, rest) else if c = '+' then (false, rest) else (false, c :: rest)

def readExponent : List Char → Option (ℤ × List Char)
  | [] => some (0, [])
  | c :: rest =>
    if c = 'e' ∨ c = 'E' then
      let (negative, rest) := readExponentSign rest
      let e : ℤ := Nat.ofDigitChars 10 (rest.takeWhile Char.isDigit) 0
      if rest.takeWhile Char.isDigit = [] then none
      else some (if negative then -e else e, rest.dropWhile Char.isDigit)
    else some (0, c :: rest)

/-- The decimal at the start of a text, and what follows. -/
def readDecimal (text : List Char) : Option (Decimal × List Char) := do
  let (negative, rest) := readSign text
  let (integer, rest) ← readInteger rest
  let (fraction, rest) ← readFraction rest
  let (exponent, rest) ← readExponent rest
  some (⟨negative, Nat.ofDigitChars 10 (integer ++ fraction) 0, exponent - fraction.length⟩, rest)

/-! ## Writing -/

def exponentText : Option ℤ → List Char
  | none => []
  | some e => 'e' :: (if e < 0 then '-' else '+') :: Nat.toDigits 10 e.natAbs

def fractionText (fraction : List Char) : List Char :=
  if fraction = [] then [] else '.' :: fraction

/-- A decimal with these parts. -/
def decimalText (negative : Bool) (integer fraction : List Char) (exponent : Option ℤ) :
    List Char :=
  (if negative then ['-'] else []) ++ (integer ++ (fractionText fraction ++ exponentText exponent))

/-- Digits without leading zeros. -/
def IsInteger (integer : List Char) : Prop :=
  integer = ['0'] ∨ ∃ c ds, integer = c :: ds ∧ c ≠ '0' ∧ ∀ d ∈ c :: ds, d.isDigit = true

/-- The digits of a number are an integer. -/
theorem isInteger_toDigits (n : ℕ) : IsInteger (Nat.toDigits 10 n) := by
  induction n using Nat.strong_induction_on with
  | _ n ih =>
    rcases Nat.lt_or_ge n 10 with hlt | hge
    · rw [Nat.toDigits_of_lt_base hlt]
      interval_cases n
      · exact Or.inl rfl
      all_goals exact Or.inr ⟨_, [], rfl, by decide, List.forall_mem_singleton.2 rfl⟩
    · have hdigit : (Nat.digitChar (n % 10)).isDigit = true := by
        rw [Nat.isDigit_digitChar]
        exact decide_eq_true (Nat.mod_lt n (by omega))
      rw [Nat.toDigits_of_base_le (by omega) hge]
      rcases ih (n / 10) (by omega) with hzero | ⟨c, ds, hds, hc, hdigits⟩
      · have hvalue := congrArg (fun ds => Nat.ofDigitChars 10 ds 0) hzero
        rw [Nat.ofDigitChars_ten_toDigits] at hvalue
        have hsmall : n / 10 = 0 := hvalue
        omega
      · refine Or.inr ⟨c, ds ++ [Nat.digitChar (n % 10)], by rw [hds, List.cons_append], hc, ?_⟩
        intro d hd
        rw [← List.cons_append, List.mem_append, List.mem_singleton] at hd
        rcases hd with hd | rfl
        · exact hdigits d hd
        · exact hdigit

/-! ## Reading the parts -/

/-- A text that does not continue digits. -/
def NoDigit (text : List Char) : Prop := ∀ c ∈ text.head?, c.isDigit = false

theorem takeWhile_digits {ds rest : List Char} (hds : ∀ d ∈ ds, d.isDigit = true)
    (hrest : NoDigit rest) : (ds ++ rest).takeWhile Char.isDigit = ds ∧
      (ds ++ rest).dropWhile Char.isDigit = rest := by
  have hhead : rest.takeWhile Char.isDigit = [] ∧ rest.dropWhile Char.isDigit = rest := by
    cases rest with
    | nil => exact ⟨rfl, rfl⟩
    | cons c rest =>
      have hc : ¬ c.isDigit = true := by
        rw [hrest c rfl]
        exact Bool.false_ne_true
      exact ⟨List.takeWhile_cons_of_neg hc, List.dropWhile_cons_of_neg hc⟩
  rw [List.takeWhile_append_of_pos hds, List.dropWhile_append_of_pos hds, hhead.1, hhead.2,
    List.append_nil]
  exact ⟨rfl, rfl⟩

theorem noDigit_of_ends {rest : List Char} (h : Ends rest) : NoDigit rest := by
  cases rest with
  | nil => exact fun c hc => absurd hc (by simp)
  | cons c rest =>
    intro d hd
    obtain rfl : c = d := by simpa using hd
    rcases h with rfl | rfl | rfl <;> rfl

theorem isDigit_of_mem_toDigits {n : ℕ} : ∀ d ∈ Nat.toDigits 10 n, d.isDigit = true :=
  fun _ hd => Nat.isDigit_of_mem_toDigits (by omega) (by omega) hd

theorem readExponent_text {rest : List Char} (hrest : Ends rest) (exponent : Option ℤ) :
    readExponent (exponentText exponent ++ rest) = some (exponent.getD 0, rest) := by
  cases exponent with
  | none =>
    cases rest with
    | nil => rfl
    | cons c rest => rcases hrest with rfl | rfl | rfl <;> rfl
  | some e =>
    obtain ⟨htake, hdrop⟩ := takeWhile_digits (isDigit_of_mem_toDigits (n := e.natAbs))
      (noDigit_of_ends hrest)
    have hsign : readExponentSign ((if e < 0 then '-' else '+') ::
        (Nat.toDigits 10 e.natAbs ++ rest)) =
          (decide (e < 0), Nat.toDigits 10 e.natAbs ++ rest) := by
      by_cases hneg : e < 0
      · rw [if_pos hneg, decide_eq_true hneg]
        rfl
      · rw [if_neg hneg, decide_eq_false hneg]
        rfl
    rw [exponentText, List.cons_append, List.cons_append, readExponent, if_pos (Or.inl rfl), hsign]
    simp only [htake, hdrop, Nat.ofDigitChars_ten_toDigits, Nat.toDigits_ne_nil, if_false,
      Option.getD_some, decide_eq_true_eq, Option.some.injEq, Prod.mk.injEq, and_true]
    split <;> omega

theorem noDigit_exponentText {rest : List Char} (hrest : Ends rest) (exponent : Option ℤ) :
    NoDigit (exponentText exponent ++ rest) := by
  cases exponent with
  | none => exact noDigit_of_ends hrest
  | some e =>
    intro c hc
    obtain rfl : 'e' = c := by simpa [exponentText] using hc
    rfl

theorem readFraction_text {rest : List Char} (hrest : Ends rest) (exponent : Option ℤ)
    {fraction : List Char} (hfraction : ∀ d ∈ fraction, d.isDigit = true) :
    readFraction (fractionText fraction ++ (exponentText exponent ++ rest)) =
      some (fraction, exponentText exponent ++ rest) := by
  unfold fractionText
  split
  · rename_i hnil
    subst hnil
    rw [List.nil_append]
    cases exponent with
    | none =>
      cases rest with
      | nil => rfl
      | cons c rest => rcases hrest with rfl | rfl | rfl <;> rfl
    | some e => rfl
  · rename_i hne
    obtain ⟨htake, hdrop⟩ := takeWhile_digits hfraction (noDigit_exponentText hrest exponent)
    rw [List.cons_append, readFraction, if_pos rfl, htake, hdrop, if_neg hne]

theorem noDigit_fractionText {rest : List Char} (hrest : Ends rest) (exponent : Option ℤ)
    (fraction : List Char) :
    NoDigit (fractionText fraction ++ (exponentText exponent ++ rest)) := by
  unfold fractionText
  split
  · exact noDigit_exponentText hrest exponent
  · intro c hc
    obtain rfl : '.' = c := by simpa using hc
    rfl

theorem readInteger_text {integer rest : List Char} (hinteger : IsInteger integer)
    (hrest : NoDigit rest) : readInteger (integer ++ rest) = some (integer, rest) := by
  rcases hinteger with rfl | ⟨c, ds, rfl, hzero, hdigits⟩
  · rfl
  · obtain ⟨htake, hdrop⟩ :=
      takeWhile_digits (fun d hd => hdigits d (List.mem_cons_of_mem c hd)) hrest
    rw [List.cons_append, readInteger, if_neg hzero, if_pos (hdigits c List.mem_cons_self), htake,
      hdrop]

/-- The first character of an integer is a digit. -/
theorem exists_integer_cons {integer : List Char} (h : IsInteger integer) :
    ∃ c ds, integer = c :: ds ∧ c.isDigit = true := by
  rcases h with rfl | ⟨c, ds, rfl, -, hdigits⟩
  · exact ⟨'0', [], rfl, rfl⟩
  · exact ⟨c, ds, rfl, hdigits c List.mem_cons_self⟩

theorem readSign_text (negative : Bool) {integer : List Char} (h : IsInteger integer)
    (rest : List Char) : readSign ((if negative then ['-'] else []) ++ (integer ++ rest)) =
      (negative, integer ++ rest) := by
  obtain ⟨c, ds, rfl, hc⟩ := exists_integer_cons h
  cases negative with
  | true => rfl
  | false =>
    have hne : c ≠ '-' := by
      rintro rfl
      cases hc
    rw [if_neg Bool.false_ne_true, List.nil_append, List.cons_append, readSign, if_neg hne]

/-- **The parts of a decimal** are read from its text. -/
theorem readDecimal_text (negative : Bool) {integer fraction : List Char} (exponent : Option ℤ)
    (hinteger : IsInteger integer) (hfraction : ∀ d ∈ fraction, d.isDigit = true)
    {rest : List Char} (hrest : Ends rest) :
    readDecimal (decimalText negative integer fraction exponent ++ rest) =
      some (⟨negative, Nat.ofDigitChars 10 (integer ++ fraction) 0,
        exponent.getD 0 - fraction.length⟩, rest) := by
  rw [decimalText, List.append_assoc, List.append_assoc, List.append_assoc, readDecimal]
  simp only [readSign_text negative hinteger,
    readInteger_text hinteger (noDigit_fractionText hrest exponent fraction),
    readFraction_text hrest exponent hfraction, readExponent_text hrest, Option.bind_eq_bind,
    Option.bind_some]

/-- A decimal starts like a number. -/
theorem exists_decimalText_cons (negative : Bool) {integer : List Char} (h : IsInteger integer)
    (fraction : List Char) (exponent : Option ℤ) : ∃ c text,
      decimalText negative integer fraction exponent = c :: text ∧
        (c = '-' ∨ c.isDigit = true) := by
  obtain ⟨c, ds, rfl, hc⟩ := exists_integer_cons h
  cases negative with
  | true => exact ⟨_, _, rfl, Or.inl rfl⟩
  | false => exact ⟨_, _, rfl, Or.inr hc⟩

end Json
