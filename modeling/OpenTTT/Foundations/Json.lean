import OpenTTT.Foundations.Unicode
import Mathlib.Tactic.IntervalCases

/-!
# JSON texts

The values of JSON over a type of numbers, the text without spaces that a value is written as, and
a reader of texts. How a number is written and read is a parameter (`NumberFormat`). The reader
allows spaces between tokens; of two members with one name, the later replaces the earlier.

Nothing is read of a text that is none of JSON. `read_write` says that what is written is read back,
for values whose numbers are (`Writable`).
-/

namespace Json

/-- A value; an object has its members in order. -/
inductive Value (N : Type)
  | null
  | bool (b : Bool)
  | number (x : N)
  | string (text : String)
  | array (elements : List (Value N))
  | object (members : List (String × Value N))

/-- How numbers are written, and read from the start of a text. -/
structure NumberFormat (N : Type) where
  write : N → List Char
  read : List Char → Option (N × List Char)

/-! ## Writing -/

/-- The hexadecimal digit of a number below 16. -/
def hexDigit (n : ℕ) : Char := if n < 10 then Char.ofNat (48 + n) else Char.ofNat (87 + n)

/-- A character in a string. -/
def escape (c : Char) : List Char :=
  if c = '"' then ['\\', '"']
  else if c = '\\' then ['\\', '\\']
  else if c = '\x08' then ['\\', 'b']
  else if c = '\x0c' then ['\\', 'f']
  else if c = '\n' then ['\\', 'n']
  else if c = '\r' then ['\\', 'r']
  else if c = '\t' then ['\\', 't']
  else if c.toNat < 0x20 then
    ['\\', 'u', '0', '0', hexDigit (c.toNat / 16), hexDigit (c.toNat % 16)]
  else [c]

def writeString (text : String) : List Char := '"' :: (text.toList.flatMap escape ++ ['"'])

variable {N : Type} (format : NumberFormat N)

mutual

/-- The text of a value. -/
def write : Value N → List Char
  | .null => ['n', 'u', 'l', 'l']
  | .bool true => ['t', 'r', 'u', 'e']
  | .bool false => ['f', 'a', 'l', 's', 'e']
  | .number x => format.write x
  | .string text => writeString text
  | .array [] => ['[', ']']
  | .array (v :: vs) => '[' :: (write v ++ writeElements vs)
  | .object [] => ['{', '}']
  | .object (m :: ms) => '{' :: (writeMember m ++ writeMembers ms)

/-- The elements after the first one, and the end of the array. -/
def writeElements : List (Value N) → List Char
  | [] => [']']
  | v :: vs => ',' :: (write v ++ writeElements vs)

def writeMember : String × Value N → List Char
  | (key, v) => writeString key ++ ':' :: write v

/-- The members after the first one, and the end of the object. -/
def writeMembers : List (String × Value N) → List Char
  | [] => ['}']
  | m :: ms => ',' :: (writeMember m ++ writeMembers ms)

end

/-! ## Reading -/

/-- The value of a hexadecimal digit, in either case. -/
def hexValue (c : Char) : Option ℕ :=
  if '0' ≤ c ∧ c ≤ '9' then some (c.toNat - 48)
  else if 'a' ≤ c ∧ c ≤ 'f' then some (c.toNat - 87)
  else if 'A' ≤ c ∧ c ≤ 'F' then some (c.toNat - 55)
  else none

/-- The code unit in four hexadecimal digits. -/
def hexUnit (a b c d : Char) : Option ℕ := do
  let w ← hexValue a
  let x ← hexValue b
  let y ← hexValue c
  let z ← hexValue d
  some (((w * 16 + x) * 16 + y) * 16 + z)

/-- The character behind a backslash. -/
def unescape (c : Char) : Option Char :=
  if c = '"' ∨ c = '\\' ∨ c = '/' then some c
  else if c = 'b' then some '\x08'
  else if c = 'f' then some '\x0c'
  else if c = 'n' then some '\n'
  else if c = 'r' then some '\r'
  else if c = 't' then some '\t'
  else none

/-- The code units of a string up to its closing quote, and what follows. -/
def readUnits : List Char → Option (List ℕ × List Char)
  | [] => none
  | '"' :: rest => some ([], rest)
  | '\\' :: 'u' :: w :: x :: y :: z :: rest =>
    (hexUnit w x y z).bind fun unit => (readUnits rest).map fun r => (unit :: r.1, r.2)
  | '\\' :: e :: rest =>
    (unescape e).bind fun c => (readUnits rest).map fun r => (Unicode.unitsOf c ++ r.1, r.2)
  | c :: rest =>
    if c = '\\' ∨ c.toNat < 0x20 then none
    else (readUnits rest).map fun r => (Unicode.unitsOf c ++ r.1, r.2)
termination_by structural text => text

/-- A string behind its opening quote. -/
def readString (text : List Char) : Option (String × List Char) :=
  (readUnits text).map fun r => (String.ofList (Unicode.ofUtf16 r.1), r.2)

def skipSpace (text : List Char) : List Char :=
  text.dropWhile fun c => c = ' ' ∨ c = '\t' ∨ c = '\n' ∨ c = '\r'

/-- What follows a word. -/
def dropWord : List Char → List Char → Option (List Char)
  | [], text => some text
  | c :: word, d :: text => if c = d then dropWord word text else none
  | _ :: _, [] => none

/-- Give the value to a name: in the place of the old one, if there is one. -/
def define {V : Type} (key : String) (v : V) : List (String × V) → List (String × V)
  | [] => [(key, v)]
  | m :: ms => if m.1 = key then (key, v) :: ms else m :: define key v ms

/-- The members that were read, each name once. -/
def collect (members : List (String × Value N)) : List (String × Value N) :=
  members.foldl (fun ms m => define m.1 m.2 ms) []

mutual

/-- A value at the start of a text, and what follows. The fuel is for the nesting and the number of
the values; the length of the text is enough. -/
def readValue : ℕ → List Char → Option (Value N × List Char)
  | 0, _ => none
  | fuel + 1, text =>
    match skipSpace text with
    | [] => none
    | c :: rest =>
      if c = '"' then (readString rest).map fun r => (.string r.1, r.2)
      else if c = '[' then
        match skipSpace rest with
        | ']' :: rest => some (.array [], rest)
        | rest => do
          let (v, rest) ← readValue fuel rest
          let (vs, rest) ← readElements fuel rest
          some (.array (v :: vs), rest)
      else if c = '{' then
        match skipSpace rest with
        | '}' :: rest => some (.object [], rest)
        | rest => do
          let (m, rest) ← readMember fuel rest
          let (ms, rest) ← readMembers fuel rest
          some (.object (collect (m :: ms)), rest)
      else if c = 'n' then (dropWord ['u', 'l', 'l'] rest).map fun rest => (.null, rest)
      else if c = 't' then (dropWord ['r', 'u', 'e'] rest).map fun rest => (.bool true, rest)
      else if c = 'f' then (dropWord ['a', 'l', 's', 'e'] rest).map fun rest => (.bool false, rest)
      else (format.read (c :: rest)).map fun r => (.number r.1, r.2)

/-- The elements after the first one, up to the end of the array. -/
def readElements : ℕ → List Char → Option (List (Value N) × List Char)
  | 0, _ => none
  | fuel + 1, text =>
    match skipSpace text with
    | ']' :: rest => some ([], rest)
    | ',' :: rest => do
      let (v, rest) ← readValue fuel rest
      let (vs, rest) ← readElements fuel rest
      some (v :: vs, rest)
    | _ => none

def readMember : ℕ → List Char → Option ((String × Value N) × List Char)
  | 0, _ => none
  | fuel + 1, text =>
    match skipSpace text with
    | '"' :: rest => do
      let (key, rest) ← readString rest
      match skipSpace rest with
      | ':' :: rest => do
        let (v, rest) ← readValue fuel rest
        some ((key, v), rest)
      | _ => none
    | _ => none

/-- The members after the first one, up to the end of the object. -/
def readMembers : ℕ → List Char → Option (List (String × Value N) × List Char)
  | 0, _ => none
  | fuel + 1, text =>
    match skipSpace text with
    | '}' :: rest => some ([], rest)
    | ',' :: rest => do
      let (m, rest) ← readMember fuel rest
      let (ms, rest) ← readMembers fuel rest
      some (m :: ms, rest)
    | _ => none

end

/-- The value of a text, if it is one of JSON. -/
def read (text : List Char) : Option (Value N) := do
  let (v, rest) ← readValue format (text.length + 1) text
  if skipSpace rest = [] then some v else none

/-! ## Strings -/

theorem hexValue_hexDigit {n : ℕ} (h : n < 16) : hexValue (hexDigit n) = some n := by
  interval_cases n <;> decide

/-- An escaped character is read as its code units. -/
theorem readUnits_escape (c : Char) (rest : List Char) : readUnits (escape c ++ rest) =
    (readUnits rest).map fun r => (Unicode.unitsOf c ++ r.1, r.2) := by
  unfold escape
  split_ifs with h₁ h₂ h₃ h₄ h₅ h₆ h₇ h₈
  · subst h₁; rfl
  · subst h₂; rfl
  · subst h₃; rfl
  · subst h₄; rfl
  · subst h₅; rfl
  · subst h₆; rfl
  · subst h₇; rfl
  · have hunit : hexUnit '0' '0' (hexDigit (c.toNat / 16)) (hexDigit (c.toNat % 16)) =
        some c.toNat := by
      have hzero : hexValue '0' = some 0 := by decide
      rw [hexUnit, hzero, hexValue_hexDigit (by omega), hexValue_hexDigit (by omega)]
      simp only [Option.bind_eq_bind, Option.bind_some, Option.some.injEq]
      omega
    have hunits : Unicode.unitsOf c = [c.toNat] := by
      rw [Unicode.unitsOf, if_pos (by omega)]
    rw [hunits]
    simp only [List.cons_append, List.nil_append, readUnits]
    simp [hunit]
  · rw [List.singleton_append, readUnits, if_neg (not_or.2 ⟨h₂, h₈⟩)]
    · exact h₁
    · exact fun _ _ _ _ _ h _ => h₂ h
    · exact fun _ _ h _ => h₂ h

/-- The string behind an opening quote is read up to the closing one. -/
theorem readString_write (text : String) (rest : List Char) :
    readString (text.toList.flatMap escape ++ '"' :: rest) = some (text, rest) := by
  have hunits : ∀ cs : List Char, readUnits (cs.flatMap escape ++ '"' :: rest) =
      some (Unicode.utf16 cs, rest) := by
    intro cs
    induction cs with
    | nil => rfl
    | cons c cs ih =>
      rw [List.flatMap_cons, List.append_assoc, readUnits_escape, ih, Option.map_some,
        Unicode.utf16, Unicode.utf16, List.flatMap_cons]
  rw [readString, hunits, Option.map_some, Unicode.ofUtf16_utf16, String.ofList_toList]

/-! ## Reading what is written -/

theorem skipSpace_cons {c : Char} (h : ¬ (c = ' ' ∨ c = '\t' ∨ c = '\n' ∨ c = '\r'))
    (rest : List Char) : skipSpace (c :: rest) = c :: rest := by
  rw [skipSpace, List.dropWhile_cons, if_neg (by simpa using h)]

/-- What may follow a value. -/
def Ends : List Char → Prop
  | [] => True
  | c :: _ => c = ',' ∨ c = ']' ∨ c = '}'

/-- A number that is read from the text that it is written as. -/
structure NumberFormat.Reads (x : N) : Prop where
  head : ∃ c text, format.write x = c :: text ∧ (c = '-' ∨ c.isDigit = true)
  read : ∀ rest, Ends rest → format.read (format.write x ++ rest) = some (x, rest)

/-- A value whose numbers are read back, and whose objects have no name twice. -/
inductive Writable : Value N → Prop
  | null : Writable .null
  | bool (b : Bool) : Writable (.bool b)
  | number {x : N} : format.Reads x → Writable (.number x)
  | string (text : String) : Writable (.string text)
  | array {vs : List (Value N)} : (∀ v ∈ vs, Writable v) → Writable (.array vs)
  | object {ms : List (String × Value N)} : (ms.map Prod.fst).Nodup →
      (∀ m ∈ ms, Writable m.2) → Writable (.object ms)

theorem define_of_notMem {V : Type} {key : String} {v : V} {ms : List (String × V)}
    (h : key ∉ ms.map Prod.fst) : define key v ms = ms ++ [(key, v)] := by
  induction ms with
  | nil => rfl
  | cons m ms ih =>
    rw [List.map_cons, List.mem_cons, not_or] at h
    rw [define, if_neg (Ne.symm h.1), ih h.2, List.cons_append]

/-- Members without a name twice are kept as they are. -/
theorem collect_of_nodup {ms : List (String × Value N)} (h : (ms.map Prod.fst).Nodup) :
    collect ms = ms := by
  have hfold : ∀ done : List (String × Value N), ((done ++ ms).map Prod.fst).Nodup →
      ms.foldl (fun ms m => define m.1 m.2 ms) done = done ++ ms := by
    clear h
    induction ms with
    | nil => exact fun done _ => (List.append_nil done).symm
    | cons m ms ih =>
      intro done hnodup
      have hnew : m.1 ∉ done.map Prod.fst := by
        rw [List.map_append, List.map_cons, List.nodup_append] at hnodup
        exact fun hmem => hnodup.2.2 m.1 hmem m.1 List.mem_cons_self rfl
      rw [List.foldl_cons, define_of_notMem hnew, ih, List.append_assoc, List.singleton_append]
      rw [List.append_assoc, List.singleton_append]
      exact hnodup
  exact hfold [] h

/-- The reader reads a value with as much fuel as its text is long. -/
def ReadsBack (v : Value N) : Prop :=
  ∀ (fuel : ℕ) (rest : List Char), (write format v).length ≤ fuel → Ends rest →
    readValue format fuel (write format v ++ rest) = some (v, rest)

variable {format}

theorem ends_writeElements (vs : List (Value N)) (rest : List Char) :
    Ends (writeElements format vs ++ rest) := by
  cases vs with
  | nil => exact Or.inr (Or.inl rfl)
  | cons v vs => exact Or.inl rfl

theorem ends_writeMembers (ms : List (String × Value N)) (rest : List Char) :
    Ends (writeMembers format ms ++ rest) := by
  cases ms with
  | nil => exact Or.inr (Or.inr rfl)
  | cons m ms => exact Or.inl rfl

theorem readElements_write {vs : List (Value N)} (h : ∀ v ∈ vs, ReadsBack format v)
    {fuel : ℕ} (hfuel : (writeElements format vs).length ≤ fuel) (rest : List Char) :
    readElements format fuel (writeElements format vs ++ rest) = some (vs, rest) := by
  induction vs generalizing fuel with
  | nil =>
    obtain ⟨fuel, rfl⟩ := Nat.exists_eq_add_of_le' hfuel
    rfl
  | cons v vs ih =>
    rw [writeElements, List.length_cons, List.length_append] at hfuel
    obtain ⟨fuel, rfl⟩ : ∃ k, fuel = k + 1 := ⟨fuel - 1, by omega⟩
    rw [writeElements, List.cons_append, List.append_assoc, readElements,
      skipSpace_cons (by decide)]
    simp only [h v List.mem_cons_self fuel _ (by omega) (ends_writeElements vs rest),
      ih (fun w hw => h w (List.mem_cons_of_mem v hw)) (show _ ≤ fuel by omega),
      Option.bind_eq_bind, Option.bind_some]

theorem readMember_write {m : String × Value N} (h : ReadsBack format m.2) {fuel : ℕ}
    (hfuel : (writeMember format m).length ≤ fuel) {rest : List Char} (hrest : Ends rest) :
    readMember format fuel (writeMember format m ++ rest) = some (m, rest) := by
  obtain ⟨key, v⟩ := m
  rw [writeMember, writeString] at hfuel ⊢
  simp only [List.length_append, List.length_cons] at hfuel
  obtain ⟨fuel, rfl⟩ : ∃ k, fuel = k + 1 := ⟨fuel - 1, by omega⟩
  have hvalue := h fuel rest (show (write format v).length ≤ fuel by omega) hrest
  simp only [List.cons_append, List.append_assoc, List.nil_append, readMember]
  rw [skipSpace_cons (by decide)]
  simp only [readString_write, Option.bind_eq_bind, Option.bind_some]
  rw [skipSpace_cons (by decide)]
  simp only [hvalue, Option.bind_some]

theorem readMembers_write {ms : List (String × Value N)}
    (h : ∀ m ∈ ms, ReadsBack format m.2) {fuel : ℕ}
    (hfuel : (writeMembers format ms).length ≤ fuel) (rest : List Char) :
    readMembers format fuel (writeMembers format ms ++ rest) = some (ms, rest) := by
  induction ms generalizing fuel with
  | nil =>
    obtain ⟨fuel, rfl⟩ := Nat.exists_eq_add_of_le' hfuel
    rfl
  | cons m ms ih =>
    rw [writeMembers, List.length_cons, List.length_append] at hfuel
    obtain ⟨fuel, rfl⟩ : ∃ k, fuel = k + 1 := ⟨fuel - 1, by omega⟩
    rw [writeMembers, List.cons_append, List.append_assoc, readMembers,
      skipSpace_cons (by decide)]
    simp only [readMember_write (h m List.mem_cons_self) (show _ ≤ fuel by omega)
        (ends_writeMembers ms rest),
      ih (fun m' hm' => h m' (List.mem_cons_of_mem m hm')) (show _ ≤ fuel by omega),
      Option.bind_eq_bind, Option.bind_some]

/-- The first character of a value is no space, and does not end an array. -/
theorem exists_write_cons {v : Value N} (h : Writable format v) : ∃ c text,
    write format v = c :: text ∧ ¬ (c = ' ' ∨ c = '\t' ∨ c = '\n' ∨ c = '\r') ∧ c ≠ ']' := by
  cases h with
  | null => exact ⟨_, _, rfl, by decide, by decide⟩
  | bool b => cases b <;> exact ⟨_, _, rfl, by decide, by decide⟩
  | string text => exact ⟨_, _, rfl, by decide, by decide⟩
  | number hx =>
    obtain ⟨c, text, htext, hc⟩ := hx.head
    refine ⟨c, text, htext, ?_, ?_⟩
    · rintro (rfl | rfl | rfl | rfl) <;> revert hc <;> decide
    · rintro rfl
      revert hc
      decide
  | @array vs hvs => cases vs <;> exact ⟨_, _, rfl, by decide, by decide⟩
  | @object ms hnodup hms => cases ms <;> exact ⟨_, _, rfl, by decide, by decide⟩

section Equations

variable (fuel : ℕ) (rest : List Char)

theorem readValue_string : readValue format (fuel + 1) ('"' :: rest) =
    (readString rest).map fun r => (.string r.1, r.2) := rfl

theorem readValue_array {c : Char} (hspace : ¬ (c = ' ' ∨ c = '\t' ∨ c = '\n' ∨ c = '\r'))
    (hne : c ≠ ']') : readValue format (fuel + 1) ('[' :: c :: rest) = (do
      let (v, rest) ← readValue format fuel (c :: rest)
      let (vs, rest) ← readElements format fuel rest
      some (.array (v :: vs), rest)) := by
  rw [readValue, skipSpace_cons (by decide)]
  simp only [Char.reduceEq, if_false, if_true, skipSpace_cons hspace]
  split
  · rename_i heq
    exact absurd (List.cons.inj heq).1 hne
  · rfl

theorem readValue_object : readValue format (fuel + 1) ('{' :: '"' :: rest) = (do
    let (m, rest) ← readMember format fuel ('"' :: rest)
    let (ms, rest) ← readMembers format fuel rest
    some (.object (collect (m :: ms)), rest)) := rfl

theorem readValue_number {c : Char} (h : c = '-' ∨ c.isDigit = true) :
    readValue format (fuel + 1) (c :: rest) =
      (format.read (c :: rest)).map fun r => (.number r.1, r.2) := by
  have hne : ∀ d : Char, d.isDigit = false → d ≠ '-' → c ≠ d := by
    rintro d hdigit hminus rfl
    rcases h with h | h
    · exact hminus h
    · rw [hdigit] at h
      cases h
  have hspace : ¬ (c = ' ' ∨ c = '\t' ∨ c = '\n' ∨ c = '\r') := by
    simp only [not_or]
    exact ⟨hne _ rfl (by decide), hne _ rfl (by decide), hne _ rfl (by decide),
      hne _ rfl (by decide)⟩
  rw [readValue, skipSpace_cons hspace]
  simp only [hne '"' rfl (by decide), hne '[' rfl (by decide), hne '{' rfl (by decide),
    hne 'n' rfl (by decide), hne 't' rfl (by decide), hne 'f' rfl (by decide), if_false]

end Equations

theorem readsBack_string (text : String) : ReadsBack format (.string text) := by
  intro fuel rest hfuel hrest
  rw [write, writeString, List.length_cons] at hfuel
  obtain ⟨fuel, rfl⟩ : ∃ k, fuel = k + 1 := ⟨fuel - 1, by omega⟩
  rw [write, writeString, List.cons_append, List.append_assoc, readValue_string,
    List.singleton_append, readString_write, Option.map_some]

theorem readsBack_number {x : N} (h : format.Reads x) : ReadsBack format (.number x) := by
  intro fuel rest hfuel hrest
  obtain ⟨c, text, htext, hc⟩ := h.head
  have hread := h.read rest hrest
  rw [write, htext, List.length_cons] at hfuel
  obtain ⟨fuel, rfl⟩ : ∃ k, fuel = k + 1 := ⟨fuel - 1, by omega⟩
  rw [htext, List.cons_append] at hread
  rw [write, htext, List.cons_append, readValue_number fuel (text ++ rest) hc, hread,
    Option.map_some]

theorem readsBack_array {vs : List (Value N)} (hvs : ∀ v ∈ vs, Writable format v)
    (h : ∀ v ∈ vs, ReadsBack format v) : ReadsBack format (.array vs) := by
  intro fuel rest hfuel hrest
  cases vs with
  | nil =>
    rw [write, List.length_cons] at hfuel
    obtain ⟨fuel, rfl⟩ : ∃ k, fuel = k + 1 := ⟨fuel - 1, by omega⟩
    rfl
  | cons v vs =>
    rw [write, List.length_cons, List.length_append] at hfuel
    obtain ⟨fuel, rfl⟩ : ∃ k, fuel = k + 1 := ⟨fuel - 1, by omega⟩
    have hv := h v List.mem_cons_self fuel (writeElements format vs ++ rest) (by omega)
      (ends_writeElements vs rest)
    have hrest' := readElements_write (fun w hw => h w (List.mem_cons_of_mem v hw))
      (show _ ≤ fuel by omega) rest
    -- what follows the bracket is a value, not the end of the array
    obtain ⟨c, text, htext, hspace, hne⟩ := exists_write_cons (hvs v List.mem_cons_self)
    rw [htext, List.cons_append] at hv
    rw [write, htext, List.cons_append, List.append_assoc, List.cons_append,
      readValue_array fuel _ hspace hne, hv]
    simp only [Option.bind_eq_bind, Option.bind_some, hrest']

theorem readsBack_object {ms : List (String × Value N)} (hnodup : (ms.map Prod.fst).Nodup)
    (h : ∀ m ∈ ms, ReadsBack format m.2) : ReadsBack format (.object ms) := by
  intro fuel rest hfuel hrest
  cases ms with
  | nil =>
    rw [write, List.length_cons] at hfuel
    obtain ⟨fuel, rfl⟩ : ∃ k, fuel = k + 1 := ⟨fuel - 1, by omega⟩
    rfl
  | cons m ms =>
    rw [write, List.length_cons, List.length_append] at hfuel
    obtain ⟨fuel, rfl⟩ : ∃ k, fuel = k + 1 := ⟨fuel - 1, by omega⟩
    have hm : readMember format fuel (writeMember format m ++ (writeMembers format ms ++ rest)) =
        some (m, writeMembers format ms ++ rest) :=
      readMember_write (h m List.mem_cons_self) (by omega) (ends_writeMembers ms rest)
    have hrest' := readMembers_write (fun m' hm' => h m' (List.mem_cons_of_mem m hm'))
      (show _ ≤ fuel by omega) rest
    obtain ⟨text, htext⟩ : ∃ text, writeMember format m = '"' :: text :=
      ⟨_, by rw [← Prod.mk.eta (p := m), writeMember, writeString, List.cons_append]⟩
    rw [htext, List.cons_append] at hm
    rw [write, htext, List.cons_append, List.append_assoc, List.cons_append, readValue_object, hm]
    simp only [Option.bind_eq_bind, Option.bind_some, hrest', collect_of_nodup hnodup]

/-- **A value is read back** from its text, whatever may follow it. -/
theorem readsBack_of_writable {v : Value N} (h : Writable format v) : ReadsBack format v := by
  induction h with
  | null =>
    intro fuel rest hfuel hrest
    rw [write, List.length_cons] at hfuel
    obtain ⟨fuel, rfl⟩ : ∃ k, fuel = k + 1 := ⟨fuel - 1, by omega⟩
    rfl
  | bool b =>
    intro fuel rest hfuel hrest
    cases b <;>
    · rw [write, List.length_cons] at hfuel
      obtain ⟨fuel, rfl⟩ : ∃ k, fuel = k + 1 := ⟨fuel - 1, by omega⟩
      rfl
  | string text => exact readsBack_string text
  | number hx => exact readsBack_number hx
  | array hvs ih => exact readsBack_array hvs ih
  | object hnodup hms ih => exact readsBack_object hnodup ih

/-- **What is written is read.** -/
theorem read_write {v : Value N} (h : Writable format v) :
    read format (write format v) = some v := by
  have hread := readsBack_of_writable h ((write format v).length + 1) [] (Nat.le_succ _) trivial
  rw [List.append_nil] at hread
  rw [read, hread]
  rfl

end Json
