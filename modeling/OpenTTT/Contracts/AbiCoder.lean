import OpenTTT.Contracts.Solidity
import OpenTTT.Runtime.Json

/-!
# The encoder of the library

`AbiCoder.encode` is not part of the repository, so it is a parameter. Two things are known of it:
each value of a static type is padded to a word of 32 bytes, `PadsStatic`, and a bigint or a number
is refused that is no integer of its unsigned type, `ChecksUints`. `words_of_encode` says what an
encoding of such values is when there is one.
-/

namespace OpenTTT

/-- `AbiCoder.encode`, of the types and the values. -/
abbrev AbiEncoder := List String → List JsValue → Except Thrown Buffer

/-- The number of bits of an unsigned type. -/
def uintBits (type : String) : Option ℕ :=
  if type = "uint256" then some 256
  else if type = "uint64" then some 64
  else if type = "uint32" then some 32
  else if type = "uint8" then some 8
  else none

theorem uintBits_le {type : String} {bits : ℕ} (h : uintBits type = some bits) : bits ≤ 256 := by
  unfold uintBits at h
  split_ifs at h <;> cases h <;> omega

/-- The integer that is encoded for a bigint, or for a number that is a safe integer. -/
def bigNumberish : JsValue → Option ℤ
  | .bigint z => some z
  | .number x => x.toInt?.filter fun z => decide (z.natAbs < 2 ^ 53)
  | _ => none

/-- The integer that is encoded for a number is the number. -/
theorem eq_finite_of_bigNumberish {x : Binary64} {z : ℤ} (h : bigNumberish (.number x) = some z) :
    x = .finite z := by
  rw [bigNumberish, Option.filter_eq_some_iff] at h
  exact Binary64.eq_finite_of_toInt? h.1

/-- A bigint or a number. -/
def JsValue.IsNumeric : JsValue → Prop
  | .bigint _ | .number _ => True
  | _ => False

/-- The number in the word of a value of an unsigned type. -/
def uintWord (bits : ℕ) (value : JsValue) : Option ℕ :=
  (bigNumberish value).bind fun z => if 0 ≤ z ∧ z < 2 ^ bits then some z.toNat else none

theorem uintWord_eq_some {bits n : ℕ} {value : JsValue} :
    uintWord bits value = some n ↔ bigNumberish value = some (n : ℤ) ∧ n < 2 ^ bits := by
  have hcast : (n : ℤ) < 2 ^ bits ↔ n < 2 ^ bits := by exact_mod_cast Iff.rfl
  rw [uintWord, Option.bind_eq_some_iff]
  constructor
  · rintro ⟨z, hz, hn⟩
    split at hn
    · rename_i hrange
      have hvalue : z = n := by
        rw [← Option.some.inj hn, Int.toNat_of_nonneg hrange.1]
      exact ⟨hz.trans (congrArg some hvalue), hcast.1 (hvalue ▸ hrange.2)⟩
    · cases hn
  · rintro ⟨hz, hlt⟩
    exact ⟨n, hz, by rw [if_pos ⟨Int.natCast_nonneg n, hcast.2 hlt⟩, Int.toNat_natCast]⟩

/-- The number in the word of a value of a static type. -/
def staticWord (address : String → Option Address) (type : String) (value : JsValue) : Option ℕ :=
  match uintBits type with
  | some bits => uintWord bits value
  | none =>
    match value with
    | .string text => if type = "address" then (address text).map BitVec.toNat else none
    | _ => none

/-- The word of a value of an unsigned type. -/
theorem staticWord_of_uintBits (address : String → Option Address) {type : String} {bits : ℕ}
    (htype : uintBits type = some bits) (value : JsValue) :
    staticWord address type value = uintWord bits value := by
  simp only [staticWord, htype]

/-- The word of an unsigned number that fits into its type. -/
theorem staticWord_uint (address : String → Option Address) {type : String} {value : JsValue}
    {bits n : ℕ} (htype : uintBits type = some bits) (hvalue : bigNumberish value = some (n : ℤ))
    (hn : n < 2 ^ bits) : staticWord address type value = some n := by
  rw [staticWord_of_uintBits address htype]
  exact uintWord_eq_some.2 ⟨hvalue, hn⟩

/-- The words of values of static types. -/
def staticWords (address : String → Option Address) : List String → List JsValue → Option (List ℕ)
  | [], [] => some []
  | type :: types, value :: values =>
    (staticWord address type value).bind fun word =>
      (staticWords address types values).map fun words => word :: words
  | _, _ => none

/-! ## What is known of the encoder -/

/-- The encoding pads each value of a static type to 32 bytes. -/
def AbiEncoder.PadsStatic (encode : AbiEncoder) (address : String → Option Address) : Prop :=
  ∀ types values words, staticWords address types values = some words →
    encode types values = .ok (Solidity.words words)

/-- The encoding refuses a bigint or a number that is no integer of its unsigned type. -/
def AbiEncoder.ChecksUints (encode : AbiEncoder) : Prop :=
  ∀ types values data, encode types values = .ok data →
    ∀ type value bits, (type, value) ∈ types.zip values → uintBits type = some bits →
      value.IsNumeric → (uintWord bits value).isSome

/-- Values of unsigned types have their words, if each of them has one. -/
theorem exists_staticWords {address : String → Option Address} {types : List String}
    {values : List JsValue} (hlength : types.length = values.length)
    (h : ∀ type value, (type, value) ∈ types.zip values →
      (staticWord address type value).isSome) :
    ∃ words, staticWords address types values = some words := by
  induction types generalizing values with
  | nil =>
    cases values with
    | nil => exact ⟨[], rfl⟩
    | cons value values => cases hlength
  | cons type types ih =>
    cases values with
    | nil => cases hlength
    | cons value values =>
      obtain ⟨word, hword⟩ := Option.isSome_iff_exists.1 (h type value (List.mem_cons_self ..))
      obtain ⟨words, hwords⟩ := ih (Nat.succ.inj hlength)
        fun type value hmem => h type value (List.mem_cons_of_mem _ hmem)
      exact ⟨word :: words, by simp [staticWords, hword, hwords]⟩

/-- The words of values of unsigned types are the integers that are encoded for them. -/
theorem map_bigNumberish {address : String → Option Address} {types : List String}
    {values : List JsValue} {words : List ℕ} (htypes : ∀ type ∈ types, (uintBits type).isSome)
    (h : staticWords address types values = some words) :
    values.map bigNumberish = words.map (fun n : ℕ => some (n : ℤ)) ∧ ∀ n ∈ words, n < 2 ^ 256 := by
  induction types generalizing values words with
  | nil =>
    cases values with
    | nil =>
      cases h
      simp
    | cons value values => cases h
  | cons type types ih =>
    cases values with
    | nil => cases h
    | cons value values =>
      obtain ⟨bits, hbits⟩ := Option.isSome_iff_exists.1 (htypes type (List.mem_cons_self ..))
      rw [staticWords, Option.bind_eq_some_iff] at h
      obtain ⟨word, hword, hrest⟩ := h
      obtain ⟨rest, hwords, rfl⟩ := Option.map_eq_some_iff.1 hrest
      rw [staticWord_of_uintBits address hbits, uintWord_eq_some] at hword
      obtain ⟨hvalues, hlt⟩ :=
        ih (fun type hmem => htypes type (List.mem_cons_of_mem _ hmem)) hwords
      have hfits : word < 2 ^ 256 :=
        hword.2.trans_le (Nat.pow_le_pow_right (by decide) (uintBits_le hbits))
      exact ⟨by rw [List.map_cons, List.map_cons, hword.1, hvalues],
        List.forall_mem_cons.2 ⟨hfits, hlt⟩⟩

/-- The words of values of unsigned types tell apart what is encoded for them. -/
theorem map_bigNumberish_eq_of_words {address : String → Option Address} {types : List String}
    {values values' : List JsValue} {words words' : List ℕ}
    (htypes : ∀ type ∈ types, (uintBits type).isSome)
    (h : staticWords address types values = some words)
    (h' : staticWords address types values' = some words')
    (heq : Solidity.words words = Solidity.words words') :
    values.map bigNumberish = values'.map bigNumberish := by
  obtain ⟨hvalues, hlt⟩ := map_bigNumberish htypes h
  obtain ⟨hvalues', hlt'⟩ := map_bigNumberish htypes h'
  rw [hvalues, hvalues', Solidity.words_inj hlt hlt' heq]

/-- **An encoding of bigints and numbers of unsigned types** is that of their words. -/
theorem AbiEncoder.words_of_encode {encode : AbiEncoder} {address : String → Option Address}
    (hpads : encode.PadsStatic address) (hchecks : encode.ChecksUints) {types : List String}
    {values : List JsValue} {data : Buffer} (hlength : types.length = values.length)
    (htypes : ∀ type ∈ types, (uintBits type).isSome) (hvalues : ∀ value ∈ values, value.IsNumeric)
    (h : encode types values = .ok data) :
    ∃ words, staticWords address types values = some words ∧ data = Solidity.words words := by
  have hfits : ∀ type value, (type, value) ∈ types.zip values →
      (staticWord address type value).isSome := by
    intro type value hmem
    obtain ⟨bits, hbits⟩ := Option.isSome_iff_exists.1 (htypes type (List.of_mem_zip hmem).1)
    rw [staticWord_of_uintBits address hbits]
    exact hchecks types values data h type value bits hmem hbits
      (hvalues value (List.of_mem_zip hmem).2)
  obtain ⟨words, hwords⟩ := exists_staticWords hlength hfits
  exact ⟨words, hwords, Except.ok.inj (h.symm.trans (hpads _ _ _ hwords))⟩

/-! ## An encoder of static types -/

/-- Values that have their words each have one. -/
theorem isSome_staticWord {address : String → Option Address} {types : List String}
    {values : List JsValue} {words : List ℕ} (h : staticWords address types values = some words) :
    ∀ p ∈ types.zip values, (staticWord address p.1 p.2).isSome := by
  induction types generalizing values words with
  | nil => simp
  | cons type types ih =>
    cases values with
    | nil => simp
    | cons value values =>
      rw [staticWords, Option.bind_eq_some_iff] at h
      obtain ⟨word, hword, hrest⟩ := h
      obtain ⟨rest, hwords, -⟩ := Option.map_eq_some_iff.1 hrest
      rw [List.zip_cons_cons, List.forall_mem_cons]
      exact ⟨by rw [hword, Option.isSome_some], ih hwords⟩

/-- The encoder that knows static types only. -/
def AbiEncoder.static (address : String → Option Address) : AbiEncoder := fun types values =>
  match staticWords address types values with
  | some words => .ok (Solidity.words words)
  | none => .error .typeError

theorem AbiEncoder.padsStatic_static (address : String → Option Address) :
    (AbiEncoder.static address).PadsStatic address := by
  intro types values words h
  simp only [AbiEncoder.static, h]

theorem AbiEncoder.checksUints_static (address : String → Option Address) :
    (AbiEncoder.static address).ChecksUints := by
  intro types values data h type value bits hmem hbits _
  unfold AbiEncoder.static at h
  split at h
  · rename_i words hwords
    rw [← staticWord_of_uintBits address hbits]
    exact isSome_staticWord hwords _ hmem
  · cases h

end OpenTTT
