import OpenTTT.Foundations.Slices
import OpenTTT.Roughtime.Messages

/-!
# Building and parsing messages

`buildMessage` and `parseMessage` are inverse to each other. Both are brought to the same form: a
header of words, and values that stand one after the other (`Slices`). `buildMessage_eq` and
`parseMessage_eq_cut` say what the two do in these terms, and `build_parse_inverse` is the result.
-/

namespace OpenTTT

namespace Buffer

/-- The numbers in `n` words from an offset on. -/
def words (buf : Buffer) (start n : ℕ) : List ℕ :=
  (List.range n).map fun i => buf.word (start + 4 * i)

@[simp] theorem length_words (buf : Buffer) (start n : ℕ) : (buf.words start n).length = n := by
  simp [words]

theorem words_succ (buf : Buffer) (start n : ℕ) :
    buf.words start (n + 1) = buf.word start :: buf.words (start + 4) n := by
  rw [words, List.range_succ_eq_map, List.map_cons, List.map_map]
  refine congrArg _ (List.map_congr_left fun i _ => ?_)
  simp only [Function.comp]
  congr 1
  omega

theorem word_append (pre rest : Buffer) (start : ℕ) :
    word (pre ++ rest) (pre.length + start) = word rest start := by
  rw [word, word, List.drop_append, List.drop_eq_nil_of_le (by omega), List.nil_append]
  congr 3
  omega

theorem words_append (pre rest : Buffer) (start n : ℕ) :
    words (pre ++ rest) (pre.length + start) n = words rest start n := by
  refine List.map_congr_left fun i _ => ?_
  rw [Nat.add_assoc, word_append]

/-- The words at the start of a buffer. -/
theorem words_flatten {bs : List Buffer} (hbs : ∀ b ∈ bs, b.length = 4) (rest : Buffer) :
    words (bs.flatten ++ rest) 0 bs.length = bs.map leValue := by
  induction bs with
  | nil => rfl
  | cons b bs ih =>
    have hb := hbs b List.mem_cons_self
    have hword : word (b ++ (bs.flatten ++ rest)) 0 = leValue b := by
      rw [word, List.drop_zero, List.take_left' hb]
    have hrest : words (b ++ (bs.flatten ++ rest)) (0 + 4) bs.length = bs.map leValue := by
      have happend := words_append b (bs.flatten ++ rest) 0 bs.length
      rw [hb, Nat.add_comm] at happend
      rw [happend, ih fun b' hb' => hbs b' (List.mem_cons_of_mem b hb')]
    rw [List.flatten_cons, List.append_assoc, List.length_cons, words_succ, hword, hrest,
      List.map_cons]

/-- The bytes of a word in the buffer. -/
theorem leBytes_word {buf : Buffer} {start : ℕ} (h : start + 4 ≤ buf.length) :
    leBytes 4 (buf.word start) = (buf.drop start).take 4 := by
  have hlen : ((buf.drop start).take 4).length = 4 := by
    rw [List.length_take, List.length_drop]
    omega
  calc leBytes 4 (buf.word start)
      = leBytes ((buf.drop start).take 4).length (leValue ((buf.drop start).take 4)) := by
        rw [hlen, word]
    _ = (buf.drop start).take 4 := leBytes_leValue _

/-- The bytes of the words are those of the buffer. -/
theorem flatten_leBytes_words {buf : Buffer} {start n : ℕ} (h : start + 4 * n ≤ buf.length) :
    ((buf.words start n).map (leBytes 4)).flatten = (buf.drop start).take (4 * n) := by
  induction n generalizing start with
  | zero => simp [words]
  | succ n ih =>
    rw [words_succ, List.map_cons, List.flatten_cons, leBytes_word (by omega), ih (by omega),
      ← List.drop_drop,
      show 4 * (n + 1) = 4 + 4 * n by omega, List.take_add]

/-- The words of numbers that fit into them. -/
theorem words_leBytes {ns : List ℕ} (h : ∀ n ∈ ns, n < 2 ^ 32) (rest : Buffer) :
    words ((ns.map (leBytes 4)).flatten ++ rest) 0 ns.length = ns := by
  have hlen : ∀ b ∈ ns.map (leBytes 4), b.length = 4 := by
    intro b hb
    obtain ⟨n, -, rfl⟩ := List.mem_map.1 hb
    exact length_leBytes 4 n
  have hwords := words_flatten hlen rest
  rw [List.length_map, List.map_map] at hwords
  rw [hwords]
  calc ns.map (leValue ∘ leBytes 4) = ns.map id := by
        refine List.map_congr_left fun n hn => ?_
        have hfits : n < 256 ^ 4 := h n hn
        exact leValue_leBytes hfits
    _ = ns := List.map_id ns

end Buffer

namespace RoughtimeSource

/-! ## The builder -/

/-- The offsets of values after the first one. -/
theorem buildOffsets_of_pos {i : ℕ} (hi : 0 < i) {offset : ℕ} {pairs : List (Buffer × Buffer)}
    (h : ∀ o ∈ Slices.offsets offset (pairs.map Prod.snd), o < 2 ^ 32) :
    buildOffsets i offset pairs =
      .ok ((Slices.offsets offset (pairs.map Prod.snd)).map (Buffer.leBytes 4)) := by
  induction pairs generalizing i offset with
  | nil => rfl
  | cons pair pairs ih =>
    rw [List.map_cons, Slices.offsets] at h ⊢
    have hwrite : Buffer.writeUInt32LE offset = .ok (Buffer.leBytes 4 offset) :=
      if_pos (h offset List.mem_cons_self)
    have hrest := ih (Nat.succ_pos i) fun o ho => h o (List.mem_cons_of_mem offset ho)
    rw [buildOffsets, if_pos hi, hwrite, ok_bind, hrest]
    rfl

/-- The header of a message: the number of tags, the offsets, and the tags. -/
def header (n : ℕ) (offsets : List ℕ) (tags : List Buffer) : Buffer :=
  Buffer.leBytes 4 n ++ (offsets.map (Buffer.leBytes 4)).flatten ++ tags.flatten

/-- **What the builder writes**, if the number of the values and their offsets fit into words. -/
theorem buildMessage_eq {pairs : List (Buffer × Buffer)} (hn : pairs.length < 2 ^ 32)
    (h : ∀ o ∈ (Slices.offsets 0 (pairs.map Prod.snd)).tail, o < 2 ^ 32) :
    buildMessage pairs = .ok (header pairs.length (Slices.offsets 0 (pairs.map Prod.snd)).tail
      (pairs.map Prod.fst) ++ (pairs.map Prod.snd).flatten) := by
  have hwrite : Buffer.writeUInt32LE pairs.length = .ok (Buffer.leBytes 4 pairs.length) :=
    if_pos hn
  rw [buildMessage, hwrite, ok_bind]
  cases pairs with
  | nil => rfl
  | cons pair pairs =>
    rw [List.map_cons, Slices.offsets, List.tail_cons] at h
    have hoffsets := buildOffsets_of_pos Nat.one_pos h
    rw [buildOffsets, if_neg (Nat.lt_irrefl 0), ok_bind, hoffsets]
    rfl

/-! ## The parser -/

theorem readValues_cons (buf : Buffer) (valuesStart : ℕ) (map : InsertionMap ℕ Buffer)
    (tag offset : ℕ) (tags offsets : List ℕ) :
    readValues buf valuesStart map (tag :: tags) (offset :: offsets) =
      let stop := (offsets.map (valuesStart + ·)).head?.getD buf.length
      if stop > buf.length ∨ valuesStart + offset > stop then none
      else readValues buf valuesStart
        (map.set tag (buf.subarray (valuesStart + offset) stop)) tags offsets := by
  cases offsets <;> rfl

/-- The reading of the values cuts the buffer. -/
theorem readValues_eq (buf : Buffer) (valuesStart : ℕ) (map : InsertionMap ℕ Buffer)
    {tags offsets : List ℕ} (h : tags.length = offsets.length) :
    readValues buf valuesStart map tags offsets =
      (Slices.cut buf (offsets.map (valuesStart + ·))).map fun values =>
        map.setAll (tags.zip values) := by
  induction offsets generalizing map tags with
  | nil =>
    rw [List.length_nil, List.length_eq_zero_iff] at h
    subst h
    rfl
  | cons offset offsets ih =>
    obtain ⟨tag, tags, rfl⟩ := List.exists_cons_of_length_eq_add_one h
    have hlen : tags.length = offsets.length := by simpa using h
    rw [readValues_cons, List.map_cons, Slices.cut]
    dsimp only
    split
    · rfl
    · rw [ih _ hlen, Option.map_map]
      rfl

/-- The parser in terms of the words of the header, for a message with tags. -/
theorem parseMessage_eq_cut {buf : Buffer} {n : ℕ} (hlen : headerLen n ≤ buf.length)
    (hn : 0 < n) (hword : buf.word 0 = n) :
    parseMessage buf = .ok ((Slices.cut buf
      ((0 :: buf.words 4 (n - 1)).map (headerLen n + ·))).map fun values =>
        InsertionMap.empty.setAll ((buf.words (4 + 4 * (n - 1)) n).zip values)) := by
  have hfour : ¬ buf.length < 4 := by
    rw [headerLen] at hlen
    omega
  rw [parseMessage_eq, hword, if_neg hfour, if_neg hn.ne', if_neg (by omega)]
  refine congrArg _ (readValues_eq _ _ _ ?_)
  simp only [List.length_map, List.length_range, List.length_cons]
  omega

/-! ## The two are inverse -/

/-- An array of the language, whose length is a number of 32 bits. -/
abbrev Array32 (α : Type) := { l : List α // l.length < 2 ^ 32 }

theorem length_flatten_of_four {bs : List Buffer} (h : ∀ b ∈ bs, b.length = 4) :
    bs.flatten.length = 4 * bs.length := by
  induction bs with
  | nil => rfl
  | cons b bs ih =>
    rw [List.flatten_cons, List.length_append, List.length_cons, h b List.mem_cons_self,
      ih fun b' hb' => h b' (List.mem_cons_of_mem b hb')]
    omega

theorem length_header {n : ℕ} {offsets : List ℕ} {tags : List Buffer}
    (hoffsets : offsets.length = n - 1) (htags : ∀ tag ∈ tags, tag.length = 4)
    (hn : tags.length = n) :
    (header n offsets tags).length = headerLen n := by
  have hwords : ∀ b ∈ offsets.map (Buffer.leBytes 4), b.length = 4 := by
    intro b hb
    obtain ⟨o, -, rfl⟩ := List.mem_map.1 hb
    exact Buffer.length_leBytes 4 o
  rw [header, List.length_append, List.length_append, length_flatten_of_four hwords,
    length_flatten_of_four htags, Buffer.length_leBytes, List.length_map, hoffsets, hn, headerLen]

/-- The words of a message that was put together from its parts. -/
theorem words_message {n : ℕ} {offsets : List ℕ} {tags : List Buffer} (hn : n < 2 ^ 32)
    (hoffsets : ∀ o ∈ offsets, o < 2 ^ 32) (htags : ∀ tag ∈ tags, tag.length = 4)
    (rest : Buffer) :
    (header n offsets tags ++ rest).word 0 = n ∧
      (header n offsets tags ++ rest).words 4 offsets.length = offsets ∧
      (header n offsets tags ++ rest).words (4 + 4 * offsets.length) tags.length =
        tags.map Buffer.leValue := by
  have hwords : ∀ b ∈ offsets.map (Buffer.leBytes 4), b.length = 4 := by
    intro b hb
    obtain ⟨o, -, rfl⟩ := List.mem_map.1 hb
    exact Buffer.length_leBytes 4 o
  refine ⟨?_, ?_, ?_⟩
  · have hfits : n < 256 ^ 4 := hn
    rw [Buffer.word, List.drop_zero, header, List.append_assoc, List.append_assoc,
      List.take_left' (Buffer.length_leBytes 4 n), Buffer.leValue_leBytes hfits]
  · have happend := Buffer.words_append (Buffer.leBytes 4 n)
      ((offsets.map (Buffer.leBytes 4)).flatten ++ (tags.flatten ++ rest)) 0 offsets.length
    rw [Buffer.length_leBytes, Buffer.words_leBytes hoffsets] at happend
    rw [header, List.append_assoc, List.append_assoc]
    exact happend
  · have hlen : (Buffer.leBytes 4 n ++ (offsets.map (Buffer.leBytes 4)).flatten).length =
        4 + 4 * offsets.length := by
      rw [List.length_append, Buffer.length_leBytes, length_flatten_of_four hwords, List.length_map]
    have happend := Buffer.words_append
      (Buffer.leBytes 4 n ++ (offsets.map (Buffer.leBytes 4)).flatten) (tags.flatten ++ rest) 0
      tags.length
    rw [hlen, Buffer.words_flatten htags] at happend
    rw [header, List.append_assoc]
    exact happend

/-- The map from distinct tags, read as numbers, to their values. -/
theorem entries_setAll_tags {pairs : List (Buffer × Buffer)}
    (htags : ∀ pair ∈ pairs, pair.1.length = 4) (hfour : ∀ tag ∈ pairs.map Prod.fst, tag.length = 4)
    (hdistinct : (pairs.map Prod.fst).Nodup) :
    (InsertionMap.empty.setAll (((pairs.map Prod.fst).map Buffer.leValue).zip
      (pairs.map Prod.snd))).entries = pairs.map fun pair => (tagKey pair.1, pair.2) := by
  have hnodup : ((pairs.map Prod.fst).map Buffer.leValue).Nodup :=
    hdistinct.map_on fun a ha b hb hab =>
      Buffer.leValue_injOn ((hfour a ha).trans (hfour b hb).symm) hab
  have hfst : (((pairs.map Prod.fst).map Buffer.leValue).zip (pairs.map Prod.snd)).map Prod.fst =
      (pairs.map Prod.fst).map Buffer.leValue :=
    List.map_fst_zip (by simp)
  rw [InsertionMap.entries_setAll (by rw [hfst]; exact hnodup), InsertionMap.entries_empty,
    List.nil_append, List.map_map, List.zip_map']
  refine List.map_congr_left fun pair hpair => ?_
  rw [tagKey, List.take_of_length_le (htags pair hpair).le]
  rfl

/-- Parsing what was built, a message of known length. -/
theorem parseMessage_of_buildMessage {pairs : List (Buffer × Buffer)} (hn : pairs.length < 2 ^ 32)
    (htags : ∀ pair ∈ pairs, pair.1.length = 4) (hdistinct : (pairs.map Prod.fst).Nodup)
    (hvalues : (pairs.map Prod.snd).flatten.length < 2 ^ 32) :
    ∃ message map, buildMessage pairs = .ok message ∧ parseMessage message = .ok (some map) ∧
      map.entries = (pairs.map fun pair => (tagKey pair.1, pair.2)) ∧
      message.word 0 = pairs.length ∧
      message.length = headerLen pairs.length + (pairs.map Prod.snd).flatten.length := by
  have hfour : ∀ tag ∈ pairs.map Prod.fst, tag.length = 4 := by
    intro tag htag
    obtain ⟨pair, hpair, rfl⟩ := List.mem_map.1 htag
    exact htags pair hpair
  have hsmall : ∀ o ∈ (Slices.offsets 0 (pairs.map Prod.snd)).tail, o < 2 ^ 32 := by
    intro o ho
    have hle := Slices.le_of_mem_offsets (List.mem_of_mem_tail ho)
    omega
  have hbuild := buildMessage_eq hn hsmall
  cases pairs with
  | nil => exact ⟨_, InsertionMap.empty, hbuild, rfl, rfl, rfl, rfl⟩
  | cons pair pairs =>
    have hcount : (Slices.offsets 0 ((pair :: pairs).map Prod.snd)).tail.length =
        (pair :: pairs).length - 1 := by simp
    have hlen := length_header hcount hfour (List.length_map _)
    obtain ⟨hword, hoffsets, hkeys⟩ :=
      words_message hn hsmall hfour ((pair :: pairs).map Prod.snd).flatten
    rw [hcount] at hoffsets hkeys
    rw [List.length_map] at hkeys
    have hcut := Slices.cut_offsets (header (pair :: pairs).length
      (Slices.offsets 0 ((pair :: pairs).map Prod.snd)).tail ((pair :: pairs).map Prod.fst))
      ((pair :: pairs).map Prod.snd)
    have hstarts : 0 :: (Slices.offsets 0 ((pair :: pairs).map Prod.snd)).tail =
        Slices.offsets 0 ((pair :: pairs).map Prod.snd) := rfl
    have htotal := congrArg (· + ((pair :: pairs).map Prod.snd).flatten.length) hlen
    rw [← List.length_append] at htotal
    refine ⟨_, InsertionMap.empty.setAll ((((pair :: pairs).map Prod.fst).map Buffer.leValue).zip
      ((pair :: pairs).map Prod.snd)), hbuild, ?_, ?_, hword, htotal⟩
    · have hpos : 0 < (pair :: pairs).length := Nat.succ_pos _
      rw [parseMessage_eq_cut (by omega) hpos hword, hoffsets, hkeys, hstarts,
        ← Slices.offsets_add, Nat.add_zero, ← hlen, hcut, Option.map_some]
    · exact entries_setAll_tags htags hfour hdistinct

/-- A message with tags that is accepted has its whole header. -/
theorem headerLen_le_of_parseMessage {buf : Buffer} {map : InsertionMap ℕ Buffer}
    (h : parseMessage buf = .ok (some map)) (hn : buf.word 0 ≠ 0) :
    headerLen (buf.word 0) ≤ buf.length := by
  rw [parseMessage_eq, if_neg hn, Except.ok.injEq] at h
  split at h
  · cases h
  · split at h
    · cases h
    · omega

theorem word_lt (buf : Buffer) (start : ℕ) : buf.word start < 2 ^ 32 := by
  refine (Buffer.leValue_lt _).trans_le ?_
  calc 256 ^ ((buf.drop start).take 4).length ≤ 256 ^ 4 :=
        Nat.pow_le_pow_right (by omega) (List.length_take_le _ _)
    _ = 2 ^ 32 := by decide

/-- What a message with distinct tags was cut into. -/
theorem exists_values_of_parseMessage {buf : Buffer} {map : InsertionMap ℕ Buffer}
    (h : parseMessage buf = .ok (some map)) (hn : 1 ≤ buf.word 0)
    (hdistinct : map.size = buf.word 0) : ∃ values : List Buffer,
      values.length = buf.word 0 ∧
      map.entries = (buf.words (4 + 4 * (buf.word 0 - 1)) (buf.word 0)).zip values ∧
      Slices.offsets 0 values = 0 :: buf.words 4 (buf.word 0 - 1) ∧
      values.flatten = buf.drop (headerLen (buf.word 0)) := by
  have hlen := headerLen_le_of_parseMessage h (by omega)
  rw [parseMessage_eq_cut hlen hn rfl, Except.ok.injEq] at h
  obtain ⟨values, hcut, rfl⟩ := Option.map_eq_some_iff.1 h
  obtain ⟨hoffsets, hflatten⟩ := Slices.cut_sound hcut
  have hstarts : Slices.offsets 0 values = 0 :: buf.words 4 (buf.word 0 - 1) :=
    List.map_injective_iff.2 (add_right_injective (headerLen (buf.word 0)))
      ((Slices.offsets_add (headerLen (buf.word 0)) 0 values).symm.trans hoffsets)
  have hcount : values.length = buf.word 0 := by
    have hlength := congrArg List.length hstarts
    rw [Slices.length_offsets, List.length_cons, Buffer.length_words] at hlength
    omega
  have hzip : ((buf.words (4 + 4 * (buf.word 0 - 1)) (buf.word 0)).zip values).length =
      buf.word 0 := by
    rw [List.length_zip, Buffer.length_words, hcount, Nat.min_self]
  exact ⟨values, hcount, InsertionMap.entries_setAll_empty (hdistinct.trans hzip.symm), hstarts,
    hflatten⟩

/-- Building what was parsed. -/
theorem buildMessage_of_parseMessage {buf : Buffer} {map : InsertionMap ℕ Buffer}
    (h : parseMessage buf = .ok (some map)) (hn : 1 ≤ buf.word 0)
    (hdistinct : map.size = buf.word 0) :
    buildMessage (map.entries.map fun e => (Buffer.leBytes 4 e.1, e.2)) = .ok buf := by
  have hlen := headerLen_le_of_parseMessage h (by omega)
  obtain ⟨values, hcount, hentries, hstarts, hflatten⟩ :=
    exists_values_of_parseMessage h hn hdistinct
  have hlength : (buf.words (4 + 4 * (buf.word 0 - 1)) (buf.word 0)).length = values.length := by
    rw [Buffer.length_words, hcount]
  have hpairs : (map.entries.map fun e => (Buffer.leBytes 4 e.1, e.2)).length = buf.word 0 := by
    rw [List.length_map, ← hdistinct]
    rfl
  have htags : (map.entries.map fun e => (Buffer.leBytes 4 e.1, e.2)).map Prod.fst =
      (buf.words (4 + 4 * (buf.word 0 - 1)) (buf.word 0)).map (Buffer.leBytes 4) := by
    rw [List.map_map, hentries]
    calc (List.zip _ values).map (Prod.fst ∘ fun e => (Buffer.leBytes 4 e.1, e.2))
        = ((List.zip _ values).map Prod.fst).map (Buffer.leBytes 4) := by rw [List.map_map]; rfl
      _ = _ := by rw [List.map_fst_zip hlength.le]
  have hvalues : (map.entries.map fun e => (Buffer.leBytes 4 e.1, e.2)).map Prod.snd = values := by
    rw [List.map_map, hentries]
    exact List.map_snd_zip hlength.ge
  have hsmall : ∀ o ∈ (Slices.offsets 0 ((map.entries.map fun e =>
      (Buffer.leBytes 4 e.1, e.2)).map Prod.snd)).tail, o < 2 ^ 32 := by
    intro o ho
    rw [hvalues, hstarts] at ho
    obtain ⟨i, -, rfl⟩ := List.mem_map.1 ho
    exact word_lt buf _
  rw [buildMessage_eq (hpairs ▸ word_lt buf 0) hsmall, hpairs, htags, hvalues, hstarts, hflatten,
    List.tail_cons]
  rw [headerLen] at hlen ⊢
  rw [header, Buffer.leBytes_word (by omega), Buffer.flatten_leBytes_words (by omega),
    Buffer.flatten_leBytes_words (by omega), List.drop_zero, ← List.take_add, ← List.take_add,
    List.take_append_drop]

/-- **Building and parsing are inverse.** Parsing the message that is built from pairs with distinct
tags of four bytes and fewer than 2³² bytes of values returns these pairs; building the entries of
a message with distinct tags, in the order of the tags, returns the message. -/
theorem build_parse_inverse :
    (∀ pairs : Array32 (Buffer × Buffer), (∀ pair ∈ pairs.val, pair.1.length = 4) →
      (pairs.val.map Prod.fst).Nodup → (pairs.val.map Prod.snd).flatten.length < 2 ^ 32 →
      ∃ message map, buildMessage pairs.val = .ok message ∧
        parseMessage message = .ok (some map) ∧
        map.entries = pairs.val.map fun pair => (tagKey pair.1, pair.2)) ∧
    ∀ (buf : Buffer) (n : ℕ) (map : InsertionMap ℕ Buffer), buf.readUInt32LE 0 = .ok n → 1 ≤ n →
      parseMessage buf = .ok (some map) → map.size = n →
      buildMessage (map.entries.map fun e => (Buffer.leBytes 4 e.1, e.2)) = .ok buf := by
  constructor
  · intro pairs htags hdistinct hvalues
    obtain ⟨message, map, hbuild, hparse, hentries, -⟩ :=
      parseMessage_of_buildMessage pairs.property htags hdistinct hvalues
    exact ⟨message, map, hbuild, hparse, hentries⟩
  intro buf n map hread hn h hdistinct
  have hword : buf.word 0 = n := by
    unfold Buffer.readUInt32LE Buffer.readUIntLE at hread
    split at hread
    · exact Except.ok.inj hread
    · cases hread
  exact buildMessage_of_parseMessage h (hword ▸ hn) (hword ▸ hdistinct)

/-- Three pairs, one with an empty value at the end. -/
def samplePairs : Array32 (Buffer × Buffer) :=
  ⟨[(tagU32 "AAAA", [0x68, 0x69]), (tagU32 "MMMM", [7, 7, 7]), (tagU32 "ZZZZ", [])], by decide⟩

/-- A message with three tags and so two offsets, with an empty value in the middle. -/
def sampleMessage : Buffer :=
  [3, 0, 0, 0, 2, 0, 0, 0, 2, 0, 0, 0, 0x53, 0x49, 0x47, 0, 0x4e, 0x4f, 0x4e, 0x43,
    0x54, 0x59, 0x50, 0x45, 5, 6, 7, 8, 9]

/-- Its values. -/
def sampleMap : InsertionMap ℕ Buffer :=
  ((InsertionMap.empty.set 0x474953 [5, 6]).set 0x434e4f4e []).set 0x45505954 [7, 8, 9]

theorem build_parse_inverse_sample :
    (∃ message map, buildMessage samplePairs.val = .ok message ∧
      parseMessage message = .ok (some map) ∧
      map.entries = samplePairs.val.map fun pair => (tagKey pair.1, pair.2)) ∧
    buildMessage [([0x53, 0x49, 0x47, 0], [5, 6]), ([0x4e, 0x4f, 0x4e, 0x43], []),
      ([0x54, 0x59, 0x50, 0x45], [7, 8, 9])] = .ok sampleMessage :=
  ⟨build_parse_inverse.1 samplePairs (by decide) (by decide) (by decide),
    build_parse_inverse.2 sampleMessage 3 sampleMap rfl (by decide) rfl rfl⟩

end RoughtimeSource

end OpenTTT
