import OpenTTT.Foundations.Panicking
import OpenTTT.Roughtime.Wire

/-!
# The parser of the issuer does not panic

The functions of `wire.rs` once more, statement by statement, with every index, every slice and
every operation on `usize` checked. The offsets and lengths in a packet are arbitrary numbers of
32 bits and the number of tags is at most 64 once it is used, so no sum reaches 2^64; the reads of
the header are within the length that has been checked, and a value is cut out only after its two
ends have been compared with the length.

`parseRoughtimeResponseChecked_eq` is the result: on every packet the checked parser returns, and it
returns what `parseRoughtimeResponse` does.
-/

namespace OpenTTT.Roughtime

open Panicking

/-! ## The checked parser -/

/-- `from_le_bytes(data[start..start + width].try_into().ok()?)`. -/
def readLeChecked (width : ℕ) (data : Buffer) (start : ℕ) : Attempt ℕ := do
  let stop ← usizeAdd start width
  let bytes ← slice data start stop
  if bytes.length = width then pure (Buffer.leValue bytes) else failure

/-- The loop over the offsets, which fills a vector of zeros from the second place on. -/
def readOffsetsChecked (data : Buffer) (num : ℕ) : Attempt (List ℕ) :=
  (List.range' 1 (num - 1)).foldlM (fun offsets i => do
    let o ← usizeAdd 4 (← usizeMul (← usizeSub i 1) 4)
    assign offsets i (← readLeChecked 4 data o)) (List.replicate num 0)

/-- The loop over the tags. -/
def readTagsChecked (data : Buffer) (tagsBase num : ℕ) : Attempt (List ℕ) :=
  (List.range' 0 num).foldlM (fun tagList i => do
    let o ← usizeAdd tagsBase (← usizeMul i 4)
    pure (tagList ++ [← readLeChecked 4 data o])) []

/-- Where the value number `i` ends. -/
def valueEndChecked (data : Buffer) (valuesStart num : ℕ) (offsets : List ℕ) (i : ℕ) :
    Attempt ℕ := do
  let next ← usizeAdd i 1
  if next < num then do
    let offset ← index offsets next
    usizeAdd valuesStart offset
  else pure data.length

/-- The body of the loop over the values. -/
def insertValueChecked (data : Buffer) (valuesStart num : ℕ) (offsets tagList : List ℕ)
    (map : InsertionMap ℕ Buffer) (i : ℕ) : Attempt (InsertionMap ℕ Buffer) := do
  let start ← usizeAdd valuesStart (← index offsets i)
  let stop ← valueEndChecked data valuesStart num offsets i
  if start ≤ data.length ∧ stop ≤ data.length ∧ start ≤ stop then do
    let tag ← index tagList i
    let value ← slice data start stop
    pure (map.set tag value)
  else pure map

/-- `parse_msg`. -/
def parseMsgChecked (data : Buffer) : Attempt (InsertionMap ℕ Buffer) :=
  if data.length < 4 then failure
  else do
    let num ← readLeChecked 4 data 0
    if num = 0 ∨ num > 64 then failure
    else do
      let headerSize ← usizeAdd (← usizeAdd 4 (← usizeMul (← usizeSub num 1) 4)) (← usizeMul num 4)
      if data.length < headerSize then failure
      else do
        let offsets ← readOffsetsChecked data num
        let tagsBase ← usizeAdd 4 (← usizeMul (← usizeSub num 1) 4)
        let tagList ← readTagsChecked data tagsBase num
        (List.range' 0 num).foldlM (insertValueChecked data headerSize num offsets tagList) .empty

/-- `c.try_into().unwrap()`. -/
def unwrap32 (chunk : Buffer) : Attempt (Vector UInt8 32) :=
  if h : chunk.length = 32 then pure (toVector chunk h) else panicked

/-- The nodes of a path, from the chunks of `chunks_exact(32)`. -/
def readPathChecked (bytes : Buffer) : Attempt (List (Vector UInt8 32)) :=
  (List.range (bytes.length / 32)).mapM fun i =>
    unwrap32 (bytes.subarray (32 * i) (32 * i + 32))

/-- The fields of the delegation; each of the four levels may be missing. -/
def readDelegationChecked (outer : InsertionMap ℕ Buffer) :
    Attempt (Vector UInt8 32 × UInt64 × UInt64) :=
  let defaults := (Vector.replicate 32 0, 0, UInt64.ofNat (2 ^ 64 - 1))
  match outer.get? tags.CERT with
  | none => pure defaults
  | some certData => do
    match ← caught (parseMsgChecked certData) with
    | none => pure defaults
    | some cert =>
      match cert.get? tags.DELE with
      | none => pure defaults
      | some deleData => do
        match ← caught (parseMsgChecked deleData) with
        | none => pure defaults
        | some dele =>
          pure ((getFixed 32 dele tags.PUBK).getD (Vector.replicate 32 0),
            (getU64Le dele tags.MINT).getD 0,
            (getU64Le dele tags.MAXT).getD (UInt64.ofNat (2 ^ 64 - 1)))

/-- `x?`. -/
def orReturn {α : Type} (x : Option α) : Attempt α := OptionT.mk (some x)

/-- The part of `parse_roughtime_response` behind the outer message. -/
def readMessageChecked (outer : InsertionMap ℕ Buffer) : Attempt RoughtimeResponse := do
  let sig ← orReturn (getFixed 64 outer tags.SIG)
  let indx := (getU32Le outer tags.INDX).getD 0
  let path ← readPathChecked ((outer.get? tags.PATH).getD [])
  let srepData ← orReturn (outer.get? tags.SREP)
  let srep ← parseMsgChecked srepData
  let midp ← orReturn (getU64Le srep tags.MIDP)
  let radi ← orReturn (getU32Le srep tags.RADI)
  let root ← orReturn (getFixed 32 srep tags.ROOT)
  let (pubk, mint, maxt) ← readDelegationChecked outer
  pure { midp, radi, root, sig, pubk, mint, maxt, indx, path }

/-- `parse_roughtime_response`. -/
def parseRoughtimeResponseChecked (packet : Buffer) : Attempt RoughtimeResponse :=
  if packet.length < 12 then failure
  else do
    let magic ← readLeChecked 8 packet 0
    if magic ≠ ROUGHTIME_MAGIC then failure
    else do
      let msgLen ← readLeChecked 4 packet 8
      let total ← usizeAdd 12 msgLen
      if packet.length < total then failure
      else do
        let stop ← usizeAdd 12 msgLen
        let outer ← parseMsgChecked (← slice packet 12 stop)
        readMessageChecked outer

/-! ## The reads of the header -/

theorem readLeChecked_eq {width : ℕ} {data : Buffer} {start : ℕ} (h : start + width ≤ data.length)
    (hsmall : start + width < 2 ^ 64) :
    readLeChecked width data start = pure (Buffer.leValue ((data.drop start).take width)) := by
  have hbytes : (data.take (start + width)).drop start = (data.drop start).take width := by
    rw [List.drop_take, Nat.add_sub_cancel_left]
  have hlen : ((data.drop start).take width).length = width := by
    rw [List.length_take, List.length_drop]
    omega
  rw [readLeChecked, usizeAdd_eq hsmall, pure_bind, slice_eq (by omega) h, pure_bind, hbytes,
    if_pos hlen]

/-- The offsets, as far as the loop has filled them in. -/
def filledOffsets (data : Buffer) (num i : ℕ) : List ℕ :=
  0 :: (List.range (i - 1)).map (fun k => data.word (4 + k * 4)) ++ List.replicate (num - i) 0

/-- One more offset. -/
theorem set_filledOffsets (data : Buffer) {num i : ℕ} (hi : 1 ≤ i) (hlt : i < num) :
    (filledOffsets data num i).set i (data.word (4 + (i - 1) * 4)) =
      filledOffsets data num (i + 1) := by
  obtain ⟨k, rfl⟩ := Nat.exists_eq_add_of_le' hi
  obtain ⟨rest, hrest⟩ := Nat.exists_eq_add_of_lt hlt
  have hleft : num - (k + 1) = rest + 1 := by omega
  have hright : num - (k + 1 + 1) = rest := by omega
  have hlen : ((List.range k).map fun k => data.word (4 + k * 4)).length = k := by simp
  rw [filledOffsets, filledOffsets, hleft, hright, Nat.add_sub_cancel, Nat.add_sub_cancel,
    List.replicate_succ, List.range_succ, List.map_append, List.cons_append, List.cons_append,
    List.set_cons_succ, List.set_append_right _ _ hlen.le, hlen, Nat.sub_self]
  simp

theorem readOffsetsChecked_eq {data : Buffer} {num : ℕ} (hpos : num ≠ 0) (hfew : num ≤ 64)
    (hlen : 4 + (num - 1) * 4 ≤ data.length) :
    readOffsetsChecked data num =
      pure (0 :: (List.range (num - 1)).map fun i => data.word (4 + i * 4)) := by
  have hstart : List.replicate num 0 = filledOffsets data num 1 := by
    obtain ⟨n, rfl⟩ := Nat.exists_eq_succ_of_ne_zero hpos
    rfl
  have hstop : filledOffsets data num (1 + (num - 1)) =
      0 :: (List.range (num - 1)).map fun i => data.word (4 + i * 4) := by
    rw [filledOffsets, Nat.add_sub_cancel_left, show num - (1 + (num - 1)) = 0 by omega]
    exact List.append_nil _
  rw [readOffsetsChecked, hstart, ← hstop]
  apply foldlM_range' (filledOffsets data num)
  intro i hi hlt
  have hin : i < (filledOffsets data num i).length := by
    simp [filledOffsets]
    omega
  rw [usizeSub_eq hi, pure_bind, usizeMul_eq (by omega), pure_bind, usizeAdd_eq (by omega),
    pure_bind, readLeChecked_eq (by omega) (by omega), pure_bind, assign_eq hin]
  exact congrArg pure (set_filledOffsets data hi (by omega))

/-- The tags, as far as the loop has read them. -/
def filledTags (data : Buffer) (tagsBase i : ℕ) : List ℕ :=
  (List.range i).map fun k => data.word (tagsBase + k * 4)

theorem readTagsChecked_eq {data : Buffer} {tagsBase num : ℕ} (hfew : num ≤ 64)
    (hbase : tagsBase ≤ 256) (hlen : tagsBase + num * 4 ≤ data.length) :
    readTagsChecked data tagsBase num =
      pure ((List.range num).map fun i => data.word (tagsBase + i * 4)) := by
  have hstop : (List.range num).map (fun i => data.word (tagsBase + i * 4)) =
      filledTags data tagsBase (0 + num) := by
    rw [Nat.zero_add]
    rfl
  rw [readTagsChecked, hstop]
  change (List.range' 0 num).foldlM _ (filledTags data tagsBase 0) = _
  apply foldlM_range' (filledTags data tagsBase)
  intro i _ hlt
  rw [usizeMul_eq (by omega), pure_bind, usizeAdd_eq (by omega), pure_bind,
    readLeChecked_eq (by omega) (by omega), pure_bind, filledTags, filledTags, List.range_succ,
    List.map_append]
  rfl

/-! ## The values -/

theorem valueEndChecked_eq {data : Buffer} {valuesStart num : ℕ} {offsets : List ℕ} {i : ℕ}
    (hfew : num ≤ 64) (hstart : valuesStart < 2 ^ 32) (hoffsets : ∀ o ∈ offsets, o < 2 ^ 32)
    (hlen : offsets.length = num) (hi : i < num) :
    valueEndChecked data valuesStart num offsets i =
      pure (((offsets.drop (i + 1)).map (valuesStart + ·)).head?.getD data.length) := by
  rw [valueEndChecked, usizeAdd_eq (by omega), pure_bind, List.head?_map, List.head?_drop]
  by_cases hnext : i + 1 < num
  · have hget := List.getElem?_eq_getElem (hlen ▸ hnext)
    have hle := hoffsets _ (List.mem_of_getElem? hget)
    rw [if_pos hnext, index_eq hget, pure_bind, usizeAdd_eq (by omega), hget]
    rfl
  · rw [if_neg hnext, List.getElem?_eq_none (by omega)]
    rfl

/-- One value, which is inserted or left out. -/
theorem insertValueChecked_eq {data : Buffer} {valuesStart num : ℕ} {offsets tagList : List ℕ}
    (map : InsertionMap ℕ Buffer) {i : ℕ} {tag offset : ℕ} (hfew : num ≤ 64)
    (hstart : valuesStart < 2 ^ 32) (hoffsets : ∀ o ∈ offsets, o < 2 ^ 32)
    (hlen : offsets.length = num) (htag : tagList[i]? = some tag)
    (hoffset : offsets[i]? = some offset) :
    insertValueChecked data valuesStart num offsets tagList map i =
      pure (let start := valuesStart + offset
        let stop := ((offsets.drop (i + 1)).map (valuesStart + ·)).head?.getD data.length
        if start ≤ data.length ∧ stop ≤ data.length ∧ start ≤ stop then
          map.set tag (data.subarray start stop)
        else map) := by
  have hsmall := hoffsets offset (List.mem_of_getElem? hoffset)
  rw [insertValueChecked, index_eq hoffset, pure_bind, usizeAdd_eq (by omega), pure_bind,
    valueEndChecked_eq hfew hstart hoffsets hlen (hlen ▸ (List.getElem?_eq_some_iff.1 hoffset).1),
    pure_bind]
  dsimp only
  split
  · rename_i hin
    rw [index_eq htag, pure_bind, slice_eq hin.2.2 hin.2.1, pure_bind]
    rfl
  · rfl

/-- The loop from the value number `i` on. -/
theorem foldlM_insertValueChecked {data : Buffer} {valuesStart num : ℕ} {offsets tagList : List ℕ}
    (hfew : num ≤ 64) (hstart : valuesStart < 2 ^ 32) (hoffsets : ∀ o ∈ offsets, o < 2 ^ 32)
    (hlen : offsets.length = num) (htags : tagList.length = num) (n i : ℕ) (hn : i + n = num)
    (map : InsertionMap ℕ Buffer) :
    (List.range' i n).foldlM (insertValueChecked data valuesStart num offsets tagList) map =
      pure (insertValues data valuesStart map (tagList.drop i) (offsets.drop i)) := by
  induction n generalizing i map with
  | zero =>
    rw [List.drop_of_length_le (by omega), List.range'_zero, List.foldlM_nil]
    rfl
  | succ n ih =>
    have hi : i < num := by omega
    have hitag : i < tagList.length := by omega
    have hioffset : i < offsets.length := by omega
    rw [List.range'_succ, List.foldlM_cons, insertValueChecked_eq map hfew hstart hoffsets hlen
      (List.getElem?_eq_getElem hitag) (List.getElem?_eq_getElem hioffset), pure_bind,
      ih (i + 1) (by omega), List.drop_eq_getElem_cons hitag, List.drop_eq_getElem_cons hioffset,
      insertValues_cons]

/-- **`parse_msg` does not panic.** -/
theorem parseMsgChecked_eq (data : Buffer) : (parseMsgChecked data).run = some (parseMsg data) := by
  unfold parseMsgChecked parseMsg
  by_cases hfour : data.length < 4
  · rw [if_pos hfour, if_pos hfour]
    rfl
  rw [if_neg hfour, if_neg hfour, readLeChecked_eq (by omega) (by omega), pure_bind,
    show Buffer.leValue ((data.drop 0).take 4) = data.word 0 from rfl]
  dsimp only
  generalize data.word 0 = num
  by_cases hnum : num = 0 ∨ num > 64
  · rw [if_pos hnum, if_pos hnum]
    rfl
  rw [if_neg hnum, if_neg hnum]
  rw [not_or] at hnum
  rw [usizeSub_eq (by omega), pure_bind, usizeMul_eq (by omega), pure_bind,
    usizeAdd_eq (by omega), pure_bind, usizeMul_eq (by omega), pure_bind,
    usizeAdd_eq (by omega), pure_bind]
  by_cases hheader : data.length < 4 + (num - 1) * 4 + num * 4
  · rw [if_pos hheader, if_pos hheader]
    rfl
  rw [if_neg hheader, if_neg hheader, readOffsetsChecked_eq hnum.1 (by omega) (by omega),
    pure_bind, pure_bind, usizeMul_eq (by omega), pure_bind, usizeAdd_eq (by omega), pure_bind,
    readTagsChecked_eq (by omega) (by omega) (by omega), pure_bind]
  have hoffsets : ∀ o ∈ 0 :: (List.range (num - 1)).map (fun i => data.word (4 + i * 4)),
      o < 2 ^ 32 := by
    intro o ho
    rcases List.mem_cons.1 ho with rfl | ho
    · norm_num
    · obtain ⟨i, -, rfl⟩ := List.mem_map.1 ho
      exact RoughtimeSource.word_lt data _
  rw [foldlM_insertValueChecked (by omega) (by omega) hoffsets (by simp; omega) (by simp) num 0
    (by omega)]
  rfl

/-! ## The response -/

/-- Every chunk has 32 bytes. -/
theorem readPathChecked_eq (bytes : Buffer) :
    readPathChecked bytes = pure (chunksExact32 bytes) := by
  have hchunk : ∀ i ∈ List.range (bytes.length / 32),
      (bytes.subarray (32 * i) (32 * i + 32)).length = 32 := by
    intro i hi
    have hlt := List.mem_range.1 hi
    rw [Buffer.subarray, List.length_drop, List.length_take]
    omega
  rw [readPathChecked, chunksExact32]
  generalize List.range (bytes.length / 32) = l at hchunk ⊢
  induction l with
  | nil => rfl
  | cons i l ih =>
    have hi := hchunk i List.mem_cons_self
    rw [List.mapM_cons, unwrap32, dif_pos hi, pure_bind,
      ih fun j hj => hchunk j (List.mem_cons_of_mem i hj), pure_bind, List.filterMap_cons_some]
    exact dif_pos hi

theorem caught_parseMsgChecked (data : Buffer) :
    caught (parseMsgChecked data) = pure (parseMsg data) :=
  caught_of_run (parseMsgChecked_eq data)

theorem readDelegationChecked_eq (outer : InsertionMap ℕ Buffer) :
    readDelegationChecked outer = pure (readDelegation outer) := by
  unfold readDelegationChecked readDelegation
  cases hcert : outer.get? tags.CERT with
  | none => rfl
  | some certData =>
    dsimp only
    rw [caught_parseMsgChecked, pure_bind]
    cases hcertMsg : parseMsg certData with
    | none => simp [hcertMsg]
    | some cert =>
      cases hdele : cert.get? tags.DELE with
      | none => simp [hcertMsg, hdele]
      | some deleData =>
        simp only [hdele, caught_parseMsgChecked, pure_bind]
        cases hdeleMsg : parseMsg deleData <;> simp [hcertMsg, hdele, hdeleMsg]

theorem run_orReturn {α : Type} (x : Option α) : (orReturn x).run = some x := rfl

theorem readMessageChecked_eq (outer : InsertionMap ℕ Buffer) :
    (readMessageChecked outer).run = some (readMessage outer) := by
  unfold readMessageChecked readMessage
  refine run_bind (run_orReturn _) fun sig => ?_
  dsimp only
  rw [readPathChecked_eq, pure_bind]
  refine run_bind (run_orReturn _) fun srepData => ?_
  refine run_bind (parseMsgChecked_eq srepData) fun srep => ?_
  refine run_bind (run_orReturn _) fun midp => ?_
  refine run_bind (run_orReturn _) fun radi => ?_
  refine run_bind (run_orReturn _) fun root => ?_
  rw [readDelegationChecked_eq, pure_bind]
  rfl

/-- **The parser never panics**: on every packet all indices and slices are in bounds and nothing
overflows, in the outer message and in those nested in it, and what it returns is what
`parseRoughtimeResponse` returns. -/
theorem parseRoughtimeResponseChecked_eq (packet : Buffer) :
    (parseRoughtimeResponseChecked packet).run = some (parseRoughtimeResponse packet) := by
  unfold parseRoughtimeResponseChecked parseRoughtimeResponse
  by_cases hshort : packet.length < 12
  · rw [if_pos hshort, if_pos hshort]
    rfl
  rw [if_neg hshort, if_neg hshort, readLeChecked_eq (by omega) (by omega), pure_bind,
    List.drop_zero]
  by_cases hmagic : Buffer.leValue (packet.take 8) ≠ ROUGHTIME_MAGIC
  · rw [if_pos hmagic, if_pos hmagic]
    rfl
  have hlen := RoughtimeSource.word_lt packet 8
  rw [if_neg hmagic, if_neg hmagic, readLeChecked_eq (by omega) (by omega), pure_bind,
    show Buffer.leValue ((packet.drop 8).take 4) = packet.word 8 from rfl,
    usizeAdd_eq (by omega), pure_bind]
  dsimp only
  by_cases htotal : packet.length < 12 + packet.word 8
  · rw [if_pos htotal, if_pos htotal]
    rfl
  rw [if_neg htotal, if_neg htotal, pure_bind, slice_eq (by omega) (by omega), pure_bind]
  exact run_bind (parseMsgChecked_eq _) readMessageChecked_eq

end OpenTTT.Roughtime
