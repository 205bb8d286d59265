import OpenTTT.Foundations.InsertionMap
import OpenTTT.Runtime.Buffer

/-!
# Roughtime messages

The wire format of `roughtime_source.ts`: a message is a number of tags, the offsets of all values
but the first, the tags, and the values. `parseMessage` reads one into a map from tags to values;
`null` is `none`. A tag is a number of 32 bits, and where a message has a tag twice, the later
value replaces the earlier.

`parseMessage_eq` says that the parser never throws, and `Holds` is what the users of a message rely
on: the value that it has under a tag.
-/

namespace OpenTTT

namespace Buffer

/-- The number in the four bytes from an offset on. -/
def word (buf : Buffer) (offset : ℕ) : ℕ := leValue ((buf.drop offset).take 4)

/-- A read within the bounds of a buffer succeeds. -/
theorem readUInt32LE_of_le {buf : Buffer} {offset : ℕ} (h : offset + 4 ≤ buf.length) :
    buf.readUInt32LE offset = .ok (buf.word offset) :=
  if_pos h

end Buffer

namespace RoughtimeSource

/-- The four bytes of a tag, filled up with zeros. -/
def tagU32 (ascii : String) : Buffer := (Buffer.ofAscii ascii ++ List.replicate 4 0).take 4

/-- The number of a tag of four bytes. -/
def tagKey (tag : Buffer) : ℕ := Buffer.leValue (tag.take 4)

/-- The offsets that a message stores, in bytes: for every value but the first, from the value
number `i` on. -/
def buildOffsets (i offset : ℕ) : List (Buffer × Buffer) → Except Thrown (List Buffer)
  | [] => .ok []
  | pair :: pairs => do
    let off ← if i > 0 then Buffer.writeUInt32LE offset else .ok []
    let parts ← buildOffsets (i + 1) (offset + pair.2.length) pairs
    .ok (off :: parts)

/-- The message with the given tags and values. -/
def buildMessage (pairs : List (Buffer × Buffer)) : Except Thrown Buffer := do
  let numTags ← Buffer.writeUInt32LE pairs.length
  let offsets ← buildOffsets 0 0 pairs
  .ok (numTags ++ offsets.flatten ++ (pairs.map Prod.fst).flatten ++
    (pairs.map Prod.snd).flatten)

/-- The values of a message, from tags and offsets: every value ends where the next one starts,
the last one with the buffer. -/
def readValues (buf : Buffer) (valuesStart : ℕ) (map : InsertionMap ℕ Buffer) :
    List ℕ → List ℕ → Option (InsertionMap ℕ Buffer)
  | tag :: tags, offset :: offsets =>
    let vstart := valuesStart + offset
    let vend := match offsets with
      | next :: _ => valuesStart + next
      | [] => buf.length
    if vend > buf.length ∨ vstart > vend then none
    else readValues buf valuesStart (map.set tag (buf.subarray vstart vend)) tags offsets
  | _, _ => some map

/-- The length of the header of a message with `n` tags. -/
def headerLen (n : ℕ) : ℕ := 4 + 4 * (n - 1) + 4 * n

/-- Read the message in a buffer. -/
def parseMessage (buf : Buffer) : Except Thrown (Option (InsertionMap ℕ Buffer)) :=
  if buf.length < 4 then .ok none
  else do
    let n ← buf.readUInt32LE 0
    if n = 0 then .ok (some .empty)
    else if buf.length < headerLen n then .ok none
    else do
      let offsets ← (List.range (n - 1)).mapM fun i => buf.readUInt32LE (4 + 4 * i)
      let tagsStart := 4 + 4 * (n - 1)
      let tags ← (List.range n).mapM fun i => buf.readUInt32LE (tagsStart + 4 * i)
      .ok (readValues buf (headerLen n) .empty tags (0 :: offsets))

/-- `map.get(tagKey(tagU32(tag)))`. -/
def field (map : InsertionMap ℕ Buffer) (tag : String) : Option Buffer :=
  map.get? (tagKey (tagU32 tag))

/-! ## The reads of the parser -/

/-- A loop of reads that all succeed. -/
theorem mapM_ok {α : Type} {read : ℕ → Except Thrown α} {value : ℕ → α} {l : List ℕ}
    (h : ∀ i ∈ l, read i = .ok (value i)) : l.mapM read = .ok (l.map value) := by
  induction l with
  | nil => rfl
  | cons i l ih =>
    rw [List.mapM_cons, h i List.mem_cons_self, ih fun j hj => h j (List.mem_cons_of_mem i hj)]
    rfl

/-- A loop of reads of words that lie in the buffer. -/
theorem mapM_readUInt32LE {buf : Buffer} {start n : ℕ} (h : start + 4 * n ≤ buf.length) :
    ((List.range n).mapM fun i => buf.readUInt32LE (start + 4 * i)) =
      .ok ((List.range n).map fun i => buf.word (start + 4 * i)) := by
  apply mapM_ok
  intro i hi
  have hlt := List.mem_range.1 hi
  exact Buffer.readUInt32LE_of_le (by omega)

/-- The parser rejects a message or reads it; it throws nothing, since none of its reads is past
the end of the buffer. -/
theorem parseMessage_eq (buf : Buffer) : parseMessage buf = .ok (
    if buf.length < 4 then none
    else if buf.word 0 = 0 then some .empty
    else if buf.length < headerLen (buf.word 0) then none
    else readValues buf (headerLen (buf.word 0)) .empty
      ((List.range (buf.word 0)).map fun i => buf.word (4 + 4 * (buf.word 0 - 1) + 4 * i))
      (0 :: (List.range (buf.word 0 - 1)).map fun i => buf.word (4 + 4 * i))) := by
  unfold parseMessage
  by_cases hlen : buf.length < 4
  · rw [if_pos hlen, if_pos hlen]
  rw [if_neg hlen, if_neg hlen, Buffer.readUInt32LE_of_le (by omega), ok_bind]
  generalize buf.word 0 = n
  by_cases hn : n = 0
  · rw [if_pos hn, if_pos hn]
  rw [if_neg hn, if_neg hn]
  by_cases hheader : buf.length < headerLen n
  · rw [if_pos hheader, if_pos hheader]
  rw [if_neg hheader, if_neg hheader]
  rw [headerLen] at hheader
  rw [mapM_readUInt32LE (by omega), ok_bind]
  dsimp only
  rw [mapM_readUInt32LE (by omega), ok_bind]

/-! ## The values of a message -/

/-- The value that a message has under a tag. -/
def value? (message : Buffer) (tag : String) : Option Buffer :=
  match parseMessage message with
  | .ok (some map) => field map tag
  | _ => none

/-- A message has a value under a tag. -/
def Holds (message : Buffer) (tag : String) (value : Buffer) : Prop :=
  value? message tag = some value

instance (message : Buffer) (tag : String) (value : Buffer) : Decidable (Holds message tag value) :=
  inferInstanceAs (Decidable (_ = _))

/-- A message has a number of 32 bits under a tag. -/
def HoldsUInt32 (message : Buffer) (tag : String) (number : ℕ) : Prop :=
  ∃ value, Holds message tag value ∧ value.readUInt32LE 0 = .ok number

/-- A message has a number of 64 bits under a tag. -/
def HoldsUInt64 (message : Buffer) (tag : String) (number : ℕ) : Prop :=
  ∃ value, Holds message tag value ∧ value.readBigUInt64LE 0 = .ok number

theorem holds_of_parseMessage {message : Buffer} {map : InsertionMap ℕ Buffer} {tag : String}
    {value : Buffer} (hmap : parseMessage message = .ok (some map))
    (hvalue : field map tag = some value) : Holds message tag value := by
  simp [Holds, value?, hmap, hvalue]

/-- A message has at most one value under a tag. -/
theorem Holds.unique {message : Buffer} {tag : String} {value value' : Buffer}
    (h : Holds message tag value) (h' : Holds message tag value') : value = value' :=
  Option.some_injective _ (h.symm.trans h')

end RoughtimeSource

end OpenTTT
