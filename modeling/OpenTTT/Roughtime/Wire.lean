import OpenTTT.Roughtime.RoundTrip

/-!
# The wire format of the issuer

`wire.rs`: the messages of Roughtime once more, read by the Rust code. Its parser differs from that
of the gateway in three points: a message has from one to 64 tags, a value out of order or out of
bounds is left out where the other parser rejects the message, and nothing is thrown.
`parseMsg_of_parseMessage` says that messages of this size that the other parser accepts are read
in the same way, and `parsers_agree_iff` on which byte strings the two agree.

`parseRoughtimeResponse` takes the fields out of a response. It looks at no signature and not at the
Merkle path, and fills in defaults for what a response has no certificate for.
-/

namespace OpenTTT.Roughtime

def ROUGHTIME_MAGIC : ℕ := 0x4d49544847554f52

namespace tags

def NONC : ℕ := Buffer.leValue (Buffer.ofAscii "NONC")
def VER : ℕ := Buffer.leValue (Buffer.ofAscii "VER\x00")
def SREP : ℕ := Buffer.leValue (Buffer.ofAscii "SREP")
def SIG : ℕ := Buffer.leValue (Buffer.ofAscii "SIG\x00")
def CERT : ℕ := Buffer.leValue (Buffer.ofAscii "CERT")
def INDX : ℕ := Buffer.leValue (Buffer.ofAscii "INDX")
def PATH : ℕ := Buffer.leValue (Buffer.ofAscii "PATH")
def MIDP : ℕ := Buffer.leValue (Buffer.ofAscii "MIDP")
def RADI : ℕ := Buffer.leValue (Buffer.ofAscii "RADI")
def ROOT : ℕ := Buffer.leValue (Buffer.ofAscii "ROOT")
def DELE : ℕ := Buffer.leValue (Buffer.ofAscii "DELE")
def PUBK : ℕ := Buffer.leValue (Buffer.ofAscii "PUBK")
def MINT : ℕ := Buffer.leValue (Buffer.ofAscii "MINT")
def MAXT : ℕ := Buffer.leValue (Buffer.ofAscii "MAXT")

end tags

structure RoughtimeResponse where
  midp : UInt64
  radi : UInt32
  root : Vector UInt8 32
  sig : Vector UInt8 64
  pubk : Vector UInt8 32
  mint : UInt64
  maxt : UInt64
  indx : UInt32
  path : List (Vector UInt8 32)
  deriving DecidableEq

/-! ## The parser -/

/-- The loop over the values: one that is out of order or out of bounds is left out. -/
def insertValues (data : Buffer) (valuesStart : ℕ) (map : InsertionMap ℕ Buffer) :
    List ℕ → List ℕ → InsertionMap ℕ Buffer
  | tag :: tagList, offset :: offsets =>
    let start := valuesStart + offset
    let stop := match offsets with
      | next :: _ => valuesStart + next
      | [] => data.length
    insertValues data valuesStart
      (if start ≤ data.length ∧ stop ≤ data.length ∧ start ≤ stop then
        map.set tag (data.subarray start stop)
      else map)
      tagList offsets
  | _, _ => map

/-- `parse_msg`. The slices of the header are in bounds. -/
def parseMsg (data : Buffer) : Option (InsertionMap ℕ Buffer) :=
  if data.length < 4 then none
  else
    let num := data.word 0
    if num = 0 ∨ num > 64 then none
    else
      let headerSize := 4 + (num - 1) * 4 + num * 4
      if data.length < headerSize then none
      else
        let offsets := 0 :: (List.range (num - 1)).map fun i => data.word (4 + i * 4)
        let tagsBase := 4 + (num - 1) * 4
        let tagList := (List.range num).map fun i => data.word (tagsBase + i * 4)
        some (insertValues data headerSize .empty tagList offsets)

/-- Bytes of a known number. -/
def toVector {n : ℕ} (bytes : Buffer) (h : bytes.length = n) : Vector UInt8 n :=
  ⟨bytes.toArray, h⟩

/-- `get_fixed`. -/
def getFixed (n : ℕ) (map : InsertionMap ℕ Buffer) (tag : ℕ) : Option (Vector UInt8 n) :=
  (map.get? tag).bind fun v => if h : v.length = n then some (toVector v h) else none

def getU32Le (map : InsertionMap ℕ Buffer) (tag : ℕ) : Option UInt32 :=
  (getFixed 4 map tag).map fun b => UInt32.ofNat (Buffer.leValue b.toList)

def getU64Le (map : InsertionMap ℕ Buffer) (tag : ℕ) : Option UInt64 :=
  (getFixed 8 map tag).map fun b => UInt64.ofNat (Buffer.leValue b.toList)

/-- `chunks_exact(32)`: fewer bytes at the end are left out. -/
def chunksExact32 (bytes : Buffer) : List (Vector UInt8 32) :=
  (List.range (bytes.length / 32)).filterMap fun i =>
    let chunk := bytes.subarray (32 * i) (32 * i + 32)
    if h : chunk.length = 32 then some (toVector chunk h) else none

/-- The fields of the delegation, or the defaults if a part of the certificate is missing. -/
def readDelegation (outer : InsertionMap ℕ Buffer) : Vector UInt8 32 × UInt64 × UInt64 :=
  let delegation := do
    let certData ← outer.get? tags.CERT
    let cert ← parseMsg certData
    let deleData ← cert.get? tags.DELE
    parseMsg deleData
  match delegation with
  | some dele =>
    ((getFixed 32 dele tags.PUBK).getD (Vector.replicate 32 0), (getU64Le dele tags.MINT).getD 0,
      (getU64Le dele tags.MAXT).getD (UInt64.ofNat (2 ^ 64 - 1)))
  | none => (Vector.replicate 32 0, 0, UInt64.ofNat (2 ^ 64 - 1))

/-- The fields of the message in a response. -/
def readMessage (outer : InsertionMap ℕ Buffer) : Option RoughtimeResponse := do
  let sig ← getFixed 64 outer tags.SIG
  let indx := (getU32Le outer tags.INDX).getD 0
  let path := chunksExact32 ((outer.get? tags.PATH).getD [])
  let srepData ← outer.get? tags.SREP
  let srep ← parseMsg srepData
  let midp ← getU64Le srep tags.MIDP
  let radi ← getU32Le srep tags.RADI
  let root ← getFixed 32 srep tags.ROOT
  let (pubk, mint, maxt) := readDelegation outer
  some { midp, radi, root, sig, pubk, mint, maxt, indx, path }

/-- `parse_roughtime_response`. -/
def parseRoughtimeResponse (packet : Buffer) : Option RoughtimeResponse :=
  if packet.length < 12 then none
  else if Buffer.leValue (packet.take 8) ≠ ROUGHTIME_MAGIC then none
  else
    let msgLen := packet.word 8
    if packet.length < 12 + msgLen then none
    else (parseMsg (packet.subarray 12 (12 + msgLen))).bind readMessage

/-! ## The request -/

/-- `build_roughtime_request`: version and nonce, filled up with zeros to 1024 bytes. -/
def buildRoughtimeRequest (nonce : Vector UInt8 32) : Buffer :=
  let msg := Buffer.leBytes 4 2 ++ Buffer.leBytes 4 4 ++ Buffer.leBytes 4 tags.VER ++
    Buffer.leBytes 4 tags.NONC ++ Buffer.leBytes 4 1 ++ nonce.toList
  let pkt := Buffer.leBytes 8 ROUGHTIME_MAGIC ++ Buffer.leBytes 4 msg.length ++ msg
  (pkt ++ List.replicate (1024 - pkt.length) 0).take 1024

/-! ## The two parsers -/

theorem insertValues_cons (data : Buffer) (valuesStart : ℕ) (map : InsertionMap ℕ Buffer)
    (tag offset : ℕ) (tagList offsets : List ℕ) :
    insertValues data valuesStart map (tag :: tagList) (offset :: offsets) =
      let start := valuesStart + offset
      let stop := (offsets.map (valuesStart + ·)).head?.getD data.length
      insertValues data valuesStart
        (if start ≤ data.length ∧ stop ≤ data.length ∧ start ≤ stop then
          map.set tag (data.subarray start stop)
        else map)
        tagList offsets := by
  cases offsets <;> rfl

/-- Where the parser of the gateway accepts the values, none is left out. -/
theorem insertValues_of_readValues {data : Buffer} {valuesStart : ℕ}
    {map map' : InsertionMap ℕ Buffer} {tagList offsets : List ℕ}
    (h : RoughtimeSource.readValues data valuesStart map tagList offsets = some map') :
    insertValues data valuesStart map tagList offsets = map' := by
  induction tagList generalizing map offsets with
  | nil => exact Option.some.inj h
  | cons tag tagList ih =>
    cases offsets with
    | nil => exact Option.some.inj h
    | cons offset offsets =>
      rw [RoughtimeSource.readValues_cons] at h
      rw [insertValues_cons]
      dsimp only at h ⊢
      split at h
      · cases h
      · rename_i hin
        rw [if_pos (by omega)]
        exact ih h

/-- **Messages of 1 to 64 tags** that the parser of the gateway accepts are read in the same way. -/
theorem parseMsg_of_parseMessage {data : Buffer} {map : InsertionMap ℕ Buffer}
    (h : RoughtimeSource.parseMessage data = .ok (some map)) (hpos : data.word 0 ≠ 0)
    (hfew : data.word 0 ≤ 64) : parseMsg data = some map := by
  rw [RoughtimeSource.parseMessage_eq, if_neg hpos, Except.ok.injEq] at h
  have hsize : 4 + (data.word 0 - 1) * 4 + data.word 0 * 4 =
      RoughtimeSource.headerLen (data.word 0) := by
    rw [RoughtimeSource.headerLen]
    omega
  unfold parseMsg
  split at h
  · cases h
  · rename_i hfour
    split at h
    · cases h
    · rename_i hheader
      rw [if_neg hfour]
      dsimp only
      rw [if_neg (by omega), hsize, if_neg hheader]
      simp only [Nat.mul_comm 4] at h
      exact congrArg some (insertValues_of_readValues h)

/-! ## Where the parsers differ -/

/-- The values of a message with tags are in order and in bounds. -/
def ValuesInOrder (data : Buffer) : Prop :=
  ((0 :: data.words 4 (data.word 0 - 1)).map (RoughtimeSource.headerLen (data.word 0) + ·) ++
    [data.length]).IsChain (· ≤ ·)

/-- A message that announces no tags. -/
def NoTags (data : Buffer) : Prop := 4 ≤ data.length ∧ data.word 0 = 0

/-- A message of more than 64 tags that is whole. -/
def ManyTags (data : Buffer) : Prop :=
  64 < data.word 0 ∧ RoughtimeSource.headerLen (data.word 0) ≤ data.length ∧ ValuesInOrder data

/-- A message of 1 to 64 tags with a value that is out of order or out of bounds. -/
def Disordered (data : Buffer) : Prop :=
  data.word 0 ≠ 0 ∧ data.word 0 ≤ 64 ∧ RoughtimeSource.headerLen (data.word 0) ≤ data.length ∧
    ¬ ValuesInOrder data

/-- The two parsers agree on a message: one accepts it if the other does, and then they find the
same values under the same tags. -/
def ParsersAgree (data : Buffer) : Prop :=
  ((∃ map, parseMsg data = some map) ↔
    ∃ map, RoughtimeSource.parseMessage data = .ok (some map)) ∧
  ∀ map map', parseMsg data = some map → RoughtimeSource.parseMessage data = .ok (some map') →
    ∀ tag, map.get? tag = map'.get? tag

theorem four_le_headerLen (n : ℕ) : 4 ≤ RoughtimeSource.headerLen n := by
  rw [RoughtimeSource.headerLen]
  omega

/-- The parser of the gateway on a message with a whole header. -/
theorem parseMessage_of_header {data : Buffer} (hpos : data.word 0 ≠ 0)
    (hheader : RoughtimeSource.headerLen (data.word 0) ≤ data.length) :
    ∃ result, RoughtimeSource.parseMessage data = .ok result ∧
      (result.isSome ↔ ValuesInOrder data) := by
  refine ⟨_, RoughtimeSource.parseMessage_eq_cut hheader (Nat.pos_of_ne_zero hpos) rfl, ?_⟩
  rw [Option.isSome_map]
  exact Slices.cut_isSome_iff

/-- The parser of the issuer on a message with a whole header. -/
theorem parseMsg_of_header {data : Buffer} (hpos : data.word 0 ≠ 0) (hfew : data.word 0 ≤ 64)
    (hheader : RoughtimeSource.headerLen (data.word 0) ≤ data.length) :
    ∃ map, parseMsg data = some map := by
  have hfour := four_le_headerLen (data.word 0)
  rw [RoughtimeSource.headerLen] at hheader hfour
  unfold parseMsg
  rw [if_neg (by omega)]
  dsimp only
  rw [if_neg (by omega), if_neg (by omega)]
  exact ⟨_, rfl⟩

theorem parseMsg_eq_none {data : Buffer} (h : data.length < 4 ∨ data.word 0 = 0 ∨
    64 < data.word 0 ∨ data.length < RoughtimeSource.headerLen (data.word 0)) :
    parseMsg data = none := by
  rw [RoughtimeSource.headerLen] at h
  unfold parseMsg
  split
  · rfl
  · dsimp only
    split
    · rfl
    · rw [if_pos (by omega)]

theorem parseMessage_eq_none {data : Buffer} (h : data.length < 4 ∨ data.word 0 ≠ 0 ∧
    data.length < RoughtimeSource.headerLen (data.word 0)) :
    RoughtimeSource.parseMessage data = .ok none := by
  rw [RoughtimeSource.parseMessage_eq]
  rcases h with h | ⟨hpos, h⟩
  · rw [if_pos h]
  · rw [if_neg hpos, if_pos h, ite_self]

theorem parsers_of_noTags {data : Buffer} (h : NoTags data) :
    parseMsg data = none ∧ RoughtimeSource.parseMessage data = .ok (some .empty) := by
  refine ⟨parseMsg_eq_none (Or.inr (Or.inl h.2)), ?_⟩
  rw [RoughtimeSource.parseMessage_eq, if_neg (by have := h.1; omega), if_pos h.2]

theorem parsers_of_manyTags {data : Buffer} (h : ManyTags data) :
    parseMsg data = none ∧ ∃ map, RoughtimeSource.parseMessage data = .ok (some map) := by
  obtain ⟨hmany, hheader, horder⟩ := h
  obtain ⟨result, hresult, hsome⟩ := parseMessage_of_header (by omega) hheader
  obtain ⟨map, rfl⟩ := Option.isSome_iff_exists.1 (hsome.2 horder)
  exact ⟨parseMsg_eq_none (Or.inr (Or.inr (Or.inl hmany))), map, hresult⟩

theorem parsers_of_disordered {data : Buffer} (h : Disordered data) :
    (∃ map, parseMsg data = some map) ∧ RoughtimeSource.parseMessage data = .ok none := by
  obtain ⟨hpos, hfew, hheader, horder⟩ := h
  obtain ⟨result, hresult, hsome⟩ := parseMessage_of_header hpos hheader
  refine ⟨parseMsg_of_header hpos hfew hheader, ?_⟩
  cases result with
  | none => exact hresult
  | some map => exact absurd (hsome.1 rfl) horder

/-- Two parsers that both reject agree. -/
theorem parsersAgree_of_none {data : Buffer} (h : parseMsg data = none)
    (h' : RoughtimeSource.parseMessage data = .ok none) : ParsersAgree data := by
  constructor
  · simp [h, h']
  · intro map map' hmap
    rw [h] at hmap
    cases hmap

/-- **On all other messages the parsers agree.** -/
theorem parsersAgree_of_not {data : Buffer} (hno : ¬ NoTags data) (hmany : ¬ ManyTags data)
    (hdisordered : ¬ Disordered data) : ParsersAgree data := by
  by_cases hfour : data.length < 4
  · exact parsersAgree_of_none (parseMsg_eq_none (Or.inl hfour))
      (parseMessage_eq_none (Or.inl hfour))
  have hpos : data.word 0 ≠ 0 := fun h => hno ⟨by omega, h⟩
  by_cases hheader : data.length < RoughtimeSource.headerLen (data.word 0)
  · exact parsersAgree_of_none (parseMsg_eq_none (Or.inr (Or.inr (Or.inr hheader))))
      (parseMessage_eq_none (Or.inr ⟨hpos, hheader⟩))
  rw [not_lt] at hheader
  obtain ⟨result, hresult, hsome⟩ := parseMessage_of_header hpos hheader
  by_cases hfew : data.word 0 ≤ 64
  · have horder : ValuesInOrder data := by
      by_contra horder
      exact hdisordered ⟨hpos, hfew, hheader, horder⟩
    obtain ⟨map, rfl⟩ := Option.isSome_iff_exists.1 (hsome.2 horder)
    have hmap := parseMsg_of_parseMessage hresult hpos hfew
    refine ⟨by simp [hmap, hresult], fun m m' hm hm' => ?_⟩
    rw [hmap] at hm
    rw [hresult] at hm'
    cases hm
    cases hm'
    exact fun tag => rfl
  · refine parsersAgree_of_none (parseMsg_eq_none (Or.inr (Or.inr (Or.inl (by omega))))) ?_
    cases result with
    | none => exact hresult
    | some map => exact absurd ⟨by omega, hheader, hsome.1 rfl⟩ hmany

/-- **Where the parsers agree**: on all byte strings but messages without tags and whole messages
of more than 64 tags, which only the gateway accepts, and messages with a value out of order or out
of bounds, which only the issuer accepts. -/
theorem parsers_agree_iff (data : Buffer) :
    (ParsersAgree data ↔ ¬ (NoTags data ∨ ManyTags data ∨ Disordered data)) ∧
    (NoTags data → parseMsg data = none ∧
      RoughtimeSource.parseMessage data = .ok (some .empty)) ∧
    (ManyTags data → parseMsg data = none ∧
      ∃ map, RoughtimeSource.parseMessage data = .ok (some map)) ∧
    (Disordered data → (∃ map, parseMsg data = some map) ∧
      RoughtimeSource.parseMessage data = .ok none) := by
  refine ⟨?_, parsers_of_noTags, parsers_of_manyTags, parsers_of_disordered⟩
  constructor
  · rintro ⟨hiff, -⟩ (h | h | h)
    · obtain ⟨hnone, hsome⟩ := parsers_of_noTags h
      simp [hnone, hsome] at hiff
    · obtain ⟨hnone, map, hsome⟩ := parsers_of_manyTags h
      simp [hnone, hsome] at hiff
    · obtain ⟨⟨map, hsome⟩, hnone⟩ := parsers_of_disordered h
      simp [hnone, hsome] at hiff
  · intro h
    rw [not_or, not_or] at h
    exact parsersAgree_of_not h.1 h.2.1 h.2.2

/-- A message without tags. -/
theorem not_parsersAgree : ¬ ∀ data : Buffer, ParsersAgree data := by
  intro h
  obtain ⟨hnone, hsome⟩ := parsers_of_noTags (show NoTags [0, 0, 0, 0] from ⟨le_rfl, rfl⟩)
  simpa [hnone, hsome] using (h [0, 0, 0, 0]).1

end OpenTTT.Roughtime
