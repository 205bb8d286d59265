import OpenTTT.Roughtime.Client

/-!
# The window of the delegation

`query_one_server` rejects a midpoint outside of the window of the delegation. The two ends of the
window are four levels down, in the delegation of the certificate of the response, and where a level
is missing or malformed the parser goes on with 0 and the largest number, which reject nothing.

`windowChecked_iff` says for which answers the check holds what it is for: those that are no
response at all, those that carry both ends, and those in which the one end that is there is
passed.
-/

namespace OpenTTT.Roughtime

open RoughtimeSource (tagU32)

/-! ## The parts of a packet -/

/-- The outer message of a packet. -/
def outerMessage (packet : Buffer) : Option (InsertionMap ℕ Buffer) :=
  if 12 ≤ packet.length ∧ Buffer.leValue (packet.take 8) = ROUGHTIME_MAGIC ∧
      12 + packet.word 8 ≤ packet.length then
    parseMsg (packet.subarray 12 (12 + packet.word 8))
  else none

/-- The delegation in the certificate of a message, if both are there and well formed. -/
def delegation (outer : InsertionMap ℕ Buffer) : Option (InsertionMap ℕ Buffer) := do
  let certData ← outer.get? tags.CERT
  let cert ← parseMsg certData
  let deleData ← cert.get? tags.DELE
  parseMsg deleData

/-- The beginning of the window, if the delegation has one of eight bytes. -/
def delegationMint (outer : InsertionMap ℕ Buffer) : Option UInt64 :=
  (delegation outer).bind fun dele => getU64Le dele tags.MINT

/-- The end of the window. -/
def delegationMaxt (outer : InsertionMap ℕ Buffer) : Option UInt64 :=
  (delegation outer).bind fun dele => getU64Le dele tags.MAXT

/-- A message has what a response must have: a signature, and a report with a midpoint, a radius and
a root. -/
def IsResponse (outer : InsertionMap ℕ Buffer) (midp : UInt64) : Prop :=
  (getFixed 64 outer tags.SIG).isSome ∧
  ∃ srepData srep, outer.get? tags.SREP = some srepData ∧ parseMsg srepData = some srep ∧
    getU64Le srep tags.MIDP = some midp ∧ (getU32Le srep tags.RADI).isSome ∧
    (getFixed 32 srep tags.ROOT).isSome

/-! ## What the parser reads -/

theorem parseRoughtimeResponse_eq (packet : Buffer) :
    parseRoughtimeResponse packet = (outerMessage packet).bind readMessage := by
  unfold parseRoughtimeResponse outerMessage
  by_cases hshort : packet.length < 12
  · rw [if_pos hshort, if_neg (by omega), Option.bind_none]
  rw [if_neg hshort]
  by_cases hmagic : Buffer.leValue (packet.take 8) = ROUGHTIME_MAGIC
  · rw [if_neg (not_not.2 hmagic)]
    dsimp only
    by_cases hlen : packet.length < 12 + packet.word 8
    · rw [if_pos hlen, if_neg (by omega), Option.bind_none]
    · rw [if_neg hlen, if_pos ⟨by omega, hmagic, by omega⟩]
  · rw [if_pos hmagic, if_neg fun h => hmagic h.2.1, Option.bind_none]

/-- The window that the parser reads: each end by itself, or its default. -/
theorem readDelegation_window (outer : InsertionMap ℕ Buffer) :
    (readDelegation outer).2 =
      ((delegationMint outer).getD 0, (delegationMaxt outer).getD (UInt64.ofNat (2 ^ 64 - 1))) := by
  unfold readDelegation
  cases hdele : delegation outer with
  | none =>
    rw [delegationMint, delegationMaxt, hdele]
    unfold delegation at hdele
    rw [hdele]
    rfl
  | some dele =>
    rw [delegationMint, delegationMaxt, hdele]
    unfold delegation at hdele
    rw [hdele]
    rfl

/-- **What is parsed as a response**, and with which window. -/
theorem readMessage_eq_some {outer : InsertionMap ℕ Buffer} {parsed : RoughtimeResponse}
    (h : readMessage outer = some parsed) :
    IsResponse outer parsed.midp ∧ parsed.mint = (delegationMint outer).getD 0 ∧
      parsed.maxt = (delegationMaxt outer).getD (UInt64.ofNat (2 ^ 64 - 1)) := by
  simp only [readMessage, Option.bind_eq_bind, Option.bind_eq_some_iff] at h
  obtain ⟨sig, hsig, srepData, hdata, srep, hsrep, midp, hmidp, radi, hradi, root, hroot, heq⟩ := h
  cases Option.some.inj heq
  have hwindow := Prod.ext_iff.1 (readDelegation_window outer)
  refine ⟨⟨by rw [hsig, Option.isSome_some], srepData, srep, hdata, hsrep, hmidp, ?_, ?_⟩,
    hwindow.1, hwindow.2⟩
  · rw [hradi, Option.isSome_some]
  · rw [hroot, Option.isSome_some]

theorem exists_readMessage {outer : InsertionMap ℕ Buffer} {midp : UInt64}
    (h : IsResponse outer midp) :
    ∃ parsed, readMessage outer = some parsed ∧ parsed.midp = midp := by
  obtain ⟨hsig, srepData, srep, hdata, hsrep, hmidp, hradi, hroot⟩ := h
  obtain ⟨sig, hsig⟩ := Option.isSome_iff_exists.1 hsig
  obtain ⟨radi, hradi⟩ := Option.isSome_iff_exists.1 hradi
  obtain ⟨root, hroot⟩ := Option.isSome_iff_exists.1 hroot
  simp only [readMessage, hsig, hdata, hsrep, hmidp, hradi, hroot, Option.bind_eq_bind,
    Option.bind_some]
  exact ⟨_, rfl, rfl⟩

/-! ## The check -/

/-- **The check fails closed**: what is admitted carries both ends of the window, and its midpoint
is between them. -/
def WindowChecked (hexDecode : String → Option Buffer) (host : String) (port : UInt16)
    (nonce blind : Vector UInt8 32) (pubkeyHex : String) (network : String → Buffer → Exchange) :
    Prop :=
  ∀ att, queryOneServer hexDecode host port nonce blind pubkeyHex network = .ok att →
    ∃ outer mint maxt, outerMessage att.rawResponse = some outer ∧
      delegationMint outer = some mint ∧ delegationMaxt outer = some maxt ∧
      mint ≤ att.midp ∧ att.midp ≤ maxt

/-- A window of which an end that is there is passed. -/
def WindowPassed (outer : InsertionMap ℕ Buffer) (midp : UInt64) : Prop :=
  (∃ mint, delegationMint outer = some mint ∧ midp < mint) ∨
    ∃ maxt, delegationMaxt outer = some maxt ∧ maxt < midp

/-- An end that is missing rejects nothing. -/
theorem not_windowPassed_iff {outer : InsertionMap ℕ Buffer} {midp : UInt64} :
    ¬ WindowPassed outer midp ↔ (delegationMint outer).getD 0 ≤ midp ∧
      midp ≤ (delegationMaxt outer).getD (UInt64.ofNat (2 ^ 64 - 1)) := by
  have hmax : midp ≤ UInt64.ofNat (2 ^ 64 - 1) := by
    have hlt := midp.toNat_lt
    rw [UInt64.le_iff_toNat_le, UInt64.toNat_ofNat']
    omega
  rw [WindowPassed, not_or]
  apply and_congr
  · cases delegationMint outer with
    | none => simp
    | some mint => simp [UInt64.not_lt]
  · cases delegationMaxt outer with
    | none => exact iff_of_true (by simp) hmax
    | some maxt => simp [UInt64.not_lt]

/-- **When the check fails closed**: an answer that is a response, to a client whose key is
hexadecimal, must carry both ends of the window, unless the one that it carries is passed. -/
theorem windowChecked_iff (hexDecode : String → Option Buffer) (host : String) (port : UInt16)
    (nonce blind : Vector UInt8 32) (pubkeyHex : String) (network : String → Buffer → Exchange) :
    WindowChecked hexDecode host port nonce blind pubkeyHex network ↔
      ∀ datagram outer midp,
        network (host ++ ":" ++ toString port.toNat) (buildRoughtimeRequest nonce) =
          .received datagram →
        outerMessage (datagram.take 65536) = some outer → IsResponse outer midp →
        (hexDecode pubkeyHex).isSome →
        ((delegationMint outer).isSome ∧ (delegationMaxt outer).isSome) ∨
          WindowPassed outer midp := by
  constructor
  · intro h datagram outer midp hreceived houter hresponse hkey
    obtain ⟨pkBytes, hkey⟩ := Option.isSome_iff_exists.1 hkey
    obtain ⟨parsed, hparsed, rfl⟩ := exists_readMessage hresponse
    obtain ⟨-, hmint, hmaxt⟩ := readMessage_eq_some hparsed
    by_cases hpassed : WindowPassed outer parsed.midp
    · exact Or.inr hpassed
    · have hin := not_windowPassed_iff.1 hpassed
      rw [← hmint, ← hmaxt] at hin
      obtain ⟨outer', mint, maxt, houter', hmint', hmaxt', -, -⟩ := h _ (queryOneServer_ok.2
        ⟨datagram, parsed, pkBytes, hreceived,
          by rw [parseRoughtimeResponse_eq, houter, Option.bind_some, hparsed], hin, hkey, rfl⟩)
      cases Option.some.inj (houter.symm.trans houter')
      exact Or.inl ⟨by rw [hmint', Option.isSome_some], by rw [hmaxt', Option.isSome_some]⟩
  · intro h att hquery
    obtain ⟨datagram, parsed, pkBytes, hreceived, hparse, hin, hkey, rfl⟩ :=
      queryOneServer_ok.1 hquery
    rw [parseRoughtimeResponse_eq] at hparse
    obtain ⟨outer, houter, hparsed⟩ := Option.bind_eq_some_iff.1 hparse
    obtain ⟨hresponse, hmint, hmaxt⟩ := readMessage_eq_some hparsed
    rw [hmint, hmaxt] at hin
    have hpassed := not_windowPassed_iff.2 hin
    have hkeySome : (hexDecode pubkeyHex).isSome := by rw [hkey, Option.isSome_some]
    rcases h datagram outer parsed.midp hreceived houter hresponse hkeySome with ⟨hm, hM⟩ | hp
    · obtain ⟨mint, hm⟩ := Option.isSome_iff_exists.1 hm
      obtain ⟨maxt, hM⟩ := Option.isSome_iff_exists.1 hM
      rw [hm, hM] at hin
      exact ⟨outer, mint, maxt, houter, hm, hM, hin⟩
    · exact absurd hp hpassed

/-! ## A response without a certificate -/

/-- A report of the second 1700000000, with a radius of 1. -/
def bareReport : Buffer :=
  Buffer.leBytes 4 3 ++ Buffer.leBytes 4 4 ++ Buffer.leBytes 4 12 ++
    tagU32 "RADI" ++ tagU32 "MIDP" ++ tagU32 "ROOT" ++
    Buffer.leBytes 4 1 ++ Buffer.leBytes 8 1700000000 ++ List.replicate 32 0

/-- A packet of this report and a signature of zeros. -/
def barePacket : Buffer :=
  packetOf (Buffer.leBytes 4 2 ++ Buffer.leBytes 4 64 ++ tagU32 "SIG" ++ tagU32 "SREP" ++
    List.replicate 64 0 ++ bareReport)

theorem parse_barePacket : ∃ parsed outer, parseRoughtimeResponse barePacket = some parsed ∧
    parsed.mint ≤ parsed.midp ∧ parsed.midp ≤ parsed.maxt ∧
    outerMessage barePacket = some outer ∧ outer.get? tags.CERT = none := by
  refine ⟨(parseRoughtimeResponse barePacket).get (by decide +kernel),
    (outerMessage barePacket).get (by decide +kernel), (Option.some_get _).symm, ?_, ?_,
    (Option.some_get _).symm, ?_⟩
  · decide +kernel
  · decide +kernel
  · decide +kernel

/-- **A response without a certificate** is admitted. -/
theorem not_windowChecked : ¬ ∀ network, WindowChecked decodeCloudflareKey
    "roughtime.cloudflare.com" 2002 (Vector.replicate 32 0) (Vector.replicate 32 0)
    "803eb799d6ab9e96f64e0b9b18cf6e8a14c3ad5acaa7b4af01f99e8b1a7ae07c" network := by
  intro h
  obtain ⟨parsed, outer, hparsed, hmint, hmaxt, houter, hcert⟩ := parse_barePacket
  have htake : barePacket.take 65536 = barePacket := List.take_of_length_le (by decide +kernel)
  obtain ⟨outer', mint, maxt, houter', hmint', -⟩ := h (fun _ _ => .received barePacket) _
    (queryOneServer_ok.2 ⟨barePacket, parsed, cloudflareKey.toList, rfl, by rw [htake, hparsed],
      ⟨hmint, hmaxt⟩, decodeCloudflareKey_eq, rfl⟩)
  rw [attestationOf, htake, houter] at houter'
  cases Option.some.inj houter'
  rw [delegationMint, delegation, hcert] at hmint'
  cases hmint'

end OpenTTT.Roughtime
