import OpenTTT.Roughtime.Authenticity
import OpenTTT.Roughtime.Chain
import OpenTTT.Roughtime.Wire

/-!
# The clients of the issuer

`query_server` of `client.rs` and `query_one_server` of `async_client.rs` send a request to a server
and turn the datagram that comes back into an attestation. The network is an argument: it answers a
request to an address with a datagram, or with an error. So is the decoder of the `hex` package.

Neither function looks at a signature or at the Merkle path of the response, nor at the key of the
server or the nonce but to record them. `exists_forged` builds a response with any midpoint and
radius that carries no certificate at all and is taken for an attestation, and `query_authentic_iff`
draws the conclusion for `Authentic`, which is what `validateRoughtimeResponse` checks.
-/

namespace OpenTTT.Roughtime

/-- What a request comes to. -/
inductive Exchange
  | io
  | timeout
  | received (datagram : Buffer)
  deriving DecidableEq

inductive RoughtimeClientError
  | Io
  | Timeout
  | ParseFailed
  | ChainBuildFailed (e : ChainError)
  | InsufficientServers (got min : ℕ)
  deriving DecidableEq

inductive AsyncClientError
  | Io
  | Timeout (server : String)
  | ParseFailed (server : String)
  | ChainBuildFailed (e : ChainError)
  | InsufficientServers (got needed : ℕ)
  deriving DecidableEq

/-- The attestation that both clients make of a response. -/
def attestationOf (serverPubkey : Vector UInt8 32) (serverName : String)
    (parsed : RoughtimeResponse) (nonce blind : Vector UInt8 32) (rawResponse : Buffer) :
    RoughtimeAttestation where
  serverPubkey := serverPubkey
  serverName := serverName
  midp := parsed.midp
  radi := parsed.radi
  sig := parsed.sig
  root := parsed.root
  nonce := nonce
  blind := blind
  indx := parsed.indx
  path := parsed.path
  rawResponse := rawResponse

def RECV_BUF : ℕ := 4096

/-- `query_server`. -/
def queryServer (host : String) (port : UInt16) (pubkey : Vector UInt8 32) (serverName : String)
    (nonce blind : Vector UInt8 32) (network : String → Buffer → Exchange) :
    Except RoughtimeClientError RoughtimeAttestation :=
  let addr := host ++ ":" ++ toString port.toNat
  match network addr (buildRoughtimeRequest nonce) with
  | .io => .error .Io
  | .timeout => .error .Timeout
  | .received datagram =>
    let rawResponse := datagram.take RECV_BUF
    match parseRoughtimeResponse rawResponse with
    | none => .error .ParseFailed
    | some parsed => .ok (attestationOf pubkey serverName parsed nonce blind rawResponse)

/-- The key that `query_one_server` records for the decoded bytes. -/
def pubkeyOf (pkBytes : Buffer) : Vector UInt8 32 :=
  if h : pkBytes.length = 32 then toVector pkBytes h else Vector.replicate 32 0

/-- `query_one_server`. -/
def queryOneServer (hexDecode : String → Option Buffer) (host : String) (port : UInt16)
    (nonce blind : Vector UInt8 32) (pubkeyHex : String) (network : String → Buffer → Exchange) :
    Except AsyncClientError RoughtimeAttestation :=
  let addr := host ++ ":" ++ toString port.toNat
  match network addr (buildRoughtimeRequest nonce) with
  | .io => .error .Io
  | .timeout => .error (.Timeout addr)
  | .received datagram =>
    let rawResponse := datagram.take 65536
    match parseRoughtimeResponse rawResponse with
    | none => .error (.ParseFailed addr)
    | some parsed =>
      if parsed.midp < parsed.mint ∨ parsed.midp > parsed.maxt then .error (.ParseFailed addr)
      else
        match hexDecode pubkeyHex with
        | none => .error (.ParseFailed addr)
        | some pkBytes =>
          .ok (attestationOf (pubkeyOf pkBytes) addr parsed nonce blind rawResponse)

/-! ## Authenticity -/

open RoughtimeSource (Crypto Response Certificate Report IsMessageOf Holds HoldsUInt32
  IsCertificate IsReport rtHash walkPath pathNodes deleCtx srepCtx tagU32 tagKey buildMessage
  parseMessage)

/-- **Authenticity of an attestation**: its response carries a certificate in which the long-term
key signs a delegation, a report that the delegated key signs and that has the midpoint and the
radius of the attestation, and a path from the request to the root of the report. -/
def Authentic (crypto : Crypto) (IsSignature : Buffer → Buffer → Buffer → Prop)
    (request : Buffer) (att : RoughtimeAttestation) : Prop :=
  ∃ (message : Buffer) (top : Response) (cert : Certificate) (report : Report),
    IsMessageOf att.rawResponse message ∧
    Holds message "SIG" top.sig ∧ Holds message "SREP" top.srep ∧ Holds message "CERT" top.cert ∧
    Holds message "PATH" top.path ∧ HoldsUInt32 message "INDX" top.indx ∧
    IsCertificate top.cert cert ∧ IsReport top.srep report ∧
    IsSignature att.serverPubkey.toList (deleCtx ++ cert.dele) cert.sig ∧
    IsSignature cert.pubk (srepCtx ++ top.srep) top.sig ∧
    report.midp = att.midp.toNat ∧ report.radi = att.radi.toNat ∧
    (walkPath crypto (rtHash crypto [[0x00], request]) top.indx (pathNodes top.path)).1.toList =
        report.root ∧
    (walkPath crypto (rtHash crypto [[0x00], request]) top.indx (pathNodes top.path)).2 = 0

/-- An authentic response has a certificate. -/
theorem Authentic.cert {crypto : Crypto} {IsSignature : Buffer → Buffer → Buffer → Prop}
    {request : Buffer} {att : RoughtimeAttestation} (h : Authentic crypto IsSignature request att) :
    ∃ message cert, IsMessageOf att.rawResponse message ∧ Holds message "CERT" cert := by
  obtain ⟨message, top, -, -, hmessage, -, -, hcert, -⟩ := h
  exact ⟨message, top.cert, hmessage, hcert⟩

/-! ## Forged responses -/

/-- The parts of a report. -/
def forgedReport (midp : UInt64) (radi : UInt32) : List (Buffer × Buffer) :=
  [(tagU32 "RADI", Buffer.leBytes 4 radi.toNat), (tagU32 "MIDP", Buffer.leBytes 8 midp.toNat),
    (tagU32 "ROOT", List.replicate 32 0)]

/-- The parts of a response without a certificate. -/
def forgedParts (srep : Buffer) : List (Buffer × Buffer) :=
  [(tagU32 "SIG", List.replicate 64 0), (tagU32 "SREP", srep)]

/-- A message in a packet. -/
def packetOf (message : Buffer) : Buffer :=
  Buffer.leBytes 8 ROUGHTIME_MAGIC ++ Buffer.leBytes 4 message.length ++ message

/-- Both parsers read what was built from a few parts. -/
theorem exists_message (pairs : List (Buffer × Buffer)) (hpos : pairs.length ≠ 0)
    (hfew : pairs.length ≤ 64) (htags : ∀ pair ∈ pairs, pair.1.length = 4)
    (hdistinct : (pairs.map Prod.fst).Nodup)
    (hvalues : (pairs.map Prod.snd).flatten.length < 2 ^ 32) :
    ∃ message map, parseMessage message = .ok (some map) ∧ parseMsg message = some map ∧
      map.entries = (pairs.map fun pair => (tagKey pair.1, pair.2)) ∧
      message.length =
        RoughtimeSource.headerLen pairs.length + (pairs.map Prod.snd).flatten.length := by
  obtain ⟨message, map, -, hparse, hentries, hword, hlength⟩ :=
    RoughtimeSource.parseMessage_of_buildMessage (by omega) htags hdistinct hvalues
  exact ⟨message, map, hparse, parseMsg_of_parseMessage hparse (hword ▸ hpos) (hword ▸ hfew),
    hentries, hlength⟩

theorem length_packetOf (message : Buffer) : (packetOf message).length = 12 + message.length := by
  rw [packetOf, List.length_append, List.length_append, Buffer.length_leBytes,
    Buffer.length_leBytes]

theorem word_packetOf {message : Buffer} (hlen : message.length < 2 ^ 32) :
    (packetOf message).word 8 = message.length := by
  have hfits : message.length < 256 ^ 4 := hlen
  rw [packetOf, Buffer.word, List.append_assoc, List.drop_left' (Buffer.length_leBytes 8 _),
    List.take_left' (Buffer.length_leBytes 4 _), Buffer.leValue_leBytes hfits]

theorem subarray_packetOf (message : Buffer) :
    (packetOf message).subarray 12 (12 + message.length) = message := by
  rw [Buffer.subarray, ← length_packetOf, List.take_length, packetOf]
  exact List.drop_left' (by simp)

/-- The parser finds the message in a packet. -/
theorem parseRoughtimeResponse_packetOf {message : Buffer} {outer : InsertionMap ℕ Buffer}
    (hlen : message.length < 2 ^ 32) (h : parseMsg message = some outer) :
    parseRoughtimeResponse (packetOf message) = readMessage outer := by
  have hmagic : (packetOf message).take 8 = Buffer.leBytes 8 ROUGHTIME_MAGIC := by
    rw [packetOf, List.append_assoc, List.take_left' (Buffer.length_leBytes 8 _)]
  have hvalue : Buffer.leValue (Buffer.leBytes 8 ROUGHTIME_MAGIC) = ROUGHTIME_MAGIC :=
    Buffer.leValue_leBytes (by decide)
  have hlength := length_packetOf message
  rw [parseRoughtimeResponse, if_neg (by omega), hmagic, hvalue, if_neg (not_not.2 rfl)]
  dsimp only
  rw [word_packetOf hlen, if_neg (by omega), subarray_packetOf, h, Option.bind_some]

/-- So does the validator of the gateway. -/
theorem message_of_isMessageOf {message message' : Buffer} (hlen : message.length < 2 ^ 32)
    (h : IsMessageOf (packetOf message) message') : message' = message := by
  obtain ⟨msgLen, hread, rfl⟩ := h
  have hlength := length_packetOf message
  rw [Buffer.readUInt32LE_of_le (by omega), word_packetOf hlen] at hread
  rw [← Except.ok.inj hread, subarray_packetOf]

theorem getFixed_of_get? {map : InsertionMap ℕ Buffer} {tag n : ℕ} {v : Buffer}
    (h : map.get? tag = some v) (hlen : v.length = n) :
    getFixed n map tag = some (toVector v hlen) := by
  rw [getFixed, h, Option.bind_some, dif_pos hlen]

theorem getU32Le_of_get? {map : InsertionMap ℕ Buffer} {tag : ℕ} {x : UInt32}
    (h : map.get? tag = some (Buffer.leBytes 4 x.toNat)) : getU32Le map tag = some x := by
  have hfits : x.toNat < 256 ^ 4 := x.toNat_lt
  rw [getU32Le, getFixed_of_get? h (Buffer.length_leBytes 4 _), Option.map_some, toVector,
    Vector.toList_mk, Buffer.leValue_leBytes hfits, UInt32.ofNat_toNat]

theorem getU64Le_of_get? {map : InsertionMap ℕ Buffer} {tag : ℕ} {x : UInt64}
    (h : map.get? tag = some (Buffer.leBytes 8 x.toNat)) : getU64Le map tag = some x := by
  have hfits : x.toNat < 256 ^ 8 := x.toNat_lt
  rw [getU64Le, getFixed_of_get? h (Buffer.length_leBytes 8 _), Option.map_some, toVector,
    Vector.toList_mk, Buffer.leValue_leBytes hfits, UInt64.ofNat_toNat]

/-- A response without a certificate is read with the default window. -/
theorem readMessage_of_entries {midp : UInt64} {radi : UInt32} {srep : Buffer}
    {outer srepMap : InsertionMap ℕ Buffer}
    (houter : outer.entries = (forgedParts srep).map fun pair => (tagKey pair.1, pair.2))
    (hsrep : parseMsg srep = some srepMap)
    (hsrepMap : srepMap.entries =
      (forgedReport midp radi).map fun pair => (tagKey pair.1, pair.2)) :
    ∃ parsed, readMessage outer = some parsed ∧ parsed.midp = midp ∧ parsed.radi = radi ∧
      parsed.mint = 0 ∧ parsed.maxt = UInt64.ofNat (2 ^ 64 - 1) := by
  have hsig : outer.get? tags.SIG = some (List.replicate 64 0) := by
    rw [InsertionMap.get?, houter]
    rfl
  have hsrepData : outer.get? tags.SREP = some srep := by
    rw [InsertionMap.get?, houter]
    rfl
  have hcert : outer.get? tags.CERT = none := by
    rw [InsertionMap.get?, houter]
    rfl
  have hmidp : srepMap.get? tags.MIDP = some (Buffer.leBytes 8 midp.toNat) := by
    rw [InsertionMap.get?, hsrepMap]
    rfl
  have hradi : srepMap.get? tags.RADI = some (Buffer.leBytes 4 radi.toNat) := by
    rw [InsertionMap.get?, hsrepMap]
    rfl
  have hroot : srepMap.get? tags.ROOT = some (List.replicate 32 0) := by
    rw [InsertionMap.get?, hsrepMap]
    rfl
  have hdelegation : readDelegation outer =
      (Vector.replicate 32 0, 0, UInt64.ofNat (2 ^ 64 - 1)) := by
    rw [readDelegation, hcert]
    rfl
  refine ⟨⟨midp, radi, toVector (List.replicate 32 0) List.length_replicate,
    toVector (List.replicate 64 0) List.length_replicate, Vector.replicate 32 0, 0,
    UInt64.ofNat (2 ^ 64 - 1), (getU32Le outer tags.INDX).getD 0,
    chunksExact32 ((outer.get? tags.PATH).getD [])⟩, ?_, rfl, rfl, rfl, rfl⟩
  simp only [readMessage, getFixed_of_get? hsig List.length_replicate, hsrepData, hsrep,
    getU64Le_of_get? hmidp, getU32Le_of_get? hradi, getFixed_of_get? hroot List.length_replicate,
    hdelegation, Option.bind_eq_bind, Option.bind_some]

/-- **A forged response**: for any midpoint and radius there is a packet that is parsed, with the
default window, and has no certificate. -/
theorem exists_forged (midp : UInt64) (radi : UInt32) :
    ∃ packet parsed, packet.length ≤ 4096 ∧ parseRoughtimeResponse packet = some parsed ∧
      parsed.midp = midp ∧ parsed.radi = radi ∧ parsed.mint = 0 ∧
      parsed.maxt = UInt64.ofNat (2 ^ 64 - 1) ∧
      ∀ message cert, IsMessageOf packet message → ¬ Holds message "CERT" cert := by
  have hreport : ((forgedReport midp radi).map Prod.snd).flatten.length = 44 := by
    simp [forgedReport]
  obtain ⟨srep, srepMap, -, hsrep, hsrepEntries, hsrepLength⟩ :=
    exists_message (forgedReport midp radi) (by simp [forgedReport]) (by simp [forgedReport])
      (by simp [forgedReport, tagU32])
      (show [tagU32 "RADI", tagU32 "MIDP", tagU32 "ROOT"].Nodup by decide) (by omega)
  have hsrepLen : srep.length = 68 := by
    rw [hsrepLength, hreport]
    rfl
  have hparts : ((forgedParts srep).map Prod.snd).flatten.length = 132 := by
    simp [forgedParts, hsrepLen]
  obtain ⟨message, outer, houter, houter', houterEntries, hlength⟩ :=
    exists_message (forgedParts srep) (by simp [forgedParts]) (by simp [forgedParts])
      (by simp [forgedParts, tagU32]) (show [tagU32 "SIG", tagU32 "SREP"].Nodup by decide)
      (by omega)
  have hlen : message.length = 148 := by
    rw [hlength, hparts]
    rfl
  obtain ⟨parsed, hread, hmidp, hradi, hmint, hmaxt⟩ :=
    readMessage_of_entries houterEntries hsrep hsrepEntries
  refine ⟨packetOf message, parsed, ?_, ?_, hmidp, hradi, hmint, hmaxt, ?_⟩
  · rw [length_packetOf]
    omega
  · rw [parseRoughtimeResponse_packetOf (by omega) houter', hread]
  · intro message' cert hmessage hcert
    rw [message_of_isMessageOf (by omega) hmessage] at hcert
    have hnone : RoughtimeSource.field outer "CERT" = none := by
      rw [RoughtimeSource.field, InsertionMap.get?, houterEntries]
      rfl
    simp [Holds, RoughtimeSource.value?, houter, hnone] at hcert

/-! ## What the clients admit -/

/-- **`query_server`** makes an attestation of every response that is parsed, whatever the key and
the nonce are. -/
theorem queryServer_ok {host : String} {port : UInt16} {pubkey : Vector UInt8 32}
    {serverName : String} {nonce blind : Vector UInt8 32} {network : String → Buffer → Exchange}
    {att : RoughtimeAttestation} :
    queryServer host port pubkey serverName nonce blind network = .ok att ↔
      ∃ datagram parsed,
        network (host ++ ":" ++ toString port.toNat) (buildRoughtimeRequest nonce) =
          .received datagram ∧
        parseRoughtimeResponse (datagram.take RECV_BUF) = some parsed ∧
        att = attestationOf pubkey serverName parsed nonce blind (datagram.take RECV_BUF) := by
  simp only [queryServer]
  cases network (host ++ ":" ++ toString port.toNat) (buildRoughtimeRequest nonce) with
  | io => simp
  | timeout => simp
  | received datagram =>
    cases hparsed : parseRoughtimeResponse (datagram.take RECV_BUF) with
    | none => simp [hparsed]
    | some parsed => simp [hparsed, eq_comm]

/-- **`query_one_server`** checks in addition that the midpoint is in the window that the response
itself claims, and that the key is hexadecimal. -/
theorem queryOneServer_ok {hexDecode : String → Option Buffer} {host : String} {port : UInt16}
    {nonce blind : Vector UInt8 32} {pubkeyHex : String} {network : String → Buffer → Exchange}
    {att : RoughtimeAttestation} :
    queryOneServer hexDecode host port nonce blind pubkeyHex network = .ok att ↔
      ∃ datagram parsed pkBytes,
        network (host ++ ":" ++ toString port.toNat) (buildRoughtimeRequest nonce) =
          .received datagram ∧
        parseRoughtimeResponse (datagram.take 65536) = some parsed ∧
        (parsed.mint ≤ parsed.midp ∧ parsed.midp ≤ parsed.maxt) ∧
        hexDecode pubkeyHex = some pkBytes ∧
        att = attestationOf (pubkeyOf pkBytes) (host ++ ":" ++ toString port.toNat) parsed nonce
          blind (datagram.take 65536) := by
  simp only [queryOneServer]
  cases network (host ++ ":" ++ toString port.toNat) (buildRoughtimeRequest nonce) with
  | io => simp
  | timeout => simp
  | received datagram =>
    cases hparsed : parseRoughtimeResponse (datagram.take 65536) with
    | none => simp [hparsed]
    | some parsed =>
      have hin : (parsed.mint ≤ parsed.midp ∧ parsed.midp ≤ parsed.maxt) ↔
          ¬ (parsed.midp < parsed.mint ∨ parsed.midp > parsed.maxt) := by
        rw [not_or, gt_iff_lt, UInt64.not_lt, UInt64.not_lt]
      by_cases hwindow : parsed.midp < parsed.mint ∨ parsed.midp > parsed.maxt
      · simp [hparsed, hin, hwindow]
      · cases hkey : hexDecode pubkeyHex with
        | none => simp [hparsed, hwindow]
        | some pkBytes => simp [hparsed, hin, hwindow, eq_comm]

/-- **`query_server` authenticates nothing**: an attacker on the network sets any time. -/
theorem queryServer_forged (crypto : Crypto) (IsSignature : Buffer → Buffer → Buffer → Prop)
    (host : String) (port : UInt16) (pubkey : Vector UInt8 32) (serverName : String)
    (nonce blind : Vector UInt8 32) (midp : UInt64) (radi : UInt32) :
    ∃ network att, queryServer host port pubkey serverName nonce blind network = .ok att ∧
      att.midp = midp ∧ att.radi = radi ∧
      ¬ Authentic crypto IsSignature (buildRoughtimeRequest nonce) att := by
  obtain ⟨packet, parsed, hlen, hparsed, hmidp, hradi, -, -, hcert⟩ := exists_forged midp radi
  have htake : packet.take RECV_BUF = packet := List.take_of_length_le hlen
  refine ⟨fun _ _ => .received packet, attestationOf pubkey serverName parsed nonce blind packet,
    queryServer_ok.2 ⟨packet, parsed, rfl, ?_, ?_⟩, hmidp, hradi, fun hauth => ?_⟩
  · rw [htake]
    exact hparsed
  · rw [htake]
  · obtain ⟨message, cert, hmessage, hholds⟩ := hauth.cert
    exact hcert message cert hmessage hholds

/-- The same for `query_one_server`, with a key that is hexadecimal. -/
theorem queryOneServer_forged (crypto : Crypto) (IsSignature : Buffer → Buffer → Buffer → Prop)
    {hexDecode : String → Option Buffer} (host : String) (port : UInt16)
    (nonce blind : Vector UInt8 32) {pubkeyHex : String} {pkBytes : Buffer}
    (hkey : hexDecode pubkeyHex = some pkBytes) (midp : UInt64) (radi : UInt32) :
    ∃ network att,
      queryOneServer hexDecode host port nonce blind pubkeyHex network = .ok att ∧
      att.midp = midp ∧ att.radi = radi ∧
      ¬ Authentic crypto IsSignature (buildRoughtimeRequest nonce) att := by
  obtain ⟨packet, parsed, hlen, hparsed, hmidp, hradi, hmint, hmaxt, hcert⟩ :=
    exists_forged midp radi
  have htake : packet.take 65536 = packet := List.take_of_length_le (by omega)
  have hwindow : parsed.mint ≤ parsed.midp ∧ parsed.midp ≤ parsed.maxt := by
    rw [hmint, hmaxt]
    refine ⟨UInt64.zero_le, ?_⟩
    have hlt := parsed.midp.toNat_lt
    rw [UInt64.le_iff_toNat_le, UInt64.toNat_ofNat']
    omega
  refine ⟨fun _ _ => .received packet, attestationOf (pubkeyOf pkBytes)
    (host ++ ":" ++ toString port.toNat) parsed nonce blind packet,
    queryOneServer_ok.2 ⟨packet, parsed, pkBytes, rfl, ?_, hwindow, hkey, ?_⟩, hmidp, hradi,
    fun hauth => ?_⟩
  · rw [htake]
    exact hparsed
  · rw [htake]
  · obtain ⟨message, cert, hmessage, hholds⟩ := hauth.cert
    exact hcert message cert hmessage hholds

/-- **When the responses that the clients admit are all authentic**: for `query_server` never, and
for `query_one_server` exactly if the key cannot be decoded and nothing is admitted at all. An
attacker who answers in place of the server even sets the time. -/
theorem query_authentic_iff (crypto : Crypto) (IsSignature : Buffer → Buffer → Buffer → Prop)
    (hexDecode : String → Option Buffer) (host : String) (port : UInt16)
    (nonce blind : Vector UInt8 32) :
    (∀ (pubkey : Vector UInt8 32) (serverName : String) (midp : UInt64) (radi : UInt32),
      ∃ network att, queryServer host port pubkey serverName nonce blind network = .ok att ∧
        att.midp = midp ∧ att.radi = radi ∧
        ¬ Authentic crypto IsSignature (buildRoughtimeRequest nonce) att) ∧
    ∀ pubkeyHex : String,
      (∀ network att,
        queryOneServer hexDecode host port nonce blind pubkeyHex network = .ok att →
        Authentic crypto IsSignature (buildRoughtimeRequest nonce) att) ↔
      hexDecode pubkeyHex = none := by
  refine ⟨fun pubkey serverName midp radi =>
    queryServer_forged crypto IsSignature host port pubkey serverName nonce blind midp radi,
    fun pubkeyHex => ?_⟩
  constructor
  · intro h
    cases hkey : hexDecode pubkeyHex with
    | none => rfl
    | some pkBytes =>
      obtain ⟨network, att, hquery, -, -, hforged⟩ :=
        queryOneServer_forged crypto IsSignature host port nonce blind hkey 0 0
      exact absurd (h network att hquery) hforged
  · intro hnone network att hquery
    obtain ⟨-, -, pkBytes, -, -, -, hkey, -⟩ := queryOneServer_ok.1 hquery
    rw [hnone] at hkey
    cases hkey

/-- The key of one of the servers of `types.rs`. -/
def cloudflareKey : Vector UInt8 32 :=
  #v[0x80, 0x3e, 0xb7, 0x99, 0xd6, 0xab, 0x9e, 0x96, 0xf6, 0x4e, 0x0b, 0x9b, 0x18, 0xcf,
    0x6e, 0x8a, 0x14, 0xc3, 0xad, 0x5a, 0xca, 0xa7, 0xb4, 0xaf, 0x01, 0xf9, 0x9e, 0x8b,
    0x1a, 0x7a, 0xe0, 0x7c]

/-- The decoder on the text of this key. -/
def decodeCloudflareKey (text : String) : Option Buffer :=
  if text = "803eb799d6ab9e96f64e0b9b18cf6e8a14c3ad5acaa7b4af01f99e8b1a7ae07c" then
    some cloudflareKey.toList
  else none

theorem decodeCloudflareKey_eq : decodeCloudflareKey
    "803eb799d6ab9e96f64e0b9b18cf6e8a14c3ad5acaa7b4af01f99e8b1a7ae07c" =
      some cloudflareKey.toList :=
  if_pos rfl

/-- **Forged responses of a server are admitted**, even if every string counted as a signature. -/
theorem clients_admit_forged :
    (¬ ∀ network att, queryServer "roughtime.cloudflare.com" 2002 cloudflareKey "Cloudflare"
        (Vector.replicate 32 0) (Vector.replicate 32 0) network = .ok att →
      Authentic RoughtimeSource.sampleCrypto (fun _ _ _ => True)
        (buildRoughtimeRequest (Vector.replicate 32 0)) att) ∧
    ¬ ∀ network att, queryOneServer decodeCloudflareKey
        "roughtime.cloudflare.com" 2002 (Vector.replicate 32 0) (Vector.replicate 32 0)
        "803eb799d6ab9e96f64e0b9b18cf6e8a14c3ad5acaa7b4af01f99e8b1a7ae07c" network = .ok att →
      Authentic RoughtimeSource.sampleCrypto (fun _ _ _ => True)
        (buildRoughtimeRequest (Vector.replicate 32 0)) att := by
  constructor
  · intro h
    obtain ⟨network, att, hquery, -, -, hforged⟩ := queryServer_forged RoughtimeSource.sampleCrypto
      (fun _ _ _ => True) "roughtime.cloudflare.com" 2002 cloudflareKey "Cloudflare"
      (Vector.replicate 32 0) (Vector.replicate 32 0) 1700000000 1
    exact hforged (h network att hquery)
  · intro h
    obtain ⟨network, att, hquery, -, -, hforged⟩ := queryOneServer_forged
      RoughtimeSource.sampleCrypto (fun _ _ _ => True) "roughtime.cloudflare.com" 2002
      (Vector.replicate 32 0) (Vector.replicate 32 0) decodeCloudflareKey_eq 1700000000 1
    exact hforged (h network att hquery)

end OpenTTT.Roughtime
