import OpenTTT.Roughtime.Reading

/-!
# The sources of a synthesis

The constructor of `TimeSynthesis` in `time_synthesis.ts`, with the servers of
`roughtime_source.ts`. Every entry of the list that it is given adds its sources: one for the name
of a server, none for an unknown name, and all the Roughtime servers for `roughtime`; `galileo` is
`google`.

Nothing looks at what is there already, so a server that two entries name is there twice and has two
of the readings. `countedOnce_iff` says for which lists this does not happen.
-/

namespace OpenTTT

structure RoughtimeServerConfig where
  name : String
  host : String
  port : Binary64
  pubkeyB64 : String
  deriving DecidableEq

def ROUGHTIME_SERVERS : List RoughtimeServerConfig :=
  [{ name := "roughtime-int08h", host := "roughtime.int08h.com", port := .finite 2002,
     pubkeyB64 := "AW5uAoTSTDfG5NfY1bTh08GUnOqlRb+HVhbJ3ODJvsE=" },
   { name := "roughtime-cloudflare", host := "roughtime.cloudflare.com", port := .finite 2003,
     pubkeyB64 := "0GD7c3yP8xEc4Zl2zeuN2SlLvDVVocjsPSL8/Rl/7zg=" },
   { name := "roughtime-se", host := "roughtime.se", port := .finite 2002,
     pubkeyB64 := "S3AzfZJ5CjSdkJ21ZJGbxqdYP/SoE8fXKY0+aicsehI=" },
   { name := "roughtime-txryan", host := "time.txryan.com", port := .finite 2002,
     pubkeyB64 := "iBVjxg/1j7y1+kQUTBYdTabxCppesU/07D4PMDJk2WA=" }]

/-- `TimeSource`. -/
inductive TimeSource
  | https (source : HTTPSTimeSource)
  | roughtime (source : RoughtimeSource)

namespace TimeSource

def name : TimeSource → String
  | https source => source.name
  | roughtime source => source.name

/-- The readings that `getTime` can give, with whatever comes from the network. -/
def Gives : TimeSource → TimeReading → Prop
  | https source, r => ∃ parseDate sentMs event, source.getTime parseDate sentMs event = .ok r
  | roughtime source, r =>
    ∃ crypto lookup nonce network, source.getTime crypto lookup nonce network = .ok r

/-- A reading has the name of its source. -/
theorem Gives.source_eq {source : TimeSource} {r : TimeReading} (h : source.Gives r) :
    r.source = source.name := by
  cases source with
  | https source =>
    obtain ⟨parseDate, sentMs, event, h⟩ := h
    obtain ⟨nowMs, dateMs, -, rfl⟩ := HTTPSTimeSource.getTime_ok h
    rfl
  | roughtime source =>
    obtain ⟨crypto, lookup, nonce, network, h⟩ := h
    obtain ⟨family, -, h⟩ := bind_eq_ok.1 h
    obtain ⟨requestPacket, -, h⟩ := bind_eq_ok.1 h
    obtain ⟨responsePacket, -, h⟩ := bind_eq_ok.1 h
    obtain ⟨v, -, h⟩ := bind_eq_ok.1 h
    rw [← Except.ok.inj h]
    rfl

end TimeSource

namespace TimeSynthesis

def DEFAULT_SOURCE_NAMES : List String :=
  ["nist", "google", "cloudflare", "apple",
    "roughtime-int08h", "roughtime-cloudflare", "roughtime-se", "roughtime-txryan"]

section Constructor

variable (fromBase64 : String → Buffer)

def roughtimeSource (cfg : RoughtimeServerConfig) : Except Thrown TimeSource :=
  (RoughtimeSource.new fromBase64 cfg.name cfg.host cfg.port cfg.pubkeyB64
    (Binary64.ofNat 3000)).map .roughtime

/-- The sources that one entry of the list adds. -/
def sourcesOf (s : String) : Except Thrown (List TimeSource) :=
  if s = "nist" then .ok [.https ⟨"nist", "https://time.nist.gov/"⟩]
  else if s = "google" ∨ s = "galileo" then .ok [.https ⟨"google", "https://time.google.com/"⟩]
  else if s = "cloudflare" then .ok [.https ⟨"cloudflare", "https://time.cloudflare.com/"⟩]
  else if s = "apple" then .ok [.https ⟨"apple", "https://time.apple.com/"⟩]
  else if s = "roughtime" then ROUGHTIME_SERVERS.mapM (roughtimeSource fromBase64)
  else
    match ROUGHTIME_SERVERS.find? fun c => c.name = s with
    | some rtCfg => do .ok [← roughtimeSource fromBase64 rtCfg]
    | none => .ok []

/-- The sources that the constructor collects; without a list it takes the default one. -/
def constructSources (sources : Option (List String)) : Except Thrown (List TimeSource) := do
  let collected ← (sources.getD DEFAULT_SOURCE_NAMES).mapM (sourcesOf fromBase64)
  .ok collected.flatten

end Constructor

/-! ## The names of the sources -/

/-- The servers that an entry names. -/
def serverNames (s : String) : List String :=
  if s = "galileo" then ["google"]
  else if s = "roughtime" then ROUGHTIME_SERVERS.map RoughtimeServerConfig.name
  else if s ∈ DEFAULT_SOURCE_NAMES then [s]
  else []

section Names

variable {fromBase64 : String → Buffer}

/-- A list that is mapped by calls that can throw, none of which does: what is known of each result
is known of the list. -/
theorem map_eq_of_mapM {α β γ : Type} {f : α → Except Thrown β} {g : α → γ} {g' : β → γ}
    (hf : ∀ {a b}, f a = .ok b → g' b = g a) {l : List α} {r : List β} (h : l.mapM f = .ok r) :
    r.map g' = l.map g := by
  induction l generalizing r with
  | nil =>
    rw [List.mapM_nil] at h
    rw [← Except.ok.inj h]
    rfl
  | cons a l ih =>
    rw [List.mapM_cons] at h
    obtain ⟨b, hb, h⟩ := bind_eq_ok.1 h
    obtain ⟨rest, hrest, h⟩ := bind_eq_ok.1 h
    rw [← Except.ok.inj h, List.map_cons, List.map_cons, hf hb, ih hrest]

theorem name_roughtimeSource {cfg : RoughtimeServerConfig} {source : TimeSource}
    (h : roughtimeSource fromBase64 cfg = .ok source) : source.name = cfg.name := by
  unfold roughtimeSource RoughtimeSource.new at h
  split at h
  · rw [← Except.ok.inj h]
    rfl
  · cases h

/-- A default name is one of the names that are looked at one by one, or a server's. -/
theorem cases_of_mem_DEFAULT_SOURCE_NAMES : ∀ t ∈ DEFAULT_SOURCE_NAMES, t = "nist" ∨
    t = "google" ∨ t = "cloudflare" ∨ t = "apple" ∨ ∃ cfg ∈ ROUGHTIME_SERVERS, cfg.name = t := by
  decide

theorem serverNames_name : ∀ cfg ∈ ROUGHTIME_SERVERS, serverNames cfg.name = [cfg.name] := by
  decide

/-- The sources of an entry have the names of its servers. -/
theorem map_name_sourcesOf {s : String} {sources : List TimeSource}
    (h : sourcesOf fromBase64 s = .ok sources) :
    sources.map TimeSource.name = serverNames s := by
  unfold sourcesOf at h
  split_ifs at h with hnist hgoogle hcloudflare happle hroughtime
  · rw [← Except.ok.inj h, hnist]
    rfl
  · rw [← Except.ok.inj h]
    obtain rfl | rfl := hgoogle <;> rfl
  · rw [← Except.ok.inj h, hcloudflare]
    rfl
  · rw [← Except.ok.inj h, happle]
    rfl
  · rw [map_eq_of_mapM name_roughtimeSource h, hroughtime]
    rfl
  · cases hfind : ROUGHTIME_SERVERS.find? fun c => c.name = s with
    | some rtCfg =>
      rw [hfind] at h
      obtain ⟨source, hsource, h⟩ := bind_eq_ok.1 h
      have hname : rtCfg.name = s := by simpa using List.find?_some hfind
      have hserver : serverNames rtCfg.name = [rtCfg.name] :=
        serverNames_name rtCfg (List.mem_of_find?_eq_some hfind)
      rw [← Except.ok.inj h, ← hname, hserver, List.map_singleton, name_roughtimeSource hsource]
    | none =>
      rw [hfind] at h
      have hunknown : s ∉ DEFAULT_SOURCE_NAMES := by
        intro hmem
        obtain hs | hs | hs | hs | ⟨cfg, hcfg, hs⟩ := cases_of_mem_DEFAULT_SOURCE_NAMES s hmem
        · exact hnist hs
        · exact hgoogle (.inl hs)
        · exact hcloudflare hs
        · exact happle hs
        · exact List.find?_eq_none.1 hfind cfg hcfg (decide_eq_true hs)
      rw [← Except.ok.inj h, serverNames, if_neg (fun h => hgoogle (.inr h)), if_neg hroughtime,
        if_neg hunknown]
      rfl

/-- The names of all the sources. -/
theorem map_name_constructSources {config : Option (List String)} {sources : List TimeSource}
    (h : constructSources fromBase64 config = .ok sources) :
    sources.map TimeSource.name = (config.getD DEFAULT_SOURCE_NAMES).flatMap serverNames := by
  obtain ⟨collected, hcollected, h⟩ := bind_eq_ok.1 h
  rw [← Except.ok.inj h, List.map_flatten, map_eq_of_mapM map_name_sourcesOf hcollected,
    List.flatMap_def]

end Names

/-! ## Servers that are named twice -/

/-- The entries that name any server. -/
def KNOWN_NAMES : List String := DEFAULT_SOURCE_NAMES ++ ["galileo", "roughtime"]

/-- Two entries that name one server: the same known name, or `google` in both its spellings, or
`roughtime` beside one of its servers. -/
def SameServer (s t : String) : Prop :=
  (s = t ∧ s ∈ KNOWN_NAMES) ∨
    (s ∈ ["google", "galileo"] ∧ t ∈ ["google", "galileo"]) ∨
    (s = "roughtime" ∧ t ∈ ROUGHTIME_SERVERS.map RoughtimeServerConfig.name) ∨
    (t = "roughtime" ∧ s ∈ ROUGHTIME_SERVERS.map RoughtimeServerConfig.name)

instance (s t : String) : Decidable (SameServer s t) := by
  unfold SameServer
  infer_instance

theorem nodup_serverNames (s : String) : (serverNames s).Nodup := by
  unfold serverNames
  split_ifs
  · exact List.nodup_singleton _
  · decide
  · exact List.nodup_singleton _
  · exact List.nodup_nil

theorem mem_KNOWN_NAMES {s server : String} (h : server ∈ serverNames s) : s ∈ KNOWN_NAMES := by
  unfold serverNames at h
  split_ifs at h with hgalileo hroughtime hdefault
  · exact hgalileo ▸ by decide
  · exact hroughtime ▸ by decide
  · exact List.mem_append_left _ hdefault
  · exact absurd h List.not_mem_nil

theorem SameServer.known {s t : String} (h : SameServer s t) :
    s ∈ KNOWN_NAMES ∧ t ∈ KNOWN_NAMES := by
  have hgoogle : ∀ u ∈ ["google", "galileo"], u ∈ KNOWN_NAMES := by decide
  have hserver : ∀ u ∈ ROUGHTIME_SERVERS.map RoughtimeServerConfig.name, u ∈ KNOWN_NAMES := by
    decide
  have halias : "roughtime" ∈ KNOWN_NAMES := by decide
  obtain ⟨rfl, hs⟩ | ⟨hs, ht⟩ | ⟨rfl, ht⟩ | ⟨rfl, hs⟩ := h
  · exact ⟨hs, hs⟩
  · exact ⟨hgoogle s hs, hgoogle t ht⟩
  · exact ⟨halias, hserver t ht⟩
  · exact ⟨hserver s hs, halias⟩

/-- The entries with a server in common. -/
theorem exists_mem_serverNames_iff (s t : String) :
    (∃ server ∈ serverNames s, server ∈ serverNames t) ↔ SameServer s t := by
  have hknown : ∀ s ∈ KNOWN_NAMES, ∀ t ∈ KNOWN_NAMES,
      (∃ server ∈ serverNames s, server ∈ serverNames t) ↔ SameServer s t := by decide
  constructor
  · rintro ⟨server, hs, ht⟩
    exact (hknown s (mem_KNOWN_NAMES hs) t (mem_KNOWN_NAMES ht)).1 ⟨server, hs, ht⟩
  · exact fun h => (hknown s h.known.1 t h.known.2).2 h

/-- What the readings of some sources can be, each fulfilled or rejected. -/
def Answers (sources : List TimeSource) (results : List (Settled TimeReading)) : Prop :=
  List.Forall₂ (fun source result => ∀ r, result = .fulfilled r → source.Gives r) sources results

/-- Every server counts once: the sources have different names, and so have the readings that count
in a synthesis. -/
structure CountedOnce (sources : List TimeSource) : Prop where
  names : (sources.map TimeSource.name).Nodup
  readings {results : List (Settled TimeReading)} : Answers sources results →
    ((fulfilledValues results).map TimeReading.source).Nodup

/-- Readings have the names of the sources that they come from, in order. -/
theorem Answers.sublist {sources : List TimeSource} {results : List (Settled TimeReading)}
    (h : Answers sources results) :
    ((fulfilledValues results).map TimeReading.source).Sublist (sources.map TimeSource.name) := by
  induction h with
  | nil => exact .slnil
  | @cons source result sources results hgives hrest ih =>
    cases result with
    | fulfilled r =>
      rw [fulfilledValues, List.map_cons, List.map_cons, (hgives r rfl).source_eq]
      exact ih.cons_cons _
    | rejected reason => exact ih.cons _

/-- **When every server counts once**: if and only if no two entries of the list name the same
server. -/
theorem countedOnce_iff {fromBase64 : String → Buffer} {config : Option (List String)}
    {sources : List TimeSource} (h : constructSources fromBase64 config = .ok sources) :
    CountedOnce sources ↔
      (config.getD DEFAULT_SOURCE_NAMES).Pairwise fun s t => ¬ SameServer s t := by
  have hnames : (sources.map TimeSource.name).Nodup ↔
      (config.getD DEFAULT_SOURCE_NAMES).Pairwise fun s t => ¬ SameServer s t := by
    rw [map_name_constructSources h, List.nodup_flatMap,
      and_iff_right fun s _ => nodup_serverNames s]
    refine List.Pairwise.iff fun s t => ?_
    rw [← exists_mem_serverNames_iff]
    simp [Function.onFun, List.disjoint_left]
  exact ⟨fun hcounted => hnames.1 hcounted.names,
    fun hpairwise => ⟨hnames.2 hpairwise, fun hanswers => (hnames.2 hpairwise).sublist
      hanswers.sublist⟩⟩

theorem constructSources_nist_google (fromBase64 : String → Buffer) :
    constructSources fromBase64 (some ["nist", "google"]) =
      .ok [.https ⟨"nist", "https://time.nist.gov/"⟩,
        .https ⟨"google", "https://time.google.com/"⟩] :=
  rfl

/-- Two different servers. -/
theorem countedOnce_nist_google :
    CountedOnce [.https ⟨"nist", "https://time.nist.gov/"⟩,
        .https ⟨"google", "https://time.google.com/"⟩] ↔
      ["nist", "google"].Pairwise fun s t => ¬ SameServer s t :=
  countedOnce_iff (constructSources_nist_google fun _ => [])

/-- Every server counts once, whatever the list. -/
def ServersCountedOnce : Prop :=
  ∀ {fromBase64 : String → Buffer} {config : Option (List String)} {sources : List TimeSource},
    constructSources fromBase64 config = .ok sources → CountedOnce sources

/-- One server by its two names. -/
theorem not_serversCountedOnce : ¬ ServersCountedOnce := by
  intro h
  have hsources : constructSources (fun _ => []) (some ["google", "galileo"]) =
      .ok [.https ⟨"google", "https://time.google.com/"⟩,
        .https ⟨"google", "https://time.google.com/"⟩] := rfl
  exact absurd (h hsources).names (by decide)

end TimeSynthesis

end OpenTTT
