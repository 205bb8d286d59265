import OpenTTT.Plugin.PotCache

/-!
# Runs of the plugin

Whatever the actions do in any order, an entry of the cache was stored by the last generation of the
run that stores something under its key (`stored_of_mem`), and a token that is asked for was created
at most five minutes before, with the hash that is asked for or with that of the last token of the
agent (`foundIn_of_findToken`). The other
direction is `generated_retained`: a token is found by its hash for five minutes, through up to 499
further generations of any agents; and `generated_dropped` says that the next one may push it out.
-/

namespace OpenTTT

open ExpiringFifo (Reads Kept)

/-! ## What a call does to the cache -/

section Reads

variable {parse : String → Option PoTToken} {request : TokenRequest} {m : PotCache}

/-- The clock readings of a request. -/
def TokenRequest.readings (request : TokenRequest) : Set ℤ :=
  {request.hashNow, request.lastNow, request.lastHashNow}

variable (parse) in
theorem reads_cachedToken (now : ℤ) (hash : String) :
    Reads CacheEntry.expiresAt {now} m (cachedToken parse now m hash).2 := by
  rw [cachedToken, GeneratePot.potCacheGet_eq]
  exact .find _ .refl rfl

theorem reads_lastToken :
    Reads CacheEntry.expiresAt request.readings m (lastToken parse request m).2 := by
  have hlast : Reads CacheEntry.expiresAt request.readings m
      (GeneratePot.potCacheGet request.lastNow m (lastKey request.agent)).2 := by
    rw [GeneratePot.potCacheGet_eq]
    exact .find _ .refl (by simp [TokenRequest.readings])
  unfold lastToken
  dsimp only
  split
  · exact hlast.trans ((reads_cachedToken parse _ _).mono (by simp [TokenRequest.readings]))
  · exact hlast

theorem reads_findToken :
    Reads CacheEntry.expiresAt request.readings m (findToken parse request m).2 := by
  have hbyHash (hash : String) : Reads CacheEntry.expiresAt request.readings m
      (cachedToken parse request.hashNow m hash).2 :=
    (reads_cachedToken parse _ _).mono (by simp [TokenRequest.readings])
  unfold findToken
  cases request.resolvedHash with
  | none => exact reads_lastToken
  | some hash =>
    dsimp only
    split
    · exact hbyHash hash
    · exact (hbyHash hash).trans reads_lastToken

end Reads

/-- The clock readings at which a call looks into the cache. -/
def PluginCall.readings : PluginCall → Set ℤ
  | .generate _ => ∅
  | .query request _ => request.readings
  | .verify _ request _ => request.readings
  | .evaluate _ getNow _ => {getNow}
  | .cleanup now => {now}

namespace PotPlugin

variable {ed25519 : Ed25519} (self : PotPlugin ed25519)

/-- The entries of a generation. -/
def tokenEntry (g : Generation) (created : PoTToken × String) : String × CacheEntry :=
  (potKey created.1.potHash, ⟨created.2, g.setNow + 300 * 1000⟩)

def lastEntry (g : Generation) (created : PoTToken × String) : String × CacheEntry :=
  (lastKey g.agent, ⟨created.1.potHash, g.lastNow + 300 * 1000⟩)

variable {self} {m : PotCache}

theorem step_generate {g : Generation} {created : PoTToken × String}
    (hcreate : self.create g = .ok created) : (self.step m (.generate g)).2 =
      FifoMap.store GeneratePot.MAX_CACHE_SIZE
        (FifoMap.store GeneratePot.MAX_CACHE_SIZE m (tokenEntry g created))
        (lastEntry g created) := by
  obtain ⟨pot, text⟩ := created
  rw [step, generate, hcreate]
  rfl

/-- **What a call does to the cache**: a generation that succeeds stores its two entries, and
everything else looks up and purges. -/
theorem step_cases (c : PluginCall) :
    (∃ g created, c = .generate g ∧ self.create g = .ok created ∧
      (self.step m c).2 = FifoMap.store GeneratePot.MAX_CACHE_SIZE
        (FifoMap.store GeneratePot.MAX_CACHE_SIZE m (tokenEntry g created))
        (lastEntry g created)) ∨
    (∀ g created, c = .generate g → self.create g ≠ .ok created) ∧
      Reads CacheEntry.expiresAt c.readings m (self.step m c).2 := by
  cases c with
  | generate g =>
    cases hcreate : self.create g with
    | ok created => exact Or.inl ⟨g, created, rfl, hcreate, step_generate hcreate⟩
    | error e =>
      refine Or.inr ⟨fun g' created hg => ?_, ?_⟩
      · cases hg
        rw [hcreate]
        exact fun h => by cases h
      · rw [step, generate, hcreate]
        exact .refl
  | query request now => exact Or.inr ⟨(fun g created hg => by cases hg), reads_findToken⟩
  | verify pot request vt =>
    refine Or.inr ⟨(fun g created hg => by cases hg), ?_⟩
    cases pot with
    | some pot => exact .refl
    | none => exact reads_findToken
  | evaluate messageId getNow now =>
    refine Or.inr ⟨(fun g created hg => by cases hg), ?_⟩
    have hreads := reads_cachedToken self.json.parse (m := m) getNow (messageId.getD "undefined")
    unfold step PotEvaluator.handler
    dsimp only [Prod.map_snd]
    split <;> exact hreads
  | cleanup now => exact Or.inr ⟨(fun g created hg => by cases hg), .purge .refl rfl⟩

/-! ## Where entries come from -/

variable (self) in
/-- An entry is one of those that a generation stores. -/
def StoredBy (g : Generation) (e : String × CacheEntry) : Prop :=
  ∃ created, self.create g = .ok created ∧ (e = tokenEntry g created ∨ e = lastEntry g created)

variable (self) in
/-- The call is a generation that stores the entry. -/
def Puts (c : PluginCall) (e : String × CacheEntry) : Prop :=
  ∃ g, c = .generate g ∧ self.StoredBy g e

variable (self) in
/-- The call is a generation that stores something under the key of the entry. -/
def Overwrites (c : PluginCall) (e : String × CacheEntry) : Prop :=
  ∃ e', self.Puts c e' ∧ e'.1 = e.1

theorem mem_entries_step (m : PotCache) (c : PluginCall) (e : String × CacheEntry)
    (h : e ∈ (self.step m c).2.entries) :
    e ∈ m.entries ∧ ¬ self.Overwrites c e ∨ self.Puts c e := by
  rcases self.step_cases (m := m) c with
    ⟨g, created, rfl, hcreate, hstep⟩ | ⟨hfails, hreads⟩
  · rw [hstep] at h
    rcases ExpiringFifo.mem_entries_store h with hlast | ⟨hlast, h⟩
    · exact Or.inr ⟨g, rfl, created, hcreate, Or.inr hlast⟩
    rcases ExpiringFifo.mem_entries_store h with htoken | ⟨htoken, h⟩
    · exact Or.inr ⟨g, rfl, created, hcreate, Or.inl htoken⟩
    refine Or.inl ⟨h, ?_⟩
    rintro ⟨e', ⟨g', hg', created', hcreate', hstored⟩, hkey⟩
    cases hg'
    rw [hcreate] at hcreate'
    cases hcreate'
    rcases hstored with rfl | rfl
    · exact htoken hkey.symm
    · exact hlast hkey.symm
  · refine Or.inl ⟨hreads.mem_entries h, ?_⟩
    rintro ⟨e', ⟨g, rfl, created, hcreate, -⟩, -⟩
    exact hfails g created rfl hcreate

/-- **Every entry was stored by a generation** of the run, and by none after it under the same
key. -/
theorem stored_of_mem {cs : List PluginCall} {e : String × CacheEntry}
    (h : e ∈ (self.cacheAfter cs).entries) :
    ∃ before g later, cs = before ++ .generate g :: later ∧ self.StoredBy g e ∧
      ∀ d ∈ later, ¬ self.Overwrites d e := by
  rcases Mealy.exists_last_source_of_after self.step (fun m e => e ∈ m.entries)
    mem_entries_step h with hempty | ⟨before, c, later, hcs, ⟨g, rfl, hstored⟩, hlater⟩
  · simp at hempty
  · exact ⟨before, g, later, hcs, hstored, hlater⟩

theorem size_step_le (c : PluginCall) (h : m.size ≤ GeneratePot.MAX_CACHE_SIZE) :
    (self.step m c).2.size ≤ GeneratePot.MAX_CACHE_SIZE := by
  have hpos : 0 < GeneratePot.MAX_CACHE_SIZE := by decide
  rcases self.step_cases (m := m) c with ⟨g, created, -, -, hstep⟩ | ⟨-, hreads⟩
  · rw [hstep]
    exact ExpiringFifo.size_store_le hpos (ExpiringFifo.size_store_le hpos h _) _
  · exact hreads.size_le.trans h

theorem size_cacheAfter_le (cs : List PluginCall) :
    (self.cacheAfter cs).size ≤ GeneratePot.MAX_CACHE_SIZE := by
  induction cs using List.reverseRecOn with
  | nil => exact Nat.zero_le _
  | append_singleton cs c ih =>
    rw [cacheAfter, Mealy.after_concat]
    exact size_step_le c ih

/-! ## What is found -/

/-- What is found under a hash is a token of the run with that hash, not older than five minutes. -/
theorem of_cachedToken {cs : List PluginCall}
    (hsub : ∀ e ∈ m.entries, e ∈ (self.cacheAfter cs).entries) {now : ℤ} {hash : String}
    {pot : PoTToken} (h : (cachedToken self.json.parse now m hash).1 = some pot) :
    ∃ g created, .generate g ∈ cs ∧ self.create g = .ok created ∧
      self.json.parse created.2 = some pot ∧ created.1.potHash = hash ∧
      now ≤ g.setNow + 300 * 1000 := by
  simp only [cachedToken, GeneratePot.potCacheGet_eq, Option.bind_eq_some_iff,
    Option.filter_eq_some_iff, Option.map_eq_some_iff] at h
  obtain ⟨text, ⟨⟨entry, hfind, rfl⟩, -⟩, hparse⟩ := h
  obtain ⟨hmem, hnow⟩ := ExpiringFifo.of_find_eq_some hfind
  obtain ⟨before, g, later, rfl, ⟨created, hcreate, htoken | hlast⟩, -⟩ :=
    stored_of_mem (hsub _ hmem)
  · simp only [tokenEntry, Prod.mk.injEq] at htoken
    obtain ⟨hkey, rfl⟩ := htoken
    exact ⟨g, created, by simp, hcreate, hparse, (potKey_injective hkey).symm, hnow⟩
  · simp only [lastEntry, Prod.mk.injEq] at hlast
    exact absurd hlast.1 (potKey_ne_lastKey _ _)

variable (self) in
/-- The token is the last one of an agent in a run: none that is created after it is the agent's. -/
def LastOf (cs : List PluginCall) (agent : String) (g : Generation)
    (created : PoTToken × String) : Prop :=
  self.create g = .ok created ∧ g.agent = agent ∧
    ∃ before later, cs = before ++ .generate g :: later ∧
      ∀ g' created', .generate g' ∈ later → self.create g' = .ok created' → g'.agent ≠ agent

/-- The hash under an agent is that of its last token. -/
theorem of_lastHash {cs : List PluginCall}
    (hsub : ∀ e ∈ m.entries, e ∈ (self.cacheAfter cs).entries) {now : ℤ} {agent hash : String}
    (h : (GeneratePot.potCacheGet now m (lastKey agent)).1 = some hash) :
    ∃ g created, self.LastOf cs agent g created ∧ created.1.potHash = hash ∧
      now ≤ g.lastNow + 300 * 1000 := by
  simp only [GeneratePot.potCacheGet_eq, Option.map_eq_some_iff] at h
  obtain ⟨entry, hfind, rfl⟩ := h
  obtain ⟨hmem, hnow⟩ := ExpiringFifo.of_find_eq_some hfind
  obtain ⟨before, g, later, rfl, ⟨created, hcreate, htoken | hlast⟩, hlater⟩ :=
    stored_of_mem (hsub _ hmem)
  · simp only [tokenEntry, Prod.mk.injEq] at htoken
    exact absurd htoken.1.symm (potKey_ne_lastKey _ _)
  · simp only [lastEntry, Prod.mk.injEq] at hlast
    obtain ⟨hkey, rfl⟩ := hlast
    refine ⟨g, created, ⟨hcreate, (lastKey_injective hkey).symm, before, later, rfl, ?_⟩, rfl,
      hnow⟩
    -- a later token of the agent would have been stored in its place
    rintro g' created' hg' hcreate' rfl
    exact hlater _ hg' ⟨lastEntry g' created', ⟨g', rfl, created', hcreate', Or.inr rfl⟩, rfl⟩

variable (self) in
/-- The token is one that a generation of the run has created, at most five minutes before the
access that finds it: it has the hash that is asked for, or that of the last token of the agent that
asks. -/
def FoundIn (cs : List PluginCall) (request : TokenRequest) (pot : PoTToken) : Prop :=
  ∃ g created, .generate g ∈ cs ∧ self.create g = .ok created ∧
    self.json.parse created.2 = some pot ∧
    (request.resolvedHash = some created.1.potHash ∧ request.hashNow ≤ g.setNow + 300 * 1000 ∨
      request.lastHashNow ≤ g.setNow + 300 * 1000 ∧
        ∃ g' created', self.LastOf cs request.agent g' created' ∧
          created'.1.potHash = created.1.potHash ∧ request.lastNow ≤ g'.lastNow + 300 * 1000)

theorem foundIn_of_lastToken {cs : List PluginCall} {request : TokenRequest} {pot : PoTToken}
    (hsub : ∀ e ∈ m.entries, e ∈ (self.cacheAfter cs).entries)
    (h : (lastToken self.json.parse request m).1 = some pot) : self.FoundIn cs request pot := by
  unfold lastToken at h
  dsimp only at h
  split at h
  · rename_i hash hfilter
    obtain ⟨hash', -⟩ := Option.filter_eq_some_iff.1 hfilter
    obtain ⟨g', created', hlast, hhash, hnow'⟩ := of_lastHash hsub hash'
    have hsub' : ∀ e ∈ (GeneratePot.potCacheGet request.lastNow m
        (lastKey request.agent)).2.entries, e ∈ (self.cacheAfter cs).entries := by
      rw [GeneratePot.potCacheGet_eq]
      exact fun e he => hsub e (ExpiringFifo.mem_entries_find he)
    obtain ⟨g, created, hg, hcreate, hparse, hhash', hnow⟩ := of_cachedToken hsub' h
    exact ⟨g, created, hg, hcreate, hparse, Or.inr ⟨hnow, g', created', hlast,
      hhash.trans hhash'.symm, hnow'⟩⟩
  · cases h

theorem foundIn_of_findToken {cs : List PluginCall} {request : TokenRequest} {pot : PoTToken}
    (h : (findToken self.json.parse request (self.cacheAfter cs)).1 = some pot) :
    self.FoundIn cs request pot := by
  unfold findToken at h
  dsimp only at h
  split at h
  · rename_i pot' hbyHash
    cases h
    split at hbyHash
    · rename_i hash hresolved
      obtain ⟨g, created, hg, hcreate, hparse, rfl, hnow⟩ :=
        of_cachedToken (fun e he => he) hbyHash
      exact ⟨g, created, hg, hcreate, hparse, Or.inl ⟨hresolved, hnow⟩⟩
    · cases hbyHash
  · refine foundIn_of_lastToken (fun e he => ?_) h
    -- the cache at the access is the one after the run, with less in it
    split at he
    · exact (reads_cachedToken self.json.parse _ _).mem_entries he
    · exact he

/-- **What the plugin finds.** In every state of a process the cache holds at most 1000 entries, and
a token that `QUERY_POT` returns or `VERIFY_POT` reports on, unless it was given one, is a token
created in this process, stored at most five minutes before, that has the hash asked for or that of
the last token of the agent. -/
theorem plugin_finds_recent (self : PotPlugin ed25519) (cs : List PluginCall) :
    (self.cacheAfter cs).size ≤ 1000 ∧
    (∀ request now result pot, (self.step (self.cacheAfter cs) (.query request now)).1 =
      .queried result → result.data = some pot → self.FoundIn cs request pot) ∧
    ∀ request vt result report pot, (self.step (self.cacheAfter cs) (.verify none request vt)).1 =
      .verified result → result.data = some report → report.pot = some pot →
      self.FoundIn cs request pot := by
  refine ⟨size_cacheAfter_le cs, ?_, ?_⟩
  · intro request now result pot hout hdata
    obtain rfl : QueryPot.result _ now = result := PluginOutput.queried.inj hout
    rw [QueryPot.data_result] at hdata
    exact foundIn_of_findToken hdata
  · intro request vt result report pot hout hdata hpot
    obtain rfl : VerifyPot.handler ed25519 _ vt = result := PluginOutput.verified.inj hout
    exact foundIn_of_findToken (VerifyPot.eq_some_of_data hdata hpot)

/-! ### A process with one token -/

namespace Sample

open PotToken.Sample

/-- The text of the token, on a host that writes the seconds of a signature as a text. -/
@[irreducible] def tokenText : String :=
  "\x7b\"version\":\"1.0\",\"timestamp\":1700000000000,\"sources\":[\"NIST\",\"Apple\"," ++
    "\"Google\",\"Cloudflare\"],\"consensus\":true,\"deviation_ms\":0," ++
    "\"agent_id\":\"agent-7\",\"nonce\":\"" ++ nonce ++
    "\",\"potHash\":\"" ++ PotSigner.Sample.potHash ++
    "\",\"issued_at\":\"2023-11-14T22:13:20.000Z\",\"signature\":\x7b\"issuerPubKey\":\"" ++
    PotSigner.Sample.signer.pubKeyHex ++ "\",\"signature\":\"" ++
    (PotSigner.Sample.signer.signPot PotSigner.Sample.potHash 1700000000000).signature ++
    "\",\"issuedAt\":\"1700000000\"\x7d\x7d"

def stringify (pot : PoTToken) : Except String String :=
  .ok (if pot = token "agent-7" then tokenText else "another token")

def parse (text : String) : Option PoTToken :=
  if text = tokenText then some (token "agent-7") else none

def plugin : PotPlugin PotSigner.Sample.onePair :=
  ⟨PotSigner.Sample.signer, PotToken.Sample.sha256, ⟨stringify, parse⟩⟩

/-- The same process on a host that cannot write a bigint. -/
def withoutToJSON : PotPlugin PotSigner.Sample.onePair :=
  ⟨PotSigner.Sample.signer, PotToken.Sample.sha256,
    ⟨fun _ => .error "Do not know how to serialize a BigInt", fun _ => none⟩⟩

def generation : Generation :=
  ⟨some "agent-7", verifiedTime, nonce, 1700000000000, 1700000000001, 1700000000002⟩

theorem create_generation :
    plugin.create generation = .ok (token "agent-7", tokenText) := by
  have hpot : GeneratePot.createPot plugin.sha256 plugin.signer generation.agentId generation.vt
      generation.nonce generation.now = .ok (token "agent-7") :=
    GeneratePot.createPot_of_handler data_handler
  have htext : plugin.json.stringify (token "agent-7") = .ok tokenText := by
    rw [show plugin.json.stringify = stringify from rfl, stringify, if_pos rfl]
  rw [create, hpot, ok_bind, htext, ok_bind]

/-- A generation of another agent, half a minute later. -/
def otherGeneration : Generation :=
  ⟨some "agent-8", verifiedTime, nonce, 1700000030000, 1700000030001, 1700000030002⟩

/-- The hash of its token is another one. -/
theorem potHash_ne {created : PoTToken × String}
    (h : plugin.create otherGeneration = .ok created) :
    created.1.potHash ≠ (token "agent-7").potHash := by
  have hne : Buffer.toHex (plugin.sha256 (GeneratePot.potHashRaw "agent-8" verifiedTime.timestamp
      verifiedTime.sources nonce)).toList ≠ (token "agent-7").potHash := by
    decide +kernel
  obtain ⟨pot, hpot, h⟩ := bind_eq_ok.1 h
  obtain ⟨text, -, h⟩ := bind_eq_ok.1 h
  cases h
  obtain ⟨issuedAt, -, hpot⟩ := bind_eq_ok.1 hpot
  cases hpot
  exact hne

theorem parse_tokenText : parse tokenText = some (token "agent-7") := by
  rw [parse, if_pos rfl]

theorem tokenText_ne_empty : tokenText ≠ "" := by
  intro h
  have hlength := congrArg String.length h
  simp [tokenText] at hlength

/-- A request for the token by another agent, a minute later. -/
def request : TokenRequest :=
  ⟨some "agent-8", some PotSigner.Sample.potHash, none, 1700000060000, 1700000060000,
    1700000060000⟩

end Sample

/-! ## What is kept -/

variable (self) in
/-- Whether a call is a generation that succeeds. -/
def succeeds : PluginCall → Bool
  | .generate g => (self.create g).isOk
  | _ => false

variable (self) in
/-- No generation of the run creates a token with the hash. -/
def Fresh (cs : List PluginCall) (hash : String) : Prop :=
  ∀ g, .generate g ∈ cs → ∀ created, self.create g = .ok created → created.1.potHash ≠ hash

theorem potKey_notMem_keys {cs : List PluginCall} {hash : String} (h : self.Fresh cs hash) :
    potKey hash ∉ (self.cacheAfter cs).keys := by
  intro hmem
  obtain ⟨e, he, hkey⟩ := List.mem_map.1 hmem
  obtain ⟨before, g, later, rfl, ⟨created, hcreate, rfl | rfl⟩, -⟩ := stored_of_mem he
  · exact h g (by simp) created hcreate (potKey_injective hkey)
  · exact potKey_ne_lastKey _ _ hkey.symm

/-- A call puts at most two entries behind one. -/
theorem kept_step {n : ℕ} {hash : String} {t : ℤ} {c : PluginCall}
    (h : Kept CacheEntry.expiresAt n (potKey hash) t m)
    (hn : n + 2 * [c].countP self.succeeds < 1000) (hfresh : self.Fresh [c] hash)
    (hreadings : ∀ now ∈ c.readings, now ≤ t) :
    Kept CacheEntry.expiresAt (n + 2 * [c].countP self.succeeds) (potKey hash) t
      (self.step m c).2 := by
  rcases self.step_cases (m := m) c with ⟨g, created, rfl, hcreate, hstep⟩ | ⟨-, hreads⟩
  · have hcount : [PluginCall.generate g].countP self.succeeds = 1 := by
      simp [succeeds, hcreate, Except.isOk, Except.toBool]
    rw [hcount] at hn ⊢
    rw [hstep]
    have htoken := h.store (show n + 1 < GeneratePot.MAX_CACHE_SIZE by
      unfold GeneratePot.MAX_CACHE_SIZE
      omega) (s := tokenEntry g created) fun hkey =>
        absurd (potKey_injective hkey) (hfresh g (by simp) created hcreate)
    exact htoken.store hn fun hkey => absurd hkey.symm (potKey_ne_lastKey _ _)
  · exact (h.reads hreads hreadings).mono (Nat.le_add_right _ _)

theorem kept_after {n : ℕ} {hash : String} {t : ℤ} {ds : List PluginCall}
    (h : Kept CacheEntry.expiresAt n (potKey hash) t m)
    (hn : n + 2 * ds.countP self.succeeds < 1000) (hfresh : self.Fresh ds hash)
    (hreadings : ∀ c ∈ ds, ∀ now ∈ c.readings, now ≤ t) :
    Kept CacheEntry.expiresAt (n + 2 * ds.countP self.succeeds) (potKey hash) t
      (Mealy.after self.step m ds) := by
  induction ds generalizing n m with
  | nil => exact h
  | cons c ds ih =>
    have hcount : (c :: ds).countP self.succeeds =
        [c].countP self.succeeds + ds.countP self.succeeds := by
      rw [← List.countP_append, List.singleton_append]
    rw [hcount, Nat.mul_add, ← Nat.add_assoc] at hn ⊢
    have hstep := kept_step h (by omega) (fun g hg => hfresh g (by simp_all))
      (hreadings c List.mem_cons_self)
    exact ih hstep hn (fun g hg => hfresh g (List.mem_cons_of_mem c hg))
      fun d hd => hreadings d (List.mem_cons_of_mem c hd)

/-- The entry of a token is found by its hash after the generation and any such calls. -/
theorem findToken_of_generated {cs ds : List PluginCall} {g : Generation}
    {created : PoTToken × String} {pot : PoTToken} (hcreate : self.create g = .ok created)
    (hparse : self.json.parse created.2 = some pot) (htext : created.2 ≠ "")
    (hfresh : self.Fresh (cs ++ ds) created.1.potHash) (hfew : ds.countP self.succeeds ≤ 499)
    (hreadings : ∀ c ∈ ds, ∀ now ∈ c.readings, now ≤ g.setNow + 300 * 1000)
    {request : TokenRequest} (hresolved : request.resolvedHash = some created.1.potHash)
    (hnow : request.hashNow ≤ g.setNow + 300 * 1000) :
    (findToken self.json.parse request (self.cacheAfter (cs ++ .generate g :: ds))).1 =
      some pot := by
  have hkept : Kept CacheEntry.expiresAt (1 + 2 * ds.countP self.succeeds)
      (potKey created.1.potHash) (g.setNow + 300 * 1000)
      (self.cacheAfter (cs ++ .generate g :: ds)) := by
    rw [cacheAfter, Mealy.after_append, Mealy.after_cons, step_generate hcreate]
    refine kept_after ?_ (by omega) (fun g' hg' => hfresh g' (List.mem_append_right cs hg'))
      hreadings
    have hnew := potKey_notMem_keys fun g' hg' => hfresh g' (List.mem_append_left ds hg')
    have htoken : Kept CacheEntry.expiresAt 0 (potKey created.1.potHash) (g.setNow + 300 * 1000)
        (FifoMap.store GeneratePot.MAX_CACHE_SIZE (Mealy.after self.step .empty cs)
          (tokenEntry g created)) := ExpiringFifo.kept_store_self hnew (Int.le_refl _)
    exact htoken.store (by decide) fun hkey => absurd hkey.symm (potKey_ne_lastKey _ _)
  obtain ⟨entry, hfind, hmem⟩ := hkept.find_eq_some hnow
  -- only this generation stores a token with the hash
  obtain ⟨before, g', later, hrun, ⟨created', hcreate', htoken | hlast⟩, -⟩ := stored_of_mem hmem
  have hg' : .generate g' ∈ cs ++ .generate g :: ds := by simp [hrun]
  · simp only [tokenEntry, Prod.mk.injEq] at htoken
    obtain ⟨hkey, rfl⟩ := htoken
    have hhash := potKey_injective hkey
    obtain rfl : g' = g := by
      by_contra hne
      refine hfresh g' ?_ created' hcreate' hhash.symm
      simpa [hne] using hg'
    rw [hcreate] at hcreate'
    cases hcreate'
    have hcached : cachedToken self.json.parse request.hashNow
        (self.cacheAfter (cs ++ .generate g' :: ds)) created.1.potHash =
        (some pot, self.cacheAfter (cs ++ .generate g' :: ds)) := by
      rw [cachedToken, GeneratePot.potCacheGet_eq, hfind]
      simp [Option.filter, htext, hparse]
    simp only [findToken, hresolved, hcached]
  · simp only [lastEntry, Prod.mk.injEq] at hlast
    exact absurd hlast.1 (potKey_ne_lastKey _ _)

/-- What is left of a token that was made a text and read back, whatever becomes of the time of its
signature. -/
structure ReadBack (pot pot' : PoTToken) : Prop where
  potHash_eq : pot'.potHash = pot.potHash
  timestamp_eq : pot'.timestamp = pot.timestamp
  signature_eq : pot'.signature.map (fun s => (s.issuerPubKey, s.signature)) =
    pot.signature.map fun s => (s.issuerPubKey, s.signature)

/-- The signature of a token that was read back verifies. -/
theorem ReadBack.verifies {g : Generation} {created : PoTToken × String} {pot : PoTToken}
    (hback : ReadBack created.1 pot) (hcreate : self.create g = .ok created)
    (hideal : ed25519.Ideal {PotSigner.dataOf created.1.potHash}) :
    ∃ signature, pot.signature = some signature ∧
      PotSigner.verifyPotSignature ed25519 pot.potHash signature = true := by
  obtain ⟨token, htoken, hcreate⟩ := bind_eq_ok.1 hcreate
  obtain ⟨text, -, hcreate⟩ := bind_eq_ok.1 hcreate
  cases hcreate
  have hsigned := GeneratePot.signature_of_createPot htoken
  have hparts := hback.signature_eq
  rw [hsigned, Option.map_some, Option.map_eq_some_iff] at hparts
  obtain ⟨signature, hsignature, hpair⟩ := hparts
  rw [Prod.mk.injEq] at hpair
  refine ⟨signature, hsignature, ?_⟩
  have hideal : ed25519.Ideal
      {PotSigner.dataOf token.potHash, PotSigner.dataOf token.potHash} := by
    rwa [Set.pair_eq_singleton]
  have hverify : PotSigner.verifyPotSignature ed25519 token.potHash
      (self.signer.signPot token.potHash g.now) = _ :=
    PotSigner.verifyPotSignature_signPot self.signer hideal
  rw [decide_eq_true rfl] at hverify
  rw [hback.potHash_eq]
  simp only [PotSigner.verifyPotSignature, hpair.1, hpair.2] at hverify ⊢
  exact hverify

/-- **A token is kept for five minutes**, through up to 499 further generations of any agents and
any other calls: `QUERY_POT` returns it by its hash, and `VERIFY_POT` finds it and lets its age
decide. -/
theorem generated_retained (self : PotPlugin ed25519) {cs ds : List PluginCall} {g : Generation}
    {created : PoTToken × String} {pot : PoTToken} (hcreate : self.create g = .ok created)
    (hparse : self.json.parse created.2 = some pot) (hback : ReadBack created.1 pot)
    (htext : created.2 ≠ "") (hideal : ed25519.Ideal {PotSigner.dataOf created.1.potHash})
    (hfresh : self.Fresh (cs ++ ds) created.1.potHash) (hfew : ds.countP self.succeeds ≤ 499)
    (hreadings : ∀ c ∈ ds, ∀ now ∈ c.readings, now ≤ g.setNow + 300 * 1000)
    {request : TokenRequest} (hresolved : request.resolvedHash = some created.1.potHash)
    (hnow : request.hashNow ≤ g.setNow + 300 * 1000) :
    (∀ now, (self.step (self.cacheAfter (cs ++ .generate g :: ds)) (.query request now)).1 =
      .queried (QueryPot.result (some pot) now)) ∧
    ∀ vt, ∃ result, (self.step (self.cacheAfter (cs ++ .generate g :: ds))
        (.verify none request vt)).1 = .verified result ∧
      VerifyPot.reported result =
        some (!(VerifyPot.POT_MAX_AGE_MS.lt (vt.timestamp.sub created.1.timestamp) ||
          (vt.timestamp.sub created.1.timestamp).lt (.finite 0))) := by
  have hfound := findToken_of_generated hcreate hparse htext hfresh hfew hreadings hresolved hnow
  constructor
  · intro now
    simp only [step, QueryPot.handler, hfound, Prod.map_fst]
  · intro vt
    refine ⟨VerifyPot.handler ed25519 (some pot) vt, ?_, ?_⟩
    · simp only [step, verify, hfound, Prod.map_fst]
    · obtain ⟨signature, hsome, hverify⟩ := hback.verifies hcreate hideal
      rw [VerifyPot.reported_handler_of_verifies hsome hverify, hback.timestamp_eq]

/-- A token a minute after its generation, after another generation and a cleanup. -/
theorem generated_retained_sample :
    (∀ now, (Sample.plugin.step (Sample.plugin.cacheAfter
        ([] ++ .generate Sample.generation ::
          [.generate Sample.otherGeneration, .cleanup 1700000059000]))
        (.query Sample.request now)).1 =
      .queried (QueryPot.result (some (PotToken.Sample.token "agent-7")) now)) ∧
    ∀ vt, ∃ result, (Sample.plugin.step (Sample.plugin.cacheAfter
        ([] ++ .generate Sample.generation ::
          [.generate Sample.otherGeneration, .cleanup 1700000059000]))
        (.verify none Sample.request vt)).1 = .verified result ∧
      VerifyPot.reported result =
        some (!(VerifyPot.POT_MAX_AGE_MS.lt (vt.timestamp.sub
            (PotToken.Sample.token "agent-7").timestamp) ||
          (vt.timestamp.sub (PotToken.Sample.token "agent-7").timestamp).lt (.finite 0))) := by
  refine generated_retained Sample.plugin Sample.create_generation Sample.parse_tokenText
    ⟨rfl, rfl, rfl⟩ Sample.tokenText_ne_empty PotToken.Sample.ideal ?_
    (List.countP_le_length.trans (by decide)) ?_ rfl (by decide)
  · intro g hg created hcreate
    obtain rfl : g = Sample.otherGeneration := by simpa using hg
    exact Sample.potHash_ne hcreate
  · intro c hc now hnow
    simp only [List.mem_cons, List.not_mem_nil, or_false] at hc
    rcases hc with rfl | rfl
    · cases hnow
    · obtain rfl : now = 1700000059000 := hnow
      decide

/-! ## What is pushed out -/

/-- The entries that some generations store. -/
def entriesOf (gs : List (Generation × PoTToken × String)) : List (String × CacheEntry) :=
  gs.flatMap fun p => [tokenEntry p.1 p.2, lastEntry p.1 p.2]

theorem after_generations {gs : List (Generation × PoTToken × String)}
    (hcreate : ∀ p ∈ gs, self.create p.1 = .ok p.2) :
    Mealy.after self.step m (gs.map fun p => .generate p.1) =
      (entriesOf gs).foldl (FifoMap.store GeneratePot.MAX_CACHE_SIZE) m := by
  induction gs generalizing m with
  | nil => rfl
  | cons p gs ih =>
    rw [List.map_cons, Mealy.after_cons, step_generate (hcreate p List.mem_cons_self),
      ih fun q hq => hcreate q (List.mem_cons_of_mem p hq)]
    rfl

theorem length_entriesOf (gs : List (Generation × PoTToken × String)) :
    (entriesOf gs).length = 2 * gs.length := by
  induction gs with
  | nil => rfl
  | cons p gs ih =>
    rw [entriesOf, List.flatMap_cons, List.length_append, ← entriesOf, ih, List.length_cons,
      List.length_cons, List.length_cons, List.length_nil]
    omega

/-- The generations are of different agents, and their tokens have different hashes. -/
structure Distinct (gs : List (Generation × PoTToken × String)) : Prop where
  hashes : (gs.map fun p => p.2.1.potHash).Nodup
  agents : (gs.map fun p => p.1.agent).Nodup

theorem mem_keys_entriesOf {gs : List (Generation × PoTToken × String)} {key : String} :
    key ∈ (entriesOf gs).map Prod.fst ↔
      ∃ p ∈ gs, key = potKey p.2.1.potHash ∨ key = lastKey p.1.agent := by
  simp only [entriesOf, List.map_flatMap, List.mem_flatMap, List.map_cons, List.map_nil,
    List.mem_cons, List.not_mem_nil, or_false, tokenEntry, lastEntry]

theorem nodup_keys_entriesOf {gs : List (Generation × PoTToken × String)} (h : Distinct gs) :
    ((entriesOf gs).map Prod.fst).Nodup := by
  induction gs with
  | nil => exact List.nodup_nil
  | cons p gs ih =>
    obtain ⟨hhashes, hagents⟩ := h
    rw [List.map_cons, List.nodup_cons] at hhashes hagents
    have hhash : potKey p.2.1.potHash ∉ (entriesOf gs).map Prod.fst := by
      rw [mem_keys_entriesOf]
      rintro ⟨q, hq, hkey | hkey⟩
      · refine hhashes.1 (List.mem_map.2 ⟨q, hq, (potKey_injective hkey).symm⟩)
      · exact potKey_ne_lastKey _ _ hkey
    have hagent : lastKey p.1.agent ∉ (entriesOf gs).map Prod.fst := by
      rw [mem_keys_entriesOf]
      rintro ⟨q, hq, hkey | hkey⟩
      · exact potKey_ne_lastKey _ _ hkey.symm
      · refine hagents.1 (List.mem_map.2 ⟨q, hq, (lastKey_injective hkey).symm⟩)
    have hcons : (entriesOf (p :: gs)).map Prod.fst =
        potKey p.2.1.potHash :: lastKey p.1.agent :: (entriesOf gs).map Prod.fst := rfl
    rw [hcons, List.nodup_cons, List.nodup_cons, List.mem_cons, not_or]
    exact ⟨⟨potKey_ne_lastKey _ _, hhash⟩, hagent, ih ⟨hhashes.2, hagents.2⟩⟩

/-- **A token is pushed out** by 500 further generations of other agents, so that the number of
those through which it is kept is the exact one. -/
theorem generated_dropped (self : PotPlugin ed25519) {cs : List PluginCall} {hash : String}
    {gs : List (Generation × PoTToken × String)} (hcreate : ∀ p ∈ gs, self.create p.1 = .ok p.2)
    (hdistinct : Distinct gs) (hmany : 500 ≤ gs.length)
    (hfresh : ∀ p ∈ gs, self.Fresh cs p.2.1.potHash)
    (hother : ∀ p ∈ gs, ∀ g, .generate g ∈ cs → g.agent ≠ p.1.agent)
    (hthere : potKey hash ∈ (self.cacheAfter cs).keys) (request : TokenRequest)
    (hresolved : request.resolvedHash = some hash) :
    findToken self.json.parse request
        (self.cacheAfter (cs ++ gs.map fun p => .generate p.1)) =
      lastToken self.json.parse request
        (self.cacheAfter (cs ++ gs.map fun p => .generate p.1)) := by
  have hnew : ((self.cacheAfter cs).keys ++ (entriesOf gs).map Prod.fst).Nodup := by
    refine List.nodup_append.2 ⟨(self.cacheAfter cs).nodup_keys, nodup_keys_entriesOf hdistinct, ?_⟩
    rintro key hkey _ hkey' rfl
    obtain ⟨p, hp, rfl | rfl⟩ := mem_keys_entriesOf.1 hkey'
    · exact potKey_notMem_keys (hfresh p hp) hkey
    · obtain ⟨e, he, heq⟩ := List.mem_map.1 hkey
      obtain ⟨before, g, later, rfl, ⟨created, -, rfl | rfl⟩, -⟩ := stored_of_mem he
      · exact potKey_ne_lastKey _ _ heq
      · exact hother p hp g (by simp) (lastKey_injective heq)
  have hgone : potKey hash ∉ (self.cacheAfter (cs ++ gs.map fun p => .generate p.1)).keys := by
    rw [cacheAfter, Mealy.after_append, after_generations hcreate]
    refine ExpiringFifo.notMem_keys_foldl_store (by decide) (size_cacheAfter_le cs) hnew ?_ hthere
    rw [length_entriesOf, GeneratePot.MAX_CACHE_SIZE]
    omega
  have hcached : cachedToken self.json.parse request.hashNow
      (self.cacheAfter (cs ++ gs.map fun p => .generate p.1)) hash =
      (none, self.cacheAfter (cs ++ gs.map fun p => .generate p.1)) := by
    rw [cachedToken, GeneratePot.potCacheGet_eq, ExpiringFifo.find_eq_none_of_notMem hgone]
    rfl
  simp only [findToken, hresolved, hcached]

/-! ## What is never found -/

/-- The hash of a token has 64 digits. -/
theorem length_potHash {g : Generation} {created : PoTToken × String}
    (hcreate : self.create g = .ok created) : created.1.potHash.toList.length = 64 := by
  obtain ⟨token, htoken, hcreate⟩ := bind_eq_ok.1 hcreate
  obtain ⟨text, -, hcreate⟩ := bind_eq_ok.1 hcreate
  obtain ⟨issuedAt, -, htoken⟩ := bind_eq_ok.1 htoken
  cases hcreate
  cases htoken
  rw [Buffer.length_toHex, Vector.length_toList]

/-- **The evaluator covers no message by its id.** It asks for a token under the id of the message,
where only hashes are stored: for an id of any other length than that of a hash, such as a UUID, it
warns in every state of the process, whatever has been generated. -/
theorem evaluator_warns (self : PotPlugin ed25519) (cs : List PluginCall)
    (messageId : Option String) (hid : ∀ id, messageId = some id → id.toList.length ≠ 64)
    (getNow now : ℤ) :
    (self.step (self.cacheAfter cs) (.evaluate messageId getNow now)).1 =
      .logged PotEvaluator.warningLine := by
  have hnone : (cachedToken self.json.parse getNow (self.cacheAfter cs)
      (messageId.getD "undefined")).1 = none := by
    by_contra hsome
    obtain ⟨pot, hpot⟩ := Option.ne_none_iff_exists'.1 hsome
    obtain ⟨g, created, -, hcreate, -, hhash, -⟩ := of_cachedToken (fun e he => he) hpot
    have hlength := length_potHash hcreate
    rw [hhash] at hlength
    cases messageId with
    | none => exact absurd hlength (by decide)
    | some id => exact hid id rfl hlength
  unfold step PotEvaluator.handler
  simp only [hnone, Prod.map_fst]

/-- A message with a UUID, after a token was generated. -/
theorem evaluator_warns_uuid :
    (Sample.plugin.step (Sample.plugin.cacheAfter [.generate Sample.generation])
        (.evaluate (some "1b4e28ba-2fa1-11d2-883f-0016d3cca427") 1700000060000 1700000060000)).1 =
      .logged PotEvaluator.warningLine :=
  evaluator_warns Sample.plugin _ _ (by
    rintro id ⟨⟩
    decide) _ _

/-- **Without a `toJSON` of bigints** no token can be made a text, and the plugin does nothing in
any run: the cache stays empty, every generation and every query fails, and so does every
verification of a token that is not given. -/
theorem plugin_without_toJSON (self : PotPlugin ed25519)
    (hstringify : ∀ pot, ∃ e, self.json.stringify pot = .error e) (cs : List PluginCall) :
    self.cacheAfter cs = .empty ∧
    (∀ g, ∃ e, (self.step (self.cacheAfter cs) (.generate g)).1 =
      .generated { success := false, error := some e }) ∧
    (∀ request now, (self.step (self.cacheAfter cs) (.query request now)).1 =
      .queried (QueryPot.result none now)) ∧
    ∀ request vt, (self.step (self.cacheAfter cs) (.verify none request vt)).1 =
      .verified (VerifyPot.handler ed25519 none vt) := by
  have hcreate (g : Generation) : ∃ e, self.create g = .error e := by
    unfold create
    cases GeneratePot.createPot self.sha256 self.signer g.agentId g.vt g.nonce g.now with
    | error e => exact ⟨e, rfl⟩
    | ok pot =>
      obtain ⟨e, he⟩ := hstringify pot
      exact ⟨e, by rw [ok_bind, he]; rfl⟩
  have hempty : self.cacheAfter cs = .empty := by
    apply InsertionMap.ext
    rw [InsertionMap.entries_empty, List.eq_nil_iff_forall_not_mem]
    intro e he
    obtain ⟨before, g, later, -, ⟨created, hcreated, -⟩, -⟩ := stored_of_mem he
    obtain ⟨error, herror⟩ := hcreate g
    rw [herror] at hcreated
    cases hcreated
  have hnone (request : TokenRequest) :
      (findToken self.json.parse request (self.cacheAfter cs)).1 = none := by
    by_contra hsome
    obtain ⟨pot, hpot⟩ := Option.ne_none_iff_exists'.1 hsome
    obtain ⟨g, created, -, hcreated, -⟩ := foundIn_of_findToken hpot
    obtain ⟨error, herror⟩ := hcreate g
    rw [herror] at hcreated
    cases hcreated
  refine ⟨hempty, fun g => ?_, fun request now => ?_, fun request vt => ?_⟩
  · obtain ⟨e, he⟩ := hcreate g
    refine ⟨e, ?_⟩
    rw [step, generate, he]
    rfl
  · unfold step QueryPot.handler
    simp only [hnone, Prod.map_fst]
  · unfold step verify
    simp only [hnone, Prod.map_fst]

/-- A process that has been asked for a token. -/
theorem plugin_without_toJSON_sample :
    Sample.withoutToJSON.cacheAfter [.generate Sample.generation] = .empty :=
  (plugin_without_toJSON Sample.withoutToJSON (fun _ => ⟨_, rfl⟩) _).1

end PotPlugin

end OpenTTT
