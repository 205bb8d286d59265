import OpenTTT.Foundations.Mealy
import OpenTTT.Foundations.Throwing
import OpenTTT.Foundations.Unicode
import OpenTTT.Runtime.Errors

/-!
# The connection of the chain connector

`connect`, `reconnect`, `disconnect` and `isConnected` of `evm_connector.ts`. A call that throws
keeps what it has written so far, so a call is a computation with exceptions over a state that
outlives them. Providers are objects: the connector holds a reference to one of those made so far,
each of which records whether its `getNetwork` has succeeded. What the provider library, the signer
and the endpoint answer to the attempts of a call is an input of the call.

`isConnected_honest_iff` says in which runs `isConnected` is only true of a provider that has
answered: `connect` replaces the provider before it knows that the new one answers and leaves
`connected` as it was when none does, where `reconnect` clears it.
-/

namespace OpenTTT

/-- What a call is rejected with: an error of the classes that `connect` tells apart, or anything
else, of which only the text is read. -/
inductive Rejection
  | contractError (e : TTTBaseError)
  | networkError (e : TTTBaseError)
  | other (text : String)
  deriving DecidableEq

namespace Rejection

/-- `error instanceof TTTContractError || error instanceof TTTNetworkError`. -/
def isTTTError : Rejection → Bool
  | contractError _ => true
  | networkError _ => true
  | other _ => false

/-- `error instanceof Error ? error.message : String(error)`. -/
def text : Rejection → String
  | contractError e => e.text
  | networkError e => e.text
  | other text => text

end Rejection

/-- A `JsonRpcProvider`, with whether its `getNetwork` has succeeded. -/
structure JsonRpcProvider where
  url : String
  answered : Bool
  deriving DecidableEq

/-- The credentials: a private key, or a signer, which need not have a `connect`. -/
inductive SignerOrKey
  | key (privateKey : String)
  | signer (hasConnect : Bool)
  deriving DecidableEq

/-- The signer that the connector holds, with the provider that it was connected to. -/
structure ConnectedSigner where
  source : SignerOrKey
  provider : Option ℕ
  deriving DecidableEq

structure EVMConnector where
  provider : Option ℕ
  signer : Option ConnectedSigner
  primaryRpcUrl : String
  fallbackRpcUrls : List String
  signerOrKey : Option SignerOrKey
  maxReconnectAttempts : ℕ
  connected : Bool
  deriving DecidableEq

namespace EVMConnector

/-- A connector and the providers made so far. -/
structure Session where
  connector : EVMConnector
  providers : List JsonRpcProvider
  deriving DecidableEq

/-- The constructor. -/
def new (fallbackRpcUrls : Option (List String)) (maxReconnectAttempts : Option ℕ) : Session where
  connector :=
    { provider := none
      signer := none
      primaryRpcUrl := ""
      fallbackRpcUrls := fallbackRpcUrls.getD []
      signerOrKey := none
      maxReconnectAttempts := maxReconnectAttempts.getD 3
      connected := false }
  providers := []

/-- What is answered in one attempt: by the constructor of the provider, by the wallet or the
`connect` of the signer, and by `getNetwork`, the chain id. -/
structure Attempt where
  created : Except Rejection Unit
  signed : Except Rejection Unit
  network : Except Rejection ℕ

/-! ## The calls -/

open Throwing Throwing.Task

def isConnected (c : EVMConnector) : Bool := c.connected && c.provider.isSome

/-- Writes fields of the connector. -/
def assign (f : EVMConnector → EVMConnector) : Task Rejection Session Unit :=
  write fun s => { s with connector := f s.connector }

/-- `this.provider = new JsonRpcProvider(url)`. -/
def newProvider (url : String) (a : Attempt) : Task Rejection Session Unit := do
  answer a.created
  write fun s =>
    { connector := { s.connector with provider := some s.providers.length }
      providers := s.providers ++ [⟨url, false⟩] }

/-- The error of a key of the wrong form. -/
def invalidKeyFormat : TTTBaseError :=
  .ofCode "TTT_E037" "[EVM] Invalid Private Key format" "Private key must be 0x + 64 hex characters"
    "Provide a valid 32-byte hex private key."

/-- The test of a key that `connect` makes at its first attempt only. -/
def checkKeyFormat : SignerOrKey → Except Rejection Unit
  | .key k =>
    if !k.startsWith "0x" || (Unicode.utf16 k.toList).length != 66 then
      .error (.contractError invalidKeyFormat)
    else .ok ()
  | .signer _ => .ok ()

/-- What making the signer ends in: a signer without a `connect` is taken as it is. -/
def signerAnswer (signerOrKey : SignerOrKey) (a : Attempt) : Except Rejection Unit :=
  match signerOrKey with
  | .signer false => .ok ()
  | _ => a.signed

/-- `this.signer = ...`. -/
def setSigner (signerOrKey : SignerOrKey) (a : Attempt) : Task Rejection Session Unit := do
  answer (signerAnswer signerOrKey a)
  assign fun c =>
    match signerOrKey with
    | .signer false => { c with signer := some ⟨signerOrKey, none⟩ }
    | _ => { c with signer := some ⟨signerOrKey, c.provider⟩ }

/-- The provider at a reference has answered. -/
def markAnswered (provider : Option ℕ) (providers : List JsonRpcProvider) :
    List JsonRpcProvider :=
  match provider with
  | none => providers
  | some i => providers.modify i fun p => { p with answered := true }

/-- `await this.provider.getNetwork()`. -/
def getNetwork (a : Attempt) : Task Rejection Session ℕ := do
  let chainId ← answer a.network
  write fun s => { s with providers := markAnswered s.connector.provider s.providers }
  return chainId

/-- The attempt to connect to an endpoint, the signer made by `sign`. -/
def attempt (sign : Task Rejection Session Unit) (url : String) (a : Attempt) :
    Task Rejection Session Unit := do
  newProvider url a
  sign
  let _ ← getNetwork a
  assign fun c => { c with connected := true }

/-- The first attempt of `connect`. -/
def attemptPrimary (url : String) (signerOrKey : SignerOrKey) (a : Attempt) :
    Task Rejection Session Unit :=
  attempt (do answer (checkKeyFormat signerOrKey); setSigner signerOrKey a) url a

/-- The attempts of the loops, the one with a number getting the answer of that number. -/
def attemptUrl (signerOrKey : SignerOrKey) (answers : ℕ → Attempt) (url : String × ℕ) :
    Task Rejection Session Unit :=
  attempt (setSigner signerOrKey (answers url.2)) url.1 (answers url.2)

def invalidRpcUrl : TTTBaseError :=
  .ofCode "TTT_E020" "[EVM] Invalid RPC URL" "The provided RPC URL is empty or not a string"
    "Pass a valid RPC URL (e.g., https://mainnet.base.org)"

def connectionFailed (error : Rejection) : TTTBaseError :=
  .ofCode "TTT_E021" "[EVM] Connection failed" error.text
    "Verify your RPC URL and network connectivity."

/-- The URL of a call, `none` standing for what is not a string, unless it is rejected. -/
def validUrl (rpcUrl : Option String) : Option String :=
  match rpcUrl with
  | none => none
  | some url => if url = "" then none else some url

/-- The loop over the fallbacks after the first attempt has failed. -/
def connectFallbacks (signerOrKey : SignerOrKey) (answers : ℕ → Attempt) (error : Rejection) :
    Task Rejection Session Unit := do
  let fallbackRpcUrls ← read fun s => s.connector.fallbackRpcUrls
  let connected ← tryEach (attemptUrl signerOrKey answers) (fallbackRpcUrls.zipIdx 1)
  if connected then return () else raise (.networkError (connectionFailed error))

/-- `connect` with a URL that is not rejected. -/
def connectTo (url : String) (signerOrKey : SignerOrKey) (answers : ℕ → Attempt) :
    Task Rejection Session Unit := do
  assign fun c => { c with primaryRpcUrl := url, signerOrKey := some signerOrKey }
  orElse (attemptPrimary url signerOrKey (answers 0)) fun error =>
    if error.isTTTError then raise error
    else connectFallbacks signerOrKey answers error

def connect (rpcUrl : Option String) (signerOrKey : SignerOrKey) (answers : ℕ → Attempt) :
    Task Rejection Session Unit :=
  match validUrl rpcUrl with
  | none => raise (.networkError invalidRpcUrl)
  | some url => connectTo url signerOrKey answers

def disconnect : Task Rejection Session Unit :=
  assign fun c => { c with provider := none, signer := none, connected := false }

def cannotReconnect : TTTBaseError :=
  .ofCode "TTT_E022" "[EVM] Cannot reconnect" "No previous connection credentials stored"
    "Call connect() first."

def reconnectionExhausted (maxReconnectAttempts : ℕ) : TTTBaseError :=
  .ofCode "TTT_E023" "[EVM] Reconnection failed"
    ("All " ++ toString maxReconnectAttempts ++ " attempts exhausted")
    "Check RPC provider status and network connectivity."

/-- The stored credentials, unless they are falsy. -/
def storedCredentials (c : EVMConnector) : Option SignerOrKey :=
  match c.signerOrKey with
  | some (.key k) => if k = "" then none else some (.key k)
  | signerOrKey => signerOrKey

/-- The URL of each attempt of `reconnect`, with the number of the attempt. -/
def reconnectUrls (c : EVMConnector) : List (String × ℕ) :=
  let allUrls := (c.primaryRpcUrl :: c.fallbackRpcUrls).filter fun url => url ≠ ""
  (List.range (min c.maxReconnectAttempts allUrls.length)).filterMap fun i =>
    allUrls[i % allUrls.length]?.map fun url => (url, i)

/-- `reconnect` with credentials. -/
def reconnectWith (signerOrKey : SignerOrKey) (answers : ℕ → Attempt) :
    Task Rejection Session Unit := do
  disconnect
  let urls ← read fun s => reconnectUrls s.connector
  let connected ← tryEach (attemptUrl signerOrKey answers) urls
  if connected then return ()
  else
    assign fun c => { c with connected := false }
    let attempts ← read fun s => s.connector.maxReconnectAttempts
    raise (.networkError (reconnectionExhausted attempts))

def reconnect (answers : ℕ → Attempt) : Task Rejection Session Unit := do
  let signerOrKey ← read fun s => storedCredentials s.connector
  match signerOrKey with
  | none => raise (.networkError cannotReconnect)
  | some signerOrKey => reconnectWith signerOrKey answers

/-- The calls, with what is answered to their attempts. -/
inductive Call
  | connect (rpcUrl : Option String) (signerOrKey : SignerOrKey) (answers : ℕ → Attempt)
  | reconnect (answers : ℕ → Attempt)
  | disconnect

/-- A call on a session, to its end. -/
def step (s : Session) : Call → Except Rejection Unit × Session
  | .connect rpcUrl signerOrKey answers => connect rpcUrl signerOrKey answers s
  | .reconnect answers => reconnect answers s
  | .disconnect => disconnect s

/-! ## What an attempt leaves behind -/

/-- `isConnected` is only true of a provider whose `getNetwork` has succeeded. -/
def Honest (s : Session) : Prop :=
  isConnected s.connector = true →
    ∃ i p, s.connector.provider = some i ∧ s.providers[i]? = some p ∧ p.answered = true

/-- The connector is connected to a provider that has answered. -/
structure Established (s : Session) : Prop where
  connected : s.connector.connected = true
  provider : ∃ i p, s.connector.provider = some i ∧ s.providers[i]? = some p ∧ p.answered = true

/-- The connector holds a provider that has not answered. -/
def Stale (s : Session) : Prop :=
  ∃ i p, s.connector.provider = some i ∧ s.providers[i]? = some p ∧ p.answered = false

/-- The part of a session that `isConnected` and the providers are about is the same. -/
structure SameConnection (s t : Session) : Prop where
  connected : t.connector.connected = s.connector.connected
  provider : t.connector.provider = s.connector.provider
  providers : t.providers = s.providers

/-- What failed attempts leave behind, `p` telling whether one of them has made a provider. -/
structure Failed (p : Prop) (s t : Session) : Prop where
  connected : t.connector.connected = s.connector.connected
  fallbackRpcUrls : t.connector.fallbackRpcUrls = s.connector.fallbackRpcUrls
  stale : p → Stale t
  same : ¬ p → SameConnection s t

theorem Established.honest {s : Session} (h : Established s) : Honest s := fun _ => h.provider

theorem SameConnection.refl (s : Session) : SameConnection s s := ⟨rfl, rfl, rfl⟩

theorem SameConnection.trans {s t u : Session} (h : SameConnection s t) (h' : SameConnection t u) :
    SameConnection s u :=
  ⟨h'.connected.trans h.connected, h'.provider.trans h.provider, h'.providers.trans h.providers⟩

theorem SameConnection.stale {s t : Session} (h : SameConnection s t) (hs : Stale s) : Stale t := by
  obtain ⟨i, p, hprovider, hget, hp⟩ := hs
  exact ⟨i, p, h.provider.trans hprovider, by rw [h.providers, hget], hp⟩

theorem SameConnection.honest_iff {s t : Session} (h : SameConnection s t) :
    Honest t ↔ Honest s := by
  simp only [Honest, isConnected, h.connected, h.provider, h.providers]

theorem Failed.refl (s : Session) : Failed False s s :=
  ⟨rfl, rfl, fun h => h.elim, fun _ => .refl s⟩

theorem Failed.trans (p q : Prop) (s t u : Session) (h : Failed p s t) (h' : Failed q t u) :
    Failed (p ∨ q) s u where
  connected := h'.connected.trans h.connected
  fallbackRpcUrls := h'.fallbackRpcUrls.trans h.fallbackRpcUrls
  stale := by
    intro hpq
    by_cases hq : q
    · exact h'.stale hq
    · exact (h'.same hq).stale (h.stale (hpq.resolve_right hq))
  same := by
    intro hpq
    rw [not_or] at hpq
    exact (h.same hpq.1).trans (h'.same hpq.2)

/-- A connector that holds a provider that has not answered is honest if it is not connected. -/
theorem Stale.honest_iff {s : Session} (h : Stale s) :
    Honest s ↔ s.connector.connected = false := by
  obtain ⟨i, p, hprovider, hget, hp⟩ := h
  constructor
  · intro hs
    by_contra hconn
    rw [Bool.not_eq_false] at hconn
    obtain ⟨j, q, hprovider', hget', hq⟩ := hs (by simp [isConnected, hconn, hprovider])
    rw [hprovider, Option.some.injEq] at hprovider'
    subst hprovider'
    rw [hget, Option.some.injEq] at hget'
    subst hget'
    rw [hp] at hq
    exact Bool.false_ne_true hq
  · intro hconn hs
    simp [isConnected, hconn] at hs

/-- After failed attempts the connector is honest if it was not connected or if it still holds what
it held. -/
theorem Failed.honest_iff {p : Prop} {s t : Session} (h : Failed p s t) (hs : Honest s) :
    Honest t ↔ s.connector.connected = false ∨ ¬ p := by
  by_cases hp : p
  · rw [(h.stale hp).honest_iff, h.connected]
    simp [hp]
  · exact iff_of_true ((h.same hp).honest_iff.2 hs) (Or.inr hp)

/-! ## How an attempt ends -/

/-- Everything answers, the signer with `sign`. -/
def Attempt.Succeeds (sign : Except Rejection Unit) (a : Attempt) : Prop :=
  a.created = .ok () ∧ sign = .ok () ∧ ∃ chainId, a.network = .ok chainId

/-- The first answer that is an error is `e`. -/
def Attempt.FailsWith (sign : Except Rejection Unit) (a : Attempt) (e : Rejection) : Prop :=
  a.created = .error e ∨
    a.created = .ok () ∧ (sign = .error e ∨ sign = .ok () ∧ a.network = .error e)

theorem Attempt.FailsWith.not_succeeds {sign : Except Rejection Unit} {a : Attempt} {e : Rejection}
    (h : a.FailsWith sign e) : ¬ a.Succeeds sign := by
  rintro ⟨hcreated, hsign, chainId, hnetwork⟩
  rcases h with h | ⟨-, h | ⟨-, h⟩⟩
  · rw [hcreated] at h; cases h
  · rw [hsign] at h; cases h
  · rw [hnetwork] at h; cases h

theorem Attempt.FailsWith.unique {sign : Except Rejection Unit} {a : Attempt} {e f : Rejection}
    (he : a.FailsWith sign e) (hf : a.FailsWith sign f) : e = f := by
  simp only [FailsWith] at he hf
  grind

/-- A new provider has not answered. -/
theorem newProvider_of_ok {a : Attempt} (h : a.created = .ok ()) (url : String) (s : Session) :
    ∃ t, newProvider url a s = (.ok (), t) ∧ Failed True s t := by
  refine ⟨_, bind_of_ok (by rw [answer, h]), rfl, rfl, fun _ => ?_, fun h => (h trivial).elim⟩
  exact ⟨s.providers.length, ⟨url, false⟩, rfl, by simp, rfl⟩

theorem getNetwork_of_ok {a : Attempt} {chainId : ℕ} (h : a.network = .ok chainId) {s : Session}
    (hs : Stale s) : ∃ t, getNetwork a s = (.ok chainId, t) ∧
      ∃ i p, t.connector.provider = some i ∧ t.providers[i]? = some p ∧ p.answered = true := by
  obtain ⟨i, p, hprovider, hget, -⟩ := hs
  have hrun : getNetwork a s =
      (.ok chainId, { s with providers := markAnswered s.connector.provider s.providers }) :=
    (bind_of_ok (by rw [answer, h])).trans (bind_of_ok rfl)
  refine ⟨_, hrun, i, { p with answered := true }, hprovider, ?_, rfl⟩
  simp [markAnswered, hprovider, hget]

/-- **How an attempt ends**, with a signer that `sign` answers for. -/
theorem attempt_cases {sign : Task Rejection Session Unit} {x : Except Rejection Unit}
    (hsign : ∀ s, ∃ t, sign s = (x, t) ∧ Failed False s t) (url : String) (a : Attempt)
    (s : Session) :
    (a.Succeeds x ∧ ∃ t, attempt sign url a s = (.ok (), t) ∧ Established t) ∨
      ∃ e t, a.FailsWith x e ∧ attempt sign url a s = (.error e, t) ∧
        Failed (a.created = .ok ()) s t := by
  cases hcreated : a.created with
  | error e =>
    have hnew : newProvider url a s = (.error e, s) := bind_of_error (by rw [answer, hcreated])
    have hfailed : Failed ((.error e : Except Rejection Unit) = .ok ()) s s :=
      ⟨rfl, rfl, fun h => (nomatch h), fun _ => .refl s⟩
    exact Or.inr ⟨e, s, Or.inl hcreated, bind_of_error hnew, hfailed⟩
  | ok u =>
    obtain ⟨t, hnew, hmade⟩ := newProvider_of_ok hcreated url s
    obtain ⟨t', hrun, hsigned⟩ := hsign t
    have hfailed : Failed ((.ok u : Except Rejection Unit) = .ok ()) s t' := by
      have h := hmade.trans _ _ _ _ _ hsigned
      exact ⟨h.connected, h.fallbackRpcUrls, fun _ => h.stale (Or.inl trivial),
        fun h => (h rfl).elim⟩
    cases hx : x with
    | error e =>
      rw [hx] at hrun
      exact Or.inr ⟨e, t', Or.inr ⟨hcreated, Or.inl rfl⟩,
        (bind_of_ok hnew).trans (bind_of_error hrun), hfailed⟩
    | ok v =>
      rw [hx] at hrun
      cases hnetwork : a.network with
      | error e =>
        have hget : getNetwork a t' = (.error e, t') := bind_of_error (by rw [answer, hnetwork])
        exact Or.inr ⟨e, t', Or.inr ⟨hcreated, Or.inr ⟨rfl, hnetwork⟩⟩,
          (bind_of_ok hnew).trans ((bind_of_ok hrun).trans (bind_of_error hget)), hfailed⟩
      | ok chainId =>
        obtain ⟨t'', hget, hanswered⟩ := getNetwork_of_ok hnetwork (hfailed.stale rfl)
        exact Or.inl ⟨⟨hcreated, rfl, chainId, hnetwork⟩, _,
          (bind_of_ok hnew).trans ((bind_of_ok hrun).trans (bind_of_ok hget)), rfl, hanswered⟩

theorem setSigner_apply (signerOrKey : SignerOrKey) (a : Attempt) (s : Session) :
    ∃ t, setSigner signerOrKey a s = (signerAnswer signerOrKey a, t) ∧ Failed False s t := by
  cases h : signerAnswer signerOrKey a with
  | error e => exact ⟨s, bind_of_error (by rw [answer, h]), .refl s⟩
  | ok u =>
    refine ⟨_, bind_of_ok (by rw [answer, h]), ?_, ?_, fun h => h.elim, fun _ => ?_⟩
    · cases signerOrKey with
      | key k => rfl
      | signer hasConnect => cases hasConnect <;> rfl
    · cases signerOrKey with
      | key k => rfl
      | signer hasConnect => cases hasConnect <;> rfl
    · cases signerOrKey with
      | key k => exact ⟨rfl, rfl, rfl⟩
      | signer hasConnect => cases hasConnect <;> exact ⟨rfl, rfl, rfl⟩

/-- What making the signer ends in at the first attempt. -/
def primarySignerAnswer (signerOrKey : SignerOrKey) (a : Attempt) : Except Rejection Unit :=
  match checkKeyFormat signerOrKey with
  | .error e => .error e
  | .ok () => signerAnswer signerOrKey a

/-- How the first attempt of `connect` ends. -/
theorem attemptPrimary_cases (url : String) (signerOrKey : SignerOrKey) (a : Attempt)
    (s : Session) :
    (a.Succeeds (primarySignerAnswer signerOrKey a) ∧
        ∃ t, attemptPrimary url signerOrKey a s = (.ok (), t) ∧ Established t) ∨
      ∃ e t, a.FailsWith (primarySignerAnswer signerOrKey a) e ∧
        attemptPrimary url signerOrKey a s = (.error e, t) ∧ Failed (a.created = .ok ()) s t := by
  refine attempt_cases (fun s => ?_) url a s
  cases h : checkKeyFormat signerOrKey with
  | error e =>
    rw [primarySignerAnswer, h]
    exact ⟨s, bind_of_error rfl, .refl s⟩
  | ok u =>
    obtain ⟨t, hrun, hsame⟩ := setSigner_apply signerOrKey a s
    rw [primarySignerAnswer, h]
    exact ⟨t, (bind_of_ok rfl).trans hrun, hsame⟩

/-- How a loop over endpoints ends. -/
theorem tryUrls_cases (signerOrKey : SignerOrKey) (answers : ℕ → Attempt)
    (urls : List (String × ℕ)) (s : Session) :
    ((∃ url ∈ urls, (answers url.2).Succeeds (signerAnswer signerOrKey (answers url.2))) ∧
        ∃ t, tryEach (attemptUrl signerOrKey answers) urls s = (.ok true, t) ∧ Established t) ∨
      (¬ ∃ url ∈ urls, (answers url.2).Succeeds (signerAnswer signerOrKey (answers url.2))) ∧
        ∃ t, tryEach (attemptUrl signerOrKey answers) urls s = (.ok false, t) ∧
          Failed (∃ url ∈ urls, (answers url.2).created = .ok ()) s t := by
  refine tryEach_cases Failed.refl Failed.trans (fun url s => ?_) urls s
  rcases attempt_cases (setSigner_apply signerOrKey (answers url.2)) url.1 (answers url.2) s with
    h | ⟨e, t, hfails, hrun, hfailed⟩
  · exact Or.inl h
  · exact Or.inr ⟨hfails.not_succeeds, e, t, hrun, hfailed⟩

/-! ## How a call ends -/

/-- The first attempt fails with an error after which the fallbacks are tried. -/
def FallsBack (signerOrKey : SignerOrKey) (a : Attempt) : Prop :=
  ∃ e, a.FailsWith (primarySignerAnswer signerOrKey a) e ∧ e.isTTTError = false

/-- The first endpoint answers, or the fallbacks are tried and one of them does. -/
def Reaches (c : EVMConnector) (signerOrKey : SignerOrKey) (answers : ℕ → Attempt) : Prop :=
  (answers 0).Succeeds (primarySignerAnswer signerOrKey (answers 0)) ∨
    FallsBack signerOrKey (answers 0) ∧ ∃ url ∈ c.fallbackRpcUrls.zipIdx 1,
      (answers url.2).Succeeds (signerAnswer signerOrKey (answers url.2))

/-- A provider is made for the first endpoint, or for one of the fallbacks if they are tried. -/
def MakesProvider (c : EVMConnector) (signerOrKey : SignerOrKey) (answers : ℕ → Attempt) : Prop :=
  (answers 0).created = .ok () ∨
    FallsBack signerOrKey (answers 0) ∧
      ∃ url ∈ c.fallbackRpcUrls.zipIdx 1, (answers url.2).created = .ok ()

/-- A call of `connect` starts without a connection, is rejected for its URL, reaches an endpoint
that answers, or makes no provider. -/
def Sound (s : Session) : Call → Prop
  | .connect rpcUrl signerOrKey answers =>
    s.connector.connected = false ∨ validUrl rpcUrl = none ∨
      Reaches s.connector signerOrKey answers ∨ ¬ MakesProvider s.connector signerOrKey answers
  | .reconnect _ => True
  | .disconnect => True

theorem connectFallbacks_cases (signerOrKey : SignerOrKey) (answers : ℕ → Attempt)
    (error : Rejection) (s : Session) :
    ((∃ url ∈ s.connector.fallbackRpcUrls.zipIdx 1,
        (answers url.2).Succeeds (signerAnswer signerOrKey (answers url.2))) ∧
        ∃ t, connectFallbacks signerOrKey answers error s = (.ok (), t) ∧ Established t) ∨
      (¬ ∃ url ∈ s.connector.fallbackRpcUrls.zipIdx 1,
        (answers url.2).Succeeds (signerAnswer signerOrKey (answers url.2))) ∧
        ∃ e t, connectFallbacks signerOrKey answers error s = (.error e, t) ∧
          Failed (∃ url ∈ s.connector.fallbackRpcUrls.zipIdx 1,
            (answers url.2).created = .ok ()) s t := by
  have hread : connectFallbacks signerOrKey answers error s = _ := bind_of_ok rfl
  rcases tryUrls_cases signerOrKey answers (s.connector.fallbackRpcUrls.zipIdx 1) s with
    ⟨hex, t, hrun, hdone⟩ | ⟨hnone, t, hrun, hfailed⟩
  · exact Or.inl ⟨hex, t, hread.trans (bind_of_ok hrun), hdone⟩
  · exact Or.inr ⟨hnone, _, t, hread.trans (bind_of_ok hrun), hfailed⟩

/-- How `connect` with a URL that is not rejected ends. -/
theorem connectTo_cases (url : String) (signerOrKey : SignerOrKey) (answers : ℕ → Attempt)
    (s : Session) :
    (Reaches s.connector signerOrKey answers ∧
        ∃ t, connectTo url signerOrKey answers s = (.ok (), t) ∧ Established t) ∨
      ¬ Reaches s.connector signerOrKey answers ∧
        ∃ e t, connectTo url signerOrKey answers s = (.error e, t) ∧
          Failed (MakesProvider s.connector signerOrKey answers) s t := by
  -- the credentials are stored before the first attempt
  have hstored : ∃ s₁, assign (fun c =>
      { c with primaryRpcUrl := url, signerOrKey := some signerOrKey }) s = (.ok (), s₁) ∧
      Failed False s s₁ := ⟨_, rfl, rfl, rfl, fun h => h.elim, fun _ => ⟨rfl, rfl, rfl⟩⟩
  obtain ⟨s₁, hassign, hsame⟩ := hstored
  have hstart : connectTo url signerOrKey answers s = _ := bind_of_ok hassign
  rw [hstart]
  rcases attemptPrimary_cases url signerOrKey (answers 0) s₁ with
    ⟨hsucceeds, t, hrun, hdone⟩ | ⟨e, t, hfails, hrun, hfailed⟩
  · exact Or.inl ⟨Or.inl hsucceeds, t, orElse_of_ok hrun, hdone⟩
  · rw [orElse_of_error hrun]
    have hprimary := hsame.trans _ _ _ _ _ hfailed
    rw [false_or] at hprimary
    cases he : e.isTTTError with
    | true =>
      have hback : ¬ FallsBack signerOrKey (answers 0) := by
        rintro ⟨f, hf, hother⟩
        rw [hfails.unique hf, hother] at he
        exact Bool.false_ne_true he
      refine Or.inr ⟨?_, e, t, by rw [if_pos rfl]; rfl, ?_⟩
      · rintro (h | ⟨h, -⟩)
        · exact hfails.not_succeeds h
        · exact hback h
      · simpa only [MakesProvider, hback, false_and, or_false] using hprimary
    | false =>
      have hback : FallsBack signerOrKey (answers 0) := ⟨e, hfails, he⟩
      have hurls : t.connector.fallbackRpcUrls = s.connector.fallbackRpcUrls :=
        hprimary.fallbackRpcUrls
      rw [if_neg Bool.false_ne_true]
      rcases connectFallbacks_cases signerOrKey answers e t with
        ⟨hex, u, hrest, hdone⟩ | ⟨hnone, f, u, hrest, hrestFailed⟩
      · rw [hurls] at hex
        exact Or.inl ⟨Or.inr ⟨hback, hex⟩, u, hrest, hdone⟩
      · rw [hurls] at hnone hrestFailed
        refine Or.inr ⟨?_, f, u, hrest, ?_⟩
        · rintro (h | ⟨-, h⟩)
          · exact hfails.not_succeeds h
          · exact hnone h
        · simpa only [MakesProvider, hback, true_and] using
            hprimary.trans _ _ _ _ _ hrestFailed

theorem honest_of_not_connected {s : Session} (h : s.connector.connected = false) : Honest s :=
  fun hconn => by simp [isConnected, h] at hconn

/-- `reconnect` clears the connection first, and again when it fails. -/
theorem honest_reconnect (answers : ℕ → Attempt) {s : Session} (hs : Honest s) :
    Honest (reconnect answers s).2 := by
  have hread : reconnect answers s = _ := bind_of_ok rfl
  rw [hread]
  cases hcred : storedCredentials s.connector with
  | none =>
    simp only [hcred]
    exact hs
  | some signerOrKey =>
    have hdisconnect : reconnectWith signerOrKey answers s = _ :=
      (bind_of_ok rfl).trans (bind_of_ok rfl)
    simp only [hcred]
    rw [hdisconnect]
    rcases tryUrls_cases signerOrKey answers _ _ with ⟨-, t, hrun, hdone⟩ | ⟨-, t, hrun, -⟩
    · rw [bind_of_ok hrun]
      exact hdone.honest
    · rw [bind_of_ok hrun]
      exact honest_of_not_connected rfl

/-- **One call** keeps an honest connector honest exactly when it is sound. -/
theorem honest_step_iff (s : Session) (c : Call) (hs : Honest s) :
    Honest (step s c).2 ↔ Sound s c := by
  cases c with
  | disconnect => exact iff_of_true (honest_of_not_connected rfl) trivial
  | reconnect answers => exact iff_of_true (honest_reconnect answers hs) trivial
  | connect rpcUrl signerOrKey answers =>
    cases hurl : validUrl rpcUrl with
    | none =>
      have hrun : step s (.connect rpcUrl signerOrKey answers) =
          (.error (.networkError invalidRpcUrl), s) := by
        simp only [step, connect, hurl]
        rfl
      rw [hrun]
      exact iff_of_true hs (Or.inr (Or.inl hurl))
    | some url =>
      have hrun : step s (.connect rpcUrl signerOrKey answers) =
          connectTo url signerOrKey answers s := by
        simp only [step, connect, hurl]
      rw [hrun]
      rcases connectTo_cases url signerOrKey answers s with
        ⟨hreach, t, ht, hdone⟩ | ⟨hreach, e, t, ht, hfailed⟩
      · rw [ht]
        exact iff_of_true hdone.honest (Or.inr (Or.inr (Or.inl hreach)))
      · rw [ht, hfailed.honest_iff hs]
        simp [Sound, hurl, hreach]

/-- **In which runs `isConnected` can be trusted.** After every call of a run it is only true of a
provider whose `getNetwork` has succeeded, if and only if every call of the run is sound. -/
theorem isConnected_honest_iff (fallbackRpcUrls : Option (List String))
    (maxReconnectAttempts : Option ℕ) (calls : List Call) :
    (∀ i, Honest (Mealy.after step (new fallbackRpcUrls maxReconnectAttempts) (calls.take i))) ↔
      ∀ i c, calls[i]? = some c →
        Sound (Mealy.after step (new fallbackRpcUrls maxReconnectAttempts) (calls.take i)) c :=
  Mealy.forall_after_iff step honest_step_iff (honest_of_not_connected rfl) calls

/-- An endpoint that answers, and one whose `getNetwork` fails. -/
def answering : Attempt := ⟨.ok (), .ok (), .ok 8453⟩

def failing : Attempt := ⟨.ok (), .ok (), .error (.other "network down")⟩

/-- A connector that is connected and then connects to an endpoint that does not answer stays
connected. -/
theorem isConnected_not_honest : ¬ ∀ (fallbackRpcUrls : Option (List String))
    (maxReconnectAttempts : Option ℕ) (calls : List Call),
    Honest (Mealy.after step (new fallbackRpcUrls maxReconnectAttempts) calls) := by
  intro h
  obtain ⟨i, p, hprovider, hget, hp⟩ := h none none
    [.connect (some "https://mainnet.base.org") (.signer true) fun _ => answering,
      .connect (some "https://sepolia.base.org") (.signer true) fun _ => failing] rfl
  cases hprovider
  cases hget
  cases hp

end EVMConnector

end OpenTTT
