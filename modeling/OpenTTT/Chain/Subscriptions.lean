import Mathlib.Data.List.Nodup
import OpenTTT.Chain.EvmConnector

/-!
# What the chain connector holds on to

The event handlers and the providers of `evm_connector.ts`. Handlers are registered at `Contract`
objects, of which `attachContract` makes a new one each time, if the library does not throw; the
connector keeps a function for each handler that takes it off again. The library does both a little
later, in the order of the calls, and they count here as done at once. A provider runs until
`destroy` is called on it.

`handlers_of_run` says that no handler outlives its subscription, whatever is attached, connected or
subscribed to again in between. Providers are another matter: `destroyed_iff` says that only the
provider that the connector holds at a `disconnect`, or at a `reconnect` with credentials, is ever
destroyed, so that one that was replaced before runs on for ever.
-/

namespace OpenTTT

namespace EVMConnector

open Throwing Throwing.Task

/-- A handler that is registered for an event of a contract, and the subscription that it is of. -/
structure Listener where
  contract : ℕ
  event : String
  subscription : ℕ
  deriving DecidableEq

/-- The callbacks that are given to `subscribeToEvents`. -/
structure EventCallbacks where
  onMinted : Bool
  onBurned : Bool
  onFeeCollected : Bool

/-- A session, with its contracts and what is registered at them. Contracts are numbered in the
order in which they are made. -/
structure Connector where
  session : Session
  /-- The providers on which `destroy` was called. -/
  destroyed : List ℕ
  contracts : ℕ
  tttContract : Option ℕ
  protocolFeeContract : Option ℕ
  /-- The functions that take handlers off, each for one handler. -/
  eventListeners : List Listener
  /-- What is registered at the contracts. -/
  handlers : List Listener
  subscriptions : ℕ

namespace Connector

/-- The constructor. -/
def new (fallbackRpcUrls : Option (List String)) (maxReconnectAttempts : Option ℕ) : Connector where
  session := EVMConnector.new fallbackRpcUrls maxReconnectAttempts
  destroyed := []
  contracts := 0
  tttContract := none
  protocolFeeContract := none
  eventListeners := []
  handlers := []
  subscriptions := 0

/-! ## The calls -/

def unsubscribeAll (s : Connector) : Connector :=
  { s with
    handlers := s.eventListeners.foldl List.erase s.handlers
    eventListeners := [] }

/-- `disconnect`. -/
def disconnect (s : Connector) : Connector :=
  let s := s.unsubscribeAll
  { s with
    destroyed := s.session.connector.provider.toList ++ s.destroyed
    session := (EVMConnector.disconnect s.session).2
    tttContract := none
    protocolFeeContract := none }

/-- `reconnect`, which disconnects if there are credentials. -/
def reconnect (answers : ℕ → Attempt) (s : Connector) : Except Rejection Unit × Connector :=
  let s := if (storedCredentials s.session.connector).isSome then s.disconnect else s
  let result := EVMConnector.reconnect answers s.session
  (result.1, { s with session := result.2 })

def connect (rpcUrl : Option String) (signerOrKey : SignerOrKey) (answers : ℕ → Attempt)
    (s : Connector) : Except Rejection Unit × Connector :=
  let result := EVMConnector.connect rpcUrl signerOrKey answers s.session
  (result.1, { s with session := result.2 })

def signerNotConnected : TTTBaseError :=
  .ofCode "TTT_E030" "Not connected to signer" "EVMConnector.connect() must be called first"
    "Initialize connection before attaching contracts."

def invalidContractAddress (address : String) : TTTBaseError :=
  .ofCode "TTT_E031" "[EVM] Invalid contract address"
    ("Address '" ++ address ++ "' is not a valid EVM address")
    "Check your config and provide a valid checksummed address."

/-- The checks of `attachContract` and `attachProtocolFeeContract`, and the new contract, which
`assign` stores; `made` is what `new Contract` ends in, which may throw on the interface. -/
def attach (isAddress : String → Bool) (assign : ℕ → Connector → Connector) (address : String)
    (made : Except Rejection Unit) (s : Connector) : Except Rejection Unit × Connector :=
  if s.session.connector.signer.isNone then (.error (.contractError signerNotConnected), s)
  else if address = "" || !isAddress address then
    (.error (.contractError (invalidContractAddress address)), s)
  else
    match made with
    | .error e => (.error e, s)
    | .ok () => (.ok (), assign s.contracts { s with contracts := s.contracts + 1 })

def attachContract (isAddress : String → Bool) (address : String) (made : Except Rejection Unit)
    (s : Connector) : Except Rejection Unit × Connector :=
  s.attach isAddress (fun contract s => { s with tttContract := some contract }) address made

def attachProtocolFeeContract (isAddress : String → Bool) (address : String)
    (made : Except Rejection Unit) (s : Connector) : Except Rejection Unit × Connector :=
  s.attach isAddress (fun contract s => { s with protocolFeeContract := some contract }) address
    made

/-- Registers a handler for an event, and keeps the function that takes it off. -/
def register (contract : ℕ) (event : String) (s : Connector) : Connector :=
  let listener := ⟨contract, event, s.subscriptions⟩
  { s with
    handlers := s.handlers ++ [listener]
    eventListeners := s.eventListeners ++ [listener] }

/-- Registers a handler if there is a contract and a callback. -/
def registerIf (contract : Option ℕ) (callback : Bool) (event : String) (s : Connector) :
    Connector :=
  match contract with
  | some contract => if callback then s.register contract event else s
  | none => s

def subscribeToEvents (callbacks : EventCallbacks) (s : Connector) : Connector :=
  let s := if s.eventListeners ≠ [] then s.unsubscribeAll else s
  let s := { s with subscriptions := s.subscriptions + 1 }
  let s := s.registerIf s.tttContract callbacks.onMinted "TTTMinted"
  let s := s.registerIf s.tttContract callbacks.onBurned "TTTBurned"
  s.registerIf s.protocolFeeContract callbacks.onFeeCollected "FeeCollected"

/-- The calls of a connector. -/
inductive Call
  | connect (rpcUrl : Option String) (signerOrKey : SignerOrKey) (answers : ℕ → Attempt)
  | reconnect (answers : ℕ → Attempt)
  | disconnect
  | attachContract (address : String) (made : Except Rejection Unit)
  | attachProtocolFeeContract (address : String) (made : Except Rejection Unit)
  | subscribeToEvents (callbacks : EventCallbacks)
  | unsubscribeAll

/-- A call, to its end. -/
def step (isAddress : String → Bool) (s : Connector) : Call → Except Rejection Unit × Connector
  | .connect rpcUrl signerOrKey answers => s.connect rpcUrl signerOrKey answers
  | .reconnect answers => s.reconnect answers
  | .disconnect => (.ok (), s.disconnect)
  | .attachContract address made => s.attachContract isAddress address made
  | .attachProtocolFeeContract address made => s.attachProtocolFeeContract isAddress address made
  | .subscribeToEvents callbacks => (.ok (), s.subscribeToEvents callbacks)
  | .unsubscribeAll => (.ok (), s.unsubscribeAll)

/-! ## Handlers -/

/-- What is registered is what the connector can take off, at most one handler for each event, all
of the last subscription. -/
structure Tidy (s : Connector) : Prop where
  handlers_eq : s.handlers = s.eventListeners
  events_nodup : (s.handlers.map Listener.event).Nodup
  events_sub : s.handlers.map Listener.event ⊆ ["TTTMinted", "TTTBurned", "FeeCollected"]
  last : ∀ l ∈ s.handlers, l.subscription = s.subscriptions

theorem foldl_erase_self {α : Type} [DecidableEq α] (l : List α) : l.foldl List.erase l = [] := by
  induction l with
  | nil => rfl
  | cons a l ih =>
    rw [List.foldl_cons, List.erase_cons_head]
    exact ih

theorem handlers_unsubscribeAll {s : Connector} (h : s.Tidy) : s.unsubscribeAll.handlers = [] := by
  rw [unsubscribeAll, h.handlers_eq, foldl_erase_self]

theorem Tidy.of_nil {s : Connector} (hhandlers : s.handlers = [])
    (hlisteners : s.eventListeners = []) : s.Tidy where
  handlers_eq := hhandlers.trans hlisteners.symm
  events_nodup := by simp [hhandlers]
  events_sub := by simp [hhandlers]
  last := by simp [hhandlers]

theorem Tidy.unsubscribeAll {s : Connector} (h : s.Tidy) : s.unsubscribeAll.Tidy :=
  .of_nil (handlers_unsubscribeAll h) rfl

/-- A connector with the same handlers is as tidy. -/
theorem Tidy.congr {s t : Connector} (h : s.Tidy) (hhandlers : t.handlers = s.handlers)
    (hlisteners : t.eventListeners = s.eventListeners)
    (hsubscriptions : t.subscriptions = s.subscriptions) : t.Tidy where
  handlers_eq := by rw [hhandlers, hlisteners, h.handlers_eq]
  events_nodup := hhandlers ▸ h.events_nodup
  events_sub := hhandlers ▸ h.events_sub
  last := by
    rw [hhandlers, hsubscriptions]
    exact h.last

/-- A handler is registered for an event that has none. -/
theorem Tidy.registerIf {s : Connector} (h : s.Tidy) (contract : Option ℕ) (callback : Bool)
    {event : String} (hevent : event ∈ ["TTTMinted", "TTTBurned", "FeeCollected"])
    (hnew : event ∉ s.handlers.map Listener.event) :
    (s.registerIf contract callback event).Tidy := by
  cases contract with
  | none => exact h
  | some contract =>
    cases callback with
    | false => exact h
    | true =>
      refine ⟨?_, ?_, ?_, ?_⟩ <;> simp only [Connector.registerIf, register, if_true]
      · rw [h.handlers_eq]
      · rw [List.map_append, List.map_singleton]
        refine List.nodup_append.2 ⟨h.events_nodup, List.nodup_singleton _, ?_⟩
        rintro a ha b hb rfl
        rw [List.mem_singleton.1 hb] at ha
        exact hnew ha
      · rw [List.map_append, List.map_singleton]
        exact List.append_subset.2 ⟨h.events_sub, by simpa using hevent⟩
      · intro l hl
        rcases List.mem_append.1 hl with hl | hl
        · exact h.last l hl
        · rw [List.mem_singleton.1 hl]

/-- The events that have a handler after a registration. -/
theorem events_registerIf (s : Connector) (contract : Option ℕ) (callback : Bool) (event : String) :
    (s.registerIf contract callback event).handlers.map Listener.event ⊆
      event :: s.handlers.map Listener.event := by
  unfold registerIf register
  intro e he
  split at he
  · split at he
    · simpa [or_comm] using he
    · exact List.mem_cons_of_mem _ he
  · exact List.mem_cons_of_mem _ he

theorem Tidy.registerAll {s : Connector} (h : s.Tidy) (hnil : s.handlers = [])
    (contract₁ contract₂ contract₃ : Option ℕ) (callback₁ callback₂ callback₃ : Bool) :
    (((s.registerIf contract₁ callback₁ "TTTMinted").registerIf contract₂ callback₂
      "TTTBurned").registerIf contract₃ callback₃ "FeeCollected").Tidy := by
  have hevents₁ := s.events_registerIf contract₁ callback₁ "TTTMinted"
  rw [hnil, List.map_nil] at hevents₁
  have hevents₂ := List.Subset.trans
    ((s.registerIf contract₁ callback₁ "TTTMinted").events_registerIf contract₂ callback₂
      "TTTBurned") (List.cons_subset_cons _ hevents₁)
  have h₁ : (s.registerIf contract₁ callback₁ "TTTMinted").Tidy :=
    h.registerIf contract₁ callback₁ (by simp) (by simp [hnil])
  have h₂ : ((s.registerIf contract₁ callback₁ "TTTMinted").registerIf contract₂ callback₂
      "TTTBurned").Tidy :=
    h₁.registerIf contract₂ callback₂ (by simp) fun hmem => by simpa using hevents₁ hmem
  exact h₂.registerIf contract₃ callback₃ (by simp) fun hmem => by simpa using hevents₂ hmem

theorem Tidy.subscribeToEvents {s : Connector} (h : s.Tidy) (callbacks : EventCallbacks) :
    (s.subscribeToEvents callbacks).Tidy := by
  -- the registrations start without handlers
  have hclear : (if s.eventListeners ≠ [] then s.unsubscribeAll else s).handlers = [] ∧
      (if s.eventListeners ≠ [] then s.unsubscribeAll else s).eventListeners = [] := by
    split
    · exact ⟨handlers_unsubscribeAll h, rfl⟩
    · rename_i hnil
      rw [not_not] at hnil
      exact ⟨h.handlers_eq.trans hnil, hnil⟩
  unfold Connector.subscribeToEvents
  exact Tidy.registerAll (s := { (if s.eventListeners ≠ [] then s.unsubscribeAll else s) with
    subscriptions := (if s.eventListeners ≠ [] then s.unsubscribeAll else s).subscriptions + 1 })
    (.of_nil hclear.1 hclear.2) hclear.1 _ _ _ _ _ _

/-- Attaching a contract changes neither the handlers nor the session. -/
theorem attach_keeps (isAddress : String → Bool) {assign : ℕ → Connector → Connector}
    (hassign : ∀ contract s, ∃ ttt fee,
      assign contract s = { s with tttContract := ttt, protocolFeeContract := fee })
    (address : String) (made : Except Rejection Unit) (s : Connector) : ∃ contracts ttt fee,
      (s.attach isAddress assign address made).2 =
        { s with contracts := contracts, tttContract := ttt, protocolFeeContract := fee } := by
  unfold attach
  split_ifs
  · exact ⟨_, _, _, rfl⟩
  · exact ⟨_, _, _, rfl⟩
  · cases made with
    | error e => exact ⟨_, _, _, rfl⟩
    | ok =>
      obtain ⟨ttt, fee, heq⟩ := hassign s.contracts { s with contracts := s.contracts + 1 }
      exact ⟨_, ttt, fee, heq⟩

theorem step_attach (isAddress : String → Bool) (s : Connector) {c : Call}
    (hc : (∃ address made, c = .attachContract address made) ∨
      ∃ address made, c = .attachProtocolFeeContract address made) :
    ∃ contracts ttt fee, (s.step isAddress c).2 =
      { s with contracts := contracts, tttContract := ttt, protocolFeeContract := fee } := by
  rcases hc with ⟨address, made, rfl⟩ | ⟨address, made, rfl⟩
  · exact attach_keeps isAddress (fun _ _ => ⟨_, _, rfl⟩) address made s
  · exact attach_keeps isAddress (fun _ _ => ⟨_, _, rfl⟩) address made s

theorem tidy_step (isAddress : String → Bool) {s : Connector} (h : s.Tidy) (c : Call) :
    (s.step isAddress c).2.Tidy := by
  cases c with
  | connect rpcUrl signerOrKey answers => exact h.congr rfl rfl rfl
  | reconnect answers =>
    unfold step reconnect
    dsimp only
    split
    · exact h.unsubscribeAll.congr rfl rfl rfl
    · exact h.congr rfl rfl rfl
  | disconnect => exact h.unsubscribeAll.congr rfl rfl rfl
  | attachContract address made =>
    obtain ⟨contracts, ttt, fee, hstep⟩ := step_attach isAddress s (Or.inl ⟨address, made, rfl⟩)
    rw [hstep]
    exact h.congr rfl rfl rfl
  | attachProtocolFeeContract address made =>
    obtain ⟨contracts, ttt, fee, hstep⟩ := step_attach isAddress s (Or.inr ⟨address, made, rfl⟩)
    rw [hstep]
    exact h.congr rfl rfl rfl
  | subscribeToEvents callbacks => exact h.subscribeToEvents callbacks
  | unsubscribeAll => exact h.unsubscribeAll

/-- The connector after a run. -/
def after (isAddress : String → Bool) (fallbackRpcUrls : Option (List String))
    (maxReconnectAttempts : Option ℕ) (cs : List Call) : Connector :=
  Mealy.after (step isAddress) (new fallbackRpcUrls maxReconnectAttempts) cs

theorem after_concat (isAddress : String → Bool) (fallbackRpcUrls : Option (List String))
    (maxReconnectAttempts : Option ℕ) (cs : List Call) (c : Call) :
    after isAddress fallbackRpcUrls maxReconnectAttempts (cs ++ [c]) =
      ((after isAddress fallbackRpcUrls maxReconnectAttempts cs).step isAddress c).2 :=
  Mealy.after_concat _ _ cs c

theorem tidy_after (isAddress : String → Bool) (fallbackRpcUrls : Option (List String))
    (maxReconnectAttempts : Option ℕ) (cs : List Call) :
    (after isAddress fallbackRpcUrls maxReconnectAttempts cs).Tidy :=
  Mealy.invariant_history (step isAddress) (P := fun _ s => s.Tidy)
    (fun _ c _ h => tidy_step isAddress h c) (.of_nil rfl rfl) cs

/-- Whether a call disconnects: it takes all handlers off and lets go of the contracts and the
provider. -/
def releases (s : Connector) : Call → Bool
  | .disconnect => true
  | .reconnect _ => (storedCredentials s.session.connector).isSome
  | _ => false

/-- **No handler outlives its subscription.** After every run, whatever was attached, connected and
subscribed to in between, what is registered at all contracts ever made is what the connector can
take off: at most one handler for each event, all of them of the last call of `subscribeToEvents`.
After `unsubscribeAll` and after a call that disconnects, also a `reconnect` that fails, nothing is
registered, and no contract is attached after the latter. -/
theorem handlers_of_run (isAddress : String → Bool) (fallbackRpcUrls : Option (List String))
    (maxReconnectAttempts : Option ℕ) (cs : List Call) :
    (after isAddress fallbackRpcUrls maxReconnectAttempts cs).Tidy ∧
    (after isAddress fallbackRpcUrls maxReconnectAttempts (cs ++ [.unsubscribeAll])).handlers = [] ∧
    ∀ c, (after isAddress fallbackRpcUrls maxReconnectAttempts cs).releases c = true →
      (after isAddress fallbackRpcUrls maxReconnectAttempts (cs ++ [c])).handlers = [] ∧
      (after isAddress fallbackRpcUrls maxReconnectAttempts (cs ++ [c])).tttContract = none ∧
      (after isAddress fallbackRpcUrls maxReconnectAttempts (cs ++ [c])).protocolFeeContract =
        none := by
  have htidy := tidy_after isAddress fallbackRpcUrls maxReconnectAttempts cs
  refine ⟨htidy, ?_, fun c hc => ?_⟩
  · rw [after_concat]
    exact handlers_unsubscribeAll htidy
  · have hnil := handlers_unsubscribeAll htidy
    rw [after_concat]
    cases c with
    | disconnect => exact ⟨hnil, rfl, rfl⟩
    | reconnect answers =>
      have hcred : (storedCredentials (after isAddress fallbackRpcUrls maxReconnectAttempts
        cs).session.connector).isSome = true := hc
      unfold step reconnect
      rw [if_pos hcred]
      exact ⟨hnil, rfl, rfl⟩
    | connect => cases hc
    | attachContract => cases hc
    | attachProtocolFeeContract => cases hc
    | subscribeToEvents => cases hc
    | unsubscribeAll => cases hc

/-! ## Providers -/

/-- Calls make providers, and hold what they held, nothing, or a new one, and never what they held
if they have made one. -/
structure Advances (s t : Session) : Prop where
  length_le : s.providers.length ≤ t.providers.length
  new : ∀ i, t.connector.provider = some i → s.connector.provider = some i ∨ s.providers.length ≤ i
  lt : (∀ i, s.connector.provider = some i → i < s.providers.length) →
    ∀ i, t.connector.provider = some i → i < t.providers.length
  replaced : s.providers.length < t.providers.length →
    ∀ i, t.connector.provider = some i → s.providers.length ≤ i

theorem composes_advances : Composes Advances where
  refl s := ⟨Nat.le_refl _, fun _ h => Or.inl h, id, fun h => absurd h (Nat.lt_irrefl _)⟩
  trans s t u hst htu := by
    refine ⟨Nat.le_trans hst.length_le htu.length_le, fun i hi => ?_, htu.lt ∘ hst.lt,
      fun hlt i hi => ?_⟩
    · rcases htu.new i hi with hi | hi
      · exact hst.new i hi
      · exact Or.inr (Nat.le_trans hst.length_le hi)
    · by_cases hgrows : t.providers.length < u.providers.length
      · exact Nat.le_trans hst.length_le (htu.replaced hgrows i hi)
      · have hst' : s.providers.length < t.providers.length := by omega
        rcases htu.new i hi with hi | hi
        · exact hst.replaced hst' i hi
        · exact Nat.le_trans hst.length_le hi

theorem keeps_assign {f : EVMConnector → EVMConnector}
    (hf : ∀ c i, (f c).provider = some i → c.provider = some i) : Keeps Advances (assign f) :=
  fun _ => ⟨Nat.le_refl _, fun i hi => Or.inl (hf _ i hi), fun h i hi => h i (hf _ i hi),
    fun h => absurd h (Nat.lt_irrefl _)⟩

theorem keeps_newProvider (url : String) (a : Attempt) : Keeps Advances (newProvider url a) := by
  refine .bind composes_advances (keeps_answer composes_advances _) fun _ s => ?_
  have hnew (i : ℕ) (hi : some s.providers.length = some i) : s.providers.length ≤ i :=
    Nat.le_of_eq (Option.some.inj hi)
  refine ⟨?_, fun i hi => Or.inr (hnew i hi), fun _ i hi => ?_, fun _ => hnew⟩
  · simp [write]
  · obtain rfl : s.providers.length = i := Option.some.inj hi
    simp [write]

theorem keeps_setSigner (signerOrKey : SignerOrKey) (a : Attempt) :
    Keeps Advances (setSigner signerOrKey a) := by
  refine .bind composes_advances (keeps_answer composes_advances _) fun _ =>
    keeps_assign fun c i hi => ?_
  split at hi <;> exact hi

theorem keeps_getNetwork (a : Attempt) : Keeps Advances (getNetwork a) := by
  refine .bind composes_advances (keeps_answer composes_advances _) fun _ =>
    .bind composes_advances (fun s => ?_) fun _ => keeps_answer composes_advances _
  have hlength : (markAnswered s.connector.provider s.providers).length = s.providers.length := by
    unfold markAnswered
    split
    · rfl
    · exact List.length_modify ..
  refine ⟨Nat.le_of_eq hlength.symm, fun i hi => Or.inl hi, fun h i hi => ?_, fun hlt => ?_⟩
  · rw [write, hlength]
    exact h i hi
  · rw [write, hlength] at hlt
    exact absurd hlt (Nat.lt_irrefl _)

theorem keeps_attempt {sign : Task Rejection Session Unit} (hsign : Keeps Advances sign)
    (url : String) (a : Attempt) : Keeps Advances (attempt sign url a) :=
  .bind composes_advances (keeps_newProvider url a) fun _ =>
    .bind composes_advances hsign fun _ =>
      .bind composes_advances (keeps_getNetwork a) fun _ => keeps_assign fun _ _ => id

theorem keeps_tryUrls (signerOrKey : SignerOrKey) (answers : ℕ → Attempt)
    (urls : List (String × ℕ)) :
    Keeps Advances (tryEach (attemptUrl signerOrKey answers) urls) :=
  keeps_tryEach composes_advances
    (fun url => show Keeps Advances (attemptUrl signerOrKey answers url) from
      keeps_attempt (keeps_setSigner signerOrKey _) url.1 _) urls

theorem keeps_connect (rpcUrl : Option String) (signerOrKey : SignerOrKey) (answers : ℕ → Attempt) :
    Keeps Advances (EVMConnector.connect rpcUrl signerOrKey answers) := by
  unfold EVMConnector.connect
  cases validUrl rpcUrl with
  | none => exact keeps_answer composes_advances _
  | some url =>
    refine .bind composes_advances (keeps_assign fun _ _ => id) fun _ =>
      .orElse composes_advances (keeps_attempt ?_ url _) fun error => ?_
    · exact .bind composes_advances (keeps_answer composes_advances _) fun _ =>
        keeps_setSigner signerOrKey _
    · split
      · exact keeps_answer composes_advances _
      · refine .bind composes_advances (keeps_read composes_advances _) fun urls =>
          .bind composes_advances (keeps_tryUrls signerOrKey answers _) fun connected => ?_
        split <;> exact keeps_answer composes_advances _

theorem keeps_reconnect (answers : ℕ → Attempt) :
    Keeps Advances (EVMConnector.reconnect answers) := by
  refine .bind composes_advances (keeps_read composes_advances _) fun signerOrKey => ?_
  cases signerOrKey with
  | none => exact keeps_answer composes_advances _
  | some signerOrKey =>
    refine .bind composes_advances (keeps_assign nofun) fun _ =>
      .bind composes_advances (keeps_read composes_advances _) fun urls =>
        .bind composes_advances (keeps_tryUrls signerOrKey answers _) fun connected => ?_
    split
    · exact keeps_answer composes_advances _
    · exact .bind composes_advances (keeps_assign fun _ _ => id) fun _ =>
        .bind composes_advances (keeps_read composes_advances _) fun _ =>
          keeps_answer composes_advances _

theorem advances_disconnect : Keeps Advances EVMConnector.disconnect :=
  keeps_assign nofun

theorem registerIf_session (s : Connector) (contract : Option ℕ) (callback : Bool)
    (event : String) : (s.registerIf contract callback event).session = s.session ∧
      (s.registerIf contract callback event).destroyed = s.destroyed := by
  unfold registerIf
  split
  · split <;> exact ⟨rfl, rfl⟩
  · exact ⟨rfl, rfl⟩

/-- Subscribing has nothing to do with the providers. -/
theorem subscribeToEvents_session (s : Connector) (callbacks : EventCallbacks) :
    (s.subscribeToEvents callbacks).session = s.session ∧
      (s.subscribeToEvents callbacks).destroyed = s.destroyed := by
  unfold subscribeToEvents
  simp only [registerIf_session]
  split <;> exact ⟨rfl, rfl⟩

theorem advances_step (isAddress : String → Bool) (s : Connector) (c : Call) :
    Advances s.session (s.step isAddress c).2.session := by
  cases c with
  | connect rpcUrl signerOrKey answers => exact keeps_connect rpcUrl signerOrKey answers s.session
  | reconnect answers =>
    unfold step reconnect
    dsimp only
    split
    · exact composes_advances.trans _ _ _ (advances_disconnect s.session)
        (keeps_reconnect answers _)
    · exact keeps_reconnect answers s.session
  | disconnect => exact advances_disconnect s.session
  | attachContract address made =>
    obtain ⟨contracts, ttt, fee, hstep⟩ := step_attach isAddress s (Or.inl ⟨address, made, rfl⟩)
    rw [hstep]
    exact composes_advances.refl _
  | attachProtocolFeeContract address made =>
    obtain ⟨contracts, ttt, fee, hstep⟩ := step_attach isAddress s (Or.inr ⟨address, made, rfl⟩)
    rw [hstep]
    exact composes_advances.refl _
  | subscribeToEvents callbacks =>
    rw [step, (s.subscribeToEvents_session callbacks).1]
    exact composes_advances.refl _
  | unsubscribeAll => exact composes_advances.refl _

/-- A call destroys the provider that is held when it lets go of it, and no other. -/
theorem destroyed_step (isAddress : String → Bool) (s : Connector) (c : Call) :
    (s.step isAddress c).2.destroyed =
      (if s.releases c then s.session.connector.provider.toList else []) ++ s.destroyed := by
  cases c with
  | connect rpcUrl signerOrKey answers => rfl
  | reconnect answers =>
    unfold step reconnect releases
    dsimp only
    split <;> rfl
  | disconnect => rfl
  | attachContract address made =>
    obtain ⟨contracts, ttt, fee, hstep⟩ := step_attach isAddress s (Or.inl ⟨address, made, rfl⟩)
    rw [hstep]
    rfl
  | attachProtocolFeeContract address made =>
    obtain ⟨contracts, ttt, fee, hstep⟩ := step_attach isAddress s (Or.inr ⟨address, made, rfl⟩)
    rw [hstep]
    rfl
  | subscribeToEvents callbacks => exact (s.subscribeToEvents_session callbacks).2
  | unsubscribeAll => rfl

/-- After a call that disconnects only a new provider is held. -/
theorem new_of_releases (isAddress : String → Bool) {s : Connector} {c : Call}
    (hc : s.releases c = true) {i : ℕ}
    (hi : (s.step isAddress c).2.session.connector.provider = some i) :
    s.session.providers.length ≤ i := by
  cases c with
  | disconnect => cases hi
  | reconnect answers =>
    have hcred : (storedCredentials s.session.connector).isSome = true := hc
    unfold step reconnect at hi
    rw [if_pos hcred] at hi
    rcases (keeps_reconnect answers s.disconnect.session).new i hi with hnone | hle
    · cases hnone
    · exact hle
  | connect => cases hc
  | attachContract => cases hc
  | attachProtocolFeeContract => cases hc
  | subscribeToEvents => cases hc
  | unsubscribeAll => cases hc

/-- A provider that was made, is not held and was not destroyed. -/
def Adrift (s : Connector) (i : ℕ) : Prop :=
  i < s.session.providers.length ∧ s.session.connector.provider ≠ some i ∧ i ∉ s.destroyed

theorem adrift_step (isAddress : String → Bool) {s : Connector} {i : ℕ} (h : s.Adrift i)
    (c : Call) : (s.step isAddress c).2.Adrift i := by
  obtain ⟨hlt, hheld, hdestroyed⟩ := h
  have hadvances := advances_step isAddress s c
  refine ⟨Nat.lt_of_lt_of_le hlt hadvances.length_le, fun hi => ?_, ?_⟩
  · rcases hadvances.new i hi with hi | hi
    · exact hheld hi
    · omega
  · rw [destroyed_step, List.mem_append, not_or]
    refine ⟨?_, hdestroyed⟩
    split
    · rw [Option.mem_toList]
      exact hheld
    · exact List.not_mem_nil

/-- What is held was made, and is not destroyed yet. -/
structure Running (s : Connector) : Prop where
  held : ∀ i, s.session.connector.provider = some i → i < s.session.providers.length
  destroyed : ∀ i ∈ s.destroyed,
    i < s.session.providers.length ∧ s.session.connector.provider ≠ some i

theorem running_step (isAddress : String → Bool) {s : Connector} (h : s.Running) (c : Call) :
    (s.step isAddress c).2.Running := by
  have hadvances := advances_step isAddress s c
  refine ⟨hadvances.lt h.held, fun i hi => ?_⟩
  rw [destroyed_step, List.mem_append] at hi
  rcases hi with hi | hi
  · split at hi
    · rename_i hreleases
      have hlt := h.held i (Option.mem_toList.1 hi)
      refine ⟨Nat.lt_of_lt_of_le hlt hadvances.length_le, fun hnew => ?_⟩
      have hle := new_of_releases isAddress hreleases hnew
      omega
    · exact absurd hi List.not_mem_nil
  · obtain ⟨hlt, hheld⟩ := h.destroyed i hi
    refine ⟨Nat.lt_of_lt_of_le hlt hadvances.length_le, fun hnew => ?_⟩
    rcases hadvances.new i hnew with hnew | hnew
    · exact hheld hnew
    · omega

/-- What is destroyed after a run was held at a call of it that disconnects. -/
theorem mem_destroyed_after_iff (isAddress : String → Bool) {s : Connector} (h : s.destroyed = [])
    (cs : List Call) (i : ℕ) : i ∈ (Mealy.after (step isAddress) s cs).destroyed ↔
      ∃ k c, cs[k]? = some c ∧
        (Mealy.after (step isAddress) s (cs.take k)).releases c = true ∧
        (Mealy.after (step isAddress) s (cs.take k)).session.connector.provider = some i := by
  induction cs using List.reverseRecOn with
  | nil => simp [h]
  | append_singleton cs c ih =>
    rw [Mealy.after_concat, destroyed_step, List.mem_append, ih]
    constructor
    · rintro (hi | ⟨k, d, hk, hreleases, hheld⟩)
      · split at hi
        · rename_i hreleases
          refine ⟨cs.length, c, by simp, ?_, ?_⟩
          · simpa using hreleases
          · simpa using Option.mem_toList.1 hi
        · exact absurd hi List.not_mem_nil
      · have hlt := (List.getElem?_eq_some_iff.1 hk).1
        refine ⟨k, d, ?_, ?_⟩
        · rw [List.getElem?_append_left hlt, hk]
        · rw [List.take_append_of_le_length (Nat.le_of_lt hlt)]
          exact ⟨hreleases, hheld⟩
    · rintro ⟨k, d, hk, hreleases, hheld⟩
      by_cases hlt : k < cs.length
      · right
        rw [List.getElem?_append_left hlt] at hk
        rw [List.take_append_of_le_length (Nat.le_of_lt hlt)] at hreleases hheld
        exact ⟨k, d, hk, hreleases, hheld⟩
      · left
        rw [List.getElem?_append_right (Nat.le_of_not_lt hlt), List.getElem?_singleton] at hk
        split at hk
        · rename_i hzero
          obtain rfl := Option.some.inj hk
          have hk : k = cs.length := by omega
          subst hk
          rw [List.take_left'] at hreleases hheld
          · rw [if_pos hreleases, hheld]
            exact List.mem_singleton_self i
          all_goals rfl
        · cases hk

/-- **What becomes of the providers.** One is destroyed exactly if it was held at a call that
disconnects. So one that is held when another call makes a new one is never destroyed, whatever is
called afterwards. -/
theorem destroyed_iff (isAddress : String → Bool) (fallbackRpcUrls : Option (List String))
    (maxReconnectAttempts : Option ℕ) (cs : List Call) (i : ℕ) :
    (i ∈ (after isAddress fallbackRpcUrls maxReconnectAttempts cs).destroyed ↔
      ∃ k c, cs[k]? = some c ∧
        (after isAddress fallbackRpcUrls maxReconnectAttempts (cs.take k)).releases c = true ∧
        (after isAddress fallbackRpcUrls maxReconnectAttempts
          (cs.take k)).session.connector.provider = some i) ∧
    ∀ c ds, (after isAddress fallbackRpcUrls maxReconnectAttempts
        cs).session.connector.provider = some i →
      (after isAddress fallbackRpcUrls maxReconnectAttempts cs).releases c = false →
      (after isAddress fallbackRpcUrls maxReconnectAttempts cs).session.providers.length <
        (after isAddress fallbackRpcUrls maxReconnectAttempts
          (cs ++ [c])).session.providers.length →
      i ∉ (after isAddress fallbackRpcUrls maxReconnectAttempts (cs ++ c :: ds)).destroyed := by
  refine ⟨mem_destroyed_after_iff isAddress rfl cs i, fun c ds hheld hkeeps hgrows => ?_⟩
  have hrunning : (after isAddress fallbackRpcUrls maxReconnectAttempts cs).Running :=
    Mealy.invariant_history (step isAddress) (P := fun _ s => s.Running)
      (fun _ c _ h => running_step isAddress h c) ⟨by rintro _ ⟨⟩, by rintro _ ⟨⟩⟩ cs
  have hadrift : ((after isAddress fallbackRpcUrls maxReconnectAttempts cs).step isAddress
      c).2.Adrift i := by
    rw [after_concat] at hgrows
    have hlt := hrunning.held i hheld
    refine ⟨Nat.lt_trans hlt hgrows, fun hi => ?_, ?_⟩
    · have hle := (advances_step isAddress _ c).replaced hgrows i hi
      omega
    · rw [destroyed_step, if_neg (by simp [hkeeps]), List.nil_append]
      exact fun hmem => (hrunning.destroyed i hmem).2 hheld
  rw [after, Mealy.after_append, Mealy.after_cons]
  exact (Mealy.invariant_history (step isAddress) (P := fun _ s => s.Adrift i)
    (fun _ c _ h => adrift_step isAddress h c) hadrift ds).2.2

namespace Sample

/-- An attempt at an endpoint that answers. -/
def good : Attempt := ⟨.ok (), .ok (), .ok 84532⟩

def connecting (rpcUrl : String) : Call := .connect (some rpcUrl) (.signer true) fun _ => good

/-- Two calls of `connect`, and a `disconnect`. -/
def calls : List Call :=
  [connecting "https://sepolia.base.org"] ++ connecting "https://base.org" :: [.disconnect]

end Sample

open Connector.Sample in
/-- The first provider runs on, and the second one is destroyed. -/
theorem destroyed_iff_sample :
    0 ∉ (after (fun _ => true) none none calls).destroyed ∧
      1 ∈ (after (fun _ => true) none none calls).destroyed := by
  constructor
  · exact (destroyed_iff (fun _ => true) none none [connecting "https://sepolia.base.org"] 0).2 _ _
      (by decide +kernel) rfl (by decide +kernel)
  · refine (destroyed_iff (fun _ => true) none none calls 1).1.2 ⟨2, .disconnect, rfl, rfl, ?_⟩
    decide +kernel

end Connector

end EVMConnector

end OpenTTT
