import OpenTTT.Chain.EvmConnector
import OpenTTT.Foundations.Binary64

/-!
# The hook of the SDK

`UniswapV4Hook` of `v4_hook.ts`, which counts swaps and fees off the chain. `beforeSwap` checks the
balance of the sender and records the fee; `afterSwap` burns the fee through the connector, counts a
burn that fails, and returns in any case. What the chain, the connector and the collector answer to
a call is an input of the call. The counters are natural numbers here and doubles in the source,
which count exactly up to `2 ^ 53`.

`statsAfter_counts` says what the counters count: the fees are those of the swaps that `beforeSwap`
has let pass, burned or not, and the swaps without the failed burns are the burns that succeeded.
-/

namespace OpenTTT

/-- `getProvider`. -/
def EVMConnector.getProvider (c : EVMConnector) : Except Rejection ℕ :=
  match c.provider with
  | some provider => .ok provider
  | none => .error (.networkError (.ofCode "TTT_E025" "Provider not connected"
      "RPC provider is null" "Call connect() first."))

/-- The functions of `ethers` that the hook calls. -/
structure EtherText where
  formatEther : ℤ → String
  /-- `keccak256(toUtf8Bytes(text))`, which throws for a text that is not well-formed. -/
  keccak256Utf8 : String → Except Rejection String

structure FeeCalculation where
  feeAmount : ℤ
  tier : String
  deriving DecidableEq

/-- The fields that are set by the constructor; whether there is a collector. -/
structure UniswapV4Hook where
  hookAddress : String
  tttTokenAddress : String
  minTTTBalance : ℤ
  swapFeeTTT : ℤ
  feeCollector : Bool

namespace UniswapV4Hook

/-- The constructor. -/
def new (hookAddress tttTokenAddress : String) (minTTTBalance swapFeeTTT : Option ℤ)
    (feeCollector : Bool) : UniswapV4Hook where
  hookAddress := hookAddress
  tttTokenAddress := tttTokenAddress
  minTTTBalance := minTTTBalance.getD 1000000000000000000
  swapFeeTTT := swapFeeTTT.getD 100000000000000000
  feeCollector := feeCollector

structure Stats where
  totalSwaps : ℕ
  totalFeesCollected : ℤ
  lastSwapTimestamp : ℤ
  failedBurns : ℕ
  deriving DecidableEq

/-- What the calls change: the token contract, once it is made, by its address and provider, and the
statistics. -/
structure State where
  tttContract : Option (String × ℕ)
  stats : Stats
  deriving DecidableEq

namespace State

/-- The state of a new hook. -/
def initial : State := ⟨none, ⟨0, 0, 0, 0⟩⟩

/-- `totalFeesCollected += fee`. -/
def addFee (fee : ℤ) (s : State) : State :=
  { s with stats := { s.stats with totalFeesCollected := s.stats.totalFeesCollected + fee } }

/-- `failedBurns += 1`. -/
def failBurn (s : State) : State :=
  { s with stats := { s.stats with failedBurns := s.stats.failedBurns + 1 } }

/-- `totalSwaps += 1`, at a time. -/
def countSwap (nowMs : ℤ) (s : State) : State :=
  { s with stats :=
    { s.stats with totalSwaps := s.stats.totalSwaps + 1, lastSwapTimestamp := nowMs / 1000 } }

end State

/-! ## The calls -/

/-- A call of `beforeSwap`, with what is answered to it: by the constructor of the contract and by
`balanceOf`. -/
structure BeforeSwap where
  sender : String
  connector : EVMConnector
  contract : Except Rejection Unit
  balance : Except Rejection ℤ

/-- A call of `afterSwap` at the times `hashedMs` and `nowMs`, with what is answered to it: by
`burnTTT`, of an amount, a hash and a tier, and by `collectBurnFee`. -/
structure AfterSwap where
  sender : String
  burnFeeCalc : Option FeeCalculation
  signature : Option String
  nonce : Option ℤ
  deadline : Option Binary64
  hashedMs : ℤ
  nowMs : ℤ
  burnTTT : ℤ → String → ℕ → Except Rejection String
  collectBurnFee : FeeCalculation → String → String → ℤ → Binary64 → Except Rejection Unit

open Throwing Throwing.Task

variable (ethers : EtherText) (self : UniswapV4Hook)

def insufficientBalance (sender : String) (balance : ℤ) : Rejection :=
  .other ("[UniswapV4Hook] Insufficient TTT balance for " ++ sender ++ ". Required: " ++
    ethers.formatEther self.minTTTBalance ++ ", Actual: " ++ ethers.formatEther balance)

/-- What the handler of the balance check throws. -/
def balanceCheckError (error : Rejection) : Rejection :=
  if "Insufficient TTT balance".toList <:+: error.text.toList then error
  else .other ("[UniswapV4Hook] Failed to check TTT balance: " ++ error.text)

/-- `this.tttContract`, made by the first call. -/
def makeContract (call : BeforeSwap) (provider : ℕ) : Task Rejection State Unit := do
  let tttContract ← read State.tttContract
  match tttContract with
  | some _ => pure ()
  | none => do
    answer call.contract
    write fun s => { s with tttContract := some (self.tttTokenAddress, provider) }

def checkBalance (call : BeforeSwap) : Task Rejection State Unit := do
  let balance ← answer call.balance
  if balance < self.minTTTBalance then raise (insufficientBalance ethers self call.sender balance)

def beforeSwap (call : BeforeSwap) : Task Rejection State Unit := do
  let provider ← answer call.connector.getProvider
  makeContract self call provider
  orElse (checkBalance ethers self call) fun error => raise (balanceCheckError error)
  write (State.addFee self.swapFeeTTT)

/-- What `burnTTT` answers in a call of `afterSwap`, unless the hash throws. -/
def burn (call : AfterSwap) : Except Rejection String := do
  let grgHash ← ethers.keccak256Utf8 ("burn-" ++ call.sender ++ "-" ++ toString call.hashedMs)
  call.burnTTT self.swapFeeTTT grgHash 1

/-- What `collectBurnFee` answers, if there is a collector and everything for it. -/
def collected (call : AfterSwap) : Option (Except Rejection Unit) := do
  let burnFeeCalc ← call.burnFeeCalc
  let signature ← call.signature
  let nonce ← call.nonce
  let deadline ← call.deadline
  if self.feeCollector ∧ signature ≠ "" then
    some (call.collectBurnFee burnFeeCalc signature call.sender nonce deadline)
  else none

/-- The fee of the burn, of which an error is only logged. -/
def collectFee (call : AfterSwap) : Task Rejection State Unit :=
  match collected self call with
  | some answered => orElse (answer answered) fun _ => pure ()
  | none => pure ()

def burnFee (call : AfterSwap) : Task Rejection State Unit := do
  let _ ← answer (burn ethers self call)
  collectFee self call

def afterSwap (call : AfterSwap) : Task Rejection State Unit := do
  orElse (burnFee ethers self call) fun _ => write State.failBurn
  write (State.countSwap call.nowMs)

def getHookAddress : String := self.hookAddress

/-- `getStats`, with the fees as a text. -/
def getStats (s : State) : ℕ × String × ℤ × ℕ :=
  (s.stats.totalSwaps, ethers.formatEther s.stats.totalFeesCollected, s.stats.lastSwapTimestamp,
    s.stats.failedBurns)

inductive Call
  | beforeSwap (call : BeforeSwap)
  | afterSwap (call : AfterSwap)

/-- A call, to its end. -/
def step (s : State) : Call → Except Rejection Unit × State
  | .beforeSwap call => beforeSwap ethers self call s
  | .afterSwap call => afterSwap ethers self call s

/-! ## What a call does to the statistics -/

theorem makeContract_stats (call : BeforeSwap) (provider : ℕ) (s : State) :
    ∃ x t, makeContract self call provider s = (x, t) ∧ t.stats = s.stats := by
  obtain ⟨tttContract, stats⟩ := s
  cases tttContract with
  | some provider' => exact ⟨_, _, rfl, rfl⟩
  | none =>
    cases hcontract : call.contract with
    | ok _ => exact ⟨_, _, (bind_of_ok rfl).trans (bind_of_ok (by rw [answer, hcontract])), rfl⟩
    | error e =>
      exact ⟨_, _, (bind_of_ok rfl).trans (bind_of_error (by rw [answer, hcontract])), rfl⟩

/-- The check of the balance writes nothing. -/
theorem checkBalance_state (call : BeforeSwap) (s : State) :
    ∃ x, checkBalance ethers self call s = (x, s) := by
  cases hbalance : call.balance with
  | error e => exact ⟨_, bind_of_error (by rw [answer, hbalance])⟩
  | ok balance =>
    have hrun : checkBalance ethers self call s =
        (if balance < self.minTTTBalance then
          raise (insufficientBalance ethers self call.sender balance)
        else pure () : Task Rejection State Unit) s :=
      bind_of_ok (by rw [answer, hbalance])
    rw [hrun]
    split
    · exact ⟨_, rfl⟩
    · exact ⟨_, rfl⟩

/-- **What `beforeSwap` does to the statistics**: it records the fee, or throws. -/
theorem beforeSwap_cases (call : BeforeSwap) (s : State) :
    (∃ t : State, beforeSwap ethers self call s = (.ok (), t.addFee self.swapFeeTTT) ∧
      t.stats = s.stats) ∨
    ∃ e, ∃ t : State, beforeSwap ethers self call s = (.error e, t) ∧ t.stats = s.stats := by
  cases hprovider : call.connector.getProvider with
  | error e => exact Or.inr ⟨e, s, bind_of_error (by rw [answer, hprovider]), rfl⟩
  | ok provider =>
    have hstart : answer call.connector.getProvider s = (.ok provider, s) := by
      rw [answer, hprovider]
    obtain ⟨x, t, hmake, hstats⟩ := makeContract_stats self call provider s
    cases x with
    | error e => exact Or.inr ⟨e, t, (bind_of_ok hstart).trans (bind_of_error hmake), hstats⟩
    | ok _ =>
      obtain ⟨x, hcheck⟩ := checkBalance_state ethers self call t
      cases x with
      | error e =>
        refine Or.inr ⟨balanceCheckError e, t, ?_, hstats⟩
        refine (bind_of_ok hstart).trans ((bind_of_ok hmake).trans (bind_of_error ?_))
        exact orElse_of_error hcheck
      | ok _ =>
        refine Or.inl ⟨t, ?_, hstats⟩
        exact (bind_of_ok hstart).trans
          ((bind_of_ok hmake).trans (bind_of_ok (orElse_of_ok hcheck)))

/-- Collecting the fee of a burn has no effect here. -/
theorem collectFee_apply (call : AfterSwap) (s : State) :
    collectFee self call s = (.ok (), s) := by
  unfold collectFee
  cases collected self call with
  | none => rfl
  | some answered =>
    cases answered with
    | ok _ => exact orElse_of_ok rfl
    | error e => exact orElse_of_error rfl

/-- **What `afterSwap` does**: it counts the swap, and the burn if that has failed. It does not
throw. -/
theorem afterSwap_apply (call : AfterSwap) (s : State) : afterSwap ethers self call s =
    (.ok (), (if (burn ethers self call).isOk then s else s.failBurn).countSwap call.nowMs) := by
  cases hburn : burn ethers self call with
  | ok hash =>
    have hrun : burnFee ethers self call s = (.ok (), s) :=
      (bind_of_ok (by rw [answer, hburn])).trans (collectFee_apply self call s)
    exact bind_of_ok (orElse_of_ok hrun)
  | error e =>
    have hrun : burnFee ethers self call s = (.error e, s) :=
      bind_of_error (by rw [answer, hburn])
    have hcatch : orElse (burnFee ethers self call) (fun _ => write State.failBurn) s =
        (.ok (), s.failBurn) :=
      orElse_of_error hrun
    exact bind_of_ok hcatch

/-! ## Runs -/

/-- A swap that `beforeSwap` has let pass. -/
def Passed : Call × Except Rejection Unit → Bool
  | (.beforeSwap _, .ok ()) => true
  | _ => false

/-- A call of `afterSwap` whose `burnTTT` succeeds. -/
def Burned : Call → Bool
  | .afterSwap call => (burn ethers self call).isOk
  | .beforeSwap _ => false

/-- The calls of a run, with what they end in. -/
def history (calls : List Call) : List (Call × Except Rejection Unit) :=
  calls.zip (Mealy.outputs (step ethers self) .initial calls)

/-- The statistics after a run. -/
def statsAfter (calls : List Call) : Stats :=
  (Mealy.after (step ethers self) .initial calls).stats

/-- One call adds what it counts. -/
theorem step_stats (s : State) (c : Call) :
    (step ethers self s c).2.stats.totalFeesCollected = s.stats.totalFeesCollected +
        self.swapFeeTTT * (if Passed (c, (step ethers self s c).1) then 1 else 0) ∧
      ((step ethers self s c).2.stats.totalSwaps : ℤ) - (step ethers self s c).2.stats.failedBurns =
        s.stats.totalSwaps - s.stats.failedBurns + if Burned ethers self c then 1 else 0 := by
  cases c with
  | beforeSwap call =>
    rw [step]
    rcases beforeSwap_cases ethers self call s with ⟨t, hrun, hstats⟩ | ⟨e, t, hrun, hstats⟩
    · rw [hrun]
      simp [State.addFee, hstats, Passed, Burned]
    · rw [hrun]
      simp [hstats, Passed, Burned]
  | afterSwap call =>
    rw [step, afterSwap_apply]
    cases hburn : burn ethers self call with
    | ok hash => simp [State.countSwap, Passed, Burned, hburn, Except.isOk, Except.toBool]; omega
    | error e =>
      simp [State.countSwap, State.failBurn, Passed, Burned, hburn, Except.isOk, Except.toBool]

/-- The statistics after calls from any state. -/
theorem stats_after_from (s : State) (calls : List Call) :
    (Mealy.after (step ethers self) s calls).stats.totalFeesCollected =
        s.stats.totalFeesCollected + self.swapFeeTTT *
          (calls.zip (Mealy.outputs (step ethers self) s calls)).countP Passed ∧
      ((Mealy.after (step ethers self) s calls).stats.totalSwaps : ℤ) -
          (Mealy.after (step ethers self) s calls).stats.failedBurns =
        s.stats.totalSwaps - s.stats.failedBurns + calls.countP (Burned ethers self) := by
  induction calls generalizing s with
  | nil => simp
  | cons c calls ih =>
    obtain ⟨hfees, hswaps⟩ := step_stats ethers self s c
    obtain ⟨hfees', hswaps'⟩ := ih (step ethers self s c).2
    rw [Mealy.after_cons, Mealy.outputs, List.zip_cons_cons, List.countP_cons, List.countP_cons,
      hfees', hfees, hswaps', hswaps]
    constructor
    · push_cast
      ring
    · push_cast
      ring

/-- **What the statistics count**: after any calls, the fees collected are those of the swaps that
`beforeSwap` has let pass, and the swaps without the failed burns are as many as the burns that
succeeded. -/
theorem statsAfter_counts (calls : List Call) :
    (statsAfter ethers self calls).totalFeesCollected =
        self.swapFeeTTT * (history ethers self calls).countP Passed ∧
      ((statsAfter ethers self calls).totalSwaps : ℤ) - (statsAfter ethers self calls).failedBurns =
        calls.countP (Burned ethers self) := by
  obtain ⟨hfees, hswaps⟩ := stats_after_from ethers self .initial calls
  constructor
  · exact hfees.trans (zero_add _)
  · exact hswaps.trans (zero_add _)

/-- The fees are those of the burns that succeeded, for every hook and after any calls, and so are
the swaps without the failed burns. -/
def FeesMatchBurns : Prop :=
  ∀ (self : UniswapV4Hook) (calls : List Call),
    (statsAfter ethers self calls).totalFeesCollected =
        self.swapFeeTTT * calls.countP (Burned ethers self) ∧
      ((statsAfter ethers self calls).totalSwaps : ℤ) - (statsAfter ethers self calls).failedBurns =
        calls.countP (Burned ethers self)

/-- A swap that passes, and whose burn fails. -/
def failedBurn : List Call :=
  [.beforeSwap
    { sender := "0x3333333333333333333333333333333333333333"
      connector := { (EVMConnector.new none none).connector with provider := some 0 }
      contract := .ok ()
      balance := .ok 2000000000000000000 },
    .afterSwap
    { sender := "0x3333333333333333333333333333333333333333"
      burnFeeCalc := none
      signature := none
      nonce := none
      deadline := none
      hashedMs := 1700000000000
      nowMs := 1700000000000
      burnTTT := fun _ _ _ => .error (.other "[EVM] Burn failed")
      collectBurnFee := fun _ _ _ _ _ => .ok () }]

/-- A hook with the fees that the constructor sets. -/
def defaultHook : UniswapV4Hook :=
  new "0x1111111111111111111111111111111111111111" "0x2222222222222222222222222222222222222222" none
    none false

theorem burned_failedBurn : failedBurn.countP (Burned ethers defaultHook) = 0 := by
  rw [List.countP_eq_zero, failedBurn]
  rintro c hc
  rcases List.mem_pair.1 hc with rfl | rfl
  · exact Bool.false_ne_true
  · rw [Burned, burn]
    cases ethers.keccak256Utf8 _ <;> exact Bool.false_ne_true

/-- The fee of the swap is recorded. -/
theorem fees_failedBurn :
    (statsAfter ethers defaultHook failedBurn).totalFeesCollected = 100000000000000000 := by
  rw [statsAfter, failedBurn, Mealy.after_cons, Mealy.after_cons, Mealy.after_nil, step, step,
    afterSwap_apply]
  split <;> rfl

/-- Whatever the functions of `ethers` are, a fee is counted as collected that was not burned. -/
theorem not_feesMatchBurns : ¬ ∃ ethers, FeesMatchBurns ethers := by
  rintro ⟨ethers, h⟩
  obtain ⟨hfees, -⟩ := h defaultHook failedBurn
  rw [fees_failedBurn, burned_failedBurn] at hfees
  exact absurd hfees (by decide)

end UniswapV4Hook

end OpenTTT
