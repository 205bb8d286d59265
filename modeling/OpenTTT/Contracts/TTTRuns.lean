import OpenTTT.Contracts.ERC1155
import OpenTTT.Contracts.TTT
import OpenTTT.Foundations.Reentrancy

/-!
# Runs of the token contract

`TTT.sol` under any transactions. In the middle of `mint` and of an inherited transfer the recipient
of the tokens is called; it is unknown code and can enter the contract again, in the name of anyone
and at any depth (`Reentrancy.Script`). The guard keeps it out of `mint` and `burn`.

What the contract is for is a ledger of mints and burns (`Op.apply`). `Extends` says that between
the start and the end of any frame the events of the contract's own are those of some mints and
burns, one after another, which lead from the supplies before to the supplies after, and that there
are none while the guard is set. `ledger_of_run` is what this comes to for runs, and `mint_atomic`
for one `mint`, whatever the recipient does.
-/

namespace OpenTTT

namespace TTT

open OpenZeppelin (ERC1155Call ERC1155Library)

section Definitions

variable (lib : ERC1155Library)

/-- The storage, and the events since the contract was deployed. -/
structure Contract where
  storage : lib.Storage
  events : List (Event lib)

/-- A new contract. -/
def deployed (keccak256 : Buffer → Bytes32) (msgSender : Address) : Contract lib :=
  ⟨(deploy lib keccak256 msgSender).1, (deploy lib keccak256 msgSender).2⟩

/-- The functions that write, with their callers. -/
inductive Entry
  | mint (msgSender recipient : Address) (amount : Uint256) (grgHash : Bytes32)
  | burn (msgSender : Address) (amount : Uint256) (grgHash : Bytes32) (tier : Uint256)
  | pause (msgSender : Address)
  | unpause (msgSender : Address)
  | inherited (msgSender : Address) (call : ERC1155Call)

variable {lib}

/-- A function on the storage, with its events logged. -/
def Contract.log (c : Contract lib)
    (f : lib.Storage → Except (Error lib) (lib.Storage × List (Event lib))) :
    Option (Contract lib) :=
  match f c.storage with
  | .ok (storage, events) => some ⟨storage, c.events ++ events⟩
  | .error _ => none

/-- A function without a call outside. -/
def atOnce (result : Option (Contract lib)) : Reentrancy.Outcome (Contract lib) :=
  match result with
  | some c => .done c
  | none => .revert

/-- A function that calls the recipient, and what it does then. -/
def telling (result : Option (Contract lib)) (resume : Contract lib → Option (Contract lib)) :
    Reentrancy.Outcome (Contract lib) :=
  match result with
  | some c => .call c resume
  | none => .revert

variable (keccak256 : Buffer → Bytes32)

/-- A function as an entry point. -/
def run (timestamp : Uint256) : Entry → Contract lib → Reentrancy.Outcome (Contract lib)
  | .mint msgSender recipient amount grgHash, c =>
    telling (c.log (beforeMint keccak256 msgSender recipient amount grgHash)) fun c' =>
      c'.log fun s => .ok (afterMint keccak256 timestamp recipient amount grgHash s)
  | .burn msgSender amount grgHash tier, c => atOnce (c.log (burn msgSender amount grgHash tier))
  | .pause msgSender, c => atOnce (c.log (pause keccak256 msgSender))
  | .unpause msgSender, c => atOnce (c.log (unpause keccak256 msgSender))
  | .inherited msgSender call, c =>
    if call.tellsRecipient then
      telling (c.log fun s => onBase (lib.inherited msgSender call s)) some
    else atOnce (c.log fun s => onBase (lib.inherited msgSender call s))

/-- A transaction, at the time of its block. -/
abbrev Transaction := Uint256 × Reentrancy.Script Entry

/-- The contract after transactions. -/
def after (c : Contract lib) (txs : List Transaction) : Contract lib :=
  Reentrancy.after (run keccak256) c txs

/-! ## The ledger -/

/-- What a ledger of the supplies is changed by. -/
inductive Op
  | mint (recipient : Address) (amount : Uint256) (grgHash : Bytes32) (timestamp : Uint256)
  | burn (sender : Address) (amount : Uint256) (grgHash : Bytes32) (tier : Uint256)

/-- The supplies after a mint or a burn. Nothing is not minted or burned, and what is not there is
not burned. -/
def Op.apply (supply : Uint256 → ℕ) : Op → Option (Uint256 → ℕ)
  | .mint _ amount grgHash _ =>
    let id := Solidity.toUint256 grgHash
    if 0 < amount.toNat ∧ supply id + amount.toNat < 2 ^ 256 then
      some (Function.update supply id (supply id + amount.toNat))
    else none
  | .burn _ amount grgHash _ =>
    let id := Solidity.toUint256 grgHash
    if 0 < amount.toNat ∧ amount.toNat ≤ supply id then
      some (Function.update supply id (supply id - amount.toNat))
    else none

/-- The supplies after several of them. -/
def replay (supply : Uint256 → ℕ) (ops : List Op) : Option (Uint256 → ℕ) :=
  ops.foldlM Op.apply supply

/-- The events that report one of them. -/
def Op.events : Op → List (Event lib)
  | .mint recipient amount grgHash timestamp =>
    let tokenId := Solidity.toUint256 grgHash
    [.TTTMinted recipient tokenId amount,
      .PoTAnchored tokenId grgHash (keccak256 (encodeMint recipient amount)) timestamp]
  | .burn sender amount grgHash tier => [.TTTBurned sender (Solidity.toUint256 grgHash) amount tier]

/-- Whether an event is one of the contract's own. -/
def Event.isOwn : Event lib → Bool
  | .base _ => false
  | _ => true

def Contract.ownEvents (c : Contract lib) : List (Event lib) := c.events.filter Event.isOwn

def Contract.supply (c : Contract lib) (id : Uint256) : ℕ := (lib.totalSupply id c.storage).toNat

def Contract.entered (c : Contract lib) : Bool := lib.entered c.storage

/-- **What a frame does**: the guard is as before, and the mints and burns that its events report
lead to the supplies at its end. There are none of them while the guard is set. -/
structure Extends (c c' : Contract lib) : Prop where
  entered : c'.entered = c.entered
  ops : ∃ ops : List Op, c'.ownEvents = c.ownEvents ++ ops.flatMap (Op.events keccak256) ∧
    replay c.supply ops = some c'.supply ∧ (c.entered = true → ops = [])

end Definitions

/-! ## What the functions do -/

section Functions

variable {lib : ERC1155Library} {keccak256 : Buffer → Bytes32} {c c' c₁ c₂ : Contract lib}

theorem Extends.refl (c : Contract lib) : Extends keccak256 c c :=
  ⟨rfl, [], by simp, rfl, fun _ => rfl⟩

theorem Extends.trans (h₁ : Extends keccak256 c c₁) (h₂ : Extends keccak256 c₁ c₂) :
    Extends keccak256 c c₂ := by
  obtain ⟨hentered₁, ops₁, hevents₁, hreplay₁, hnone₁⟩ := h₁
  obtain ⟨hentered₂, ops₂, hevents₂, hreplay₂, hnone₂⟩ := h₂
  refine ⟨hentered₂.trans hentered₁, ops₁ ++ ops₂, ?_, ?_, fun hc => ?_⟩
  · rw [hevents₂, hevents₁, List.flatMap_append, List.append_assoc]
  · rw [replay, List.foldlM_append]
    rw [replay] at hreplay₁ hreplay₂
    rw [hreplay₁]
    exact hreplay₂
  · rw [hnone₁ hc, hnone₂ (hentered₁.trans hc)]
    rfl

/-- What a function that succeeds leaves. -/
theorem log_eq_some {f : lib.Storage → Except (Error lib) (lib.Storage × List (Event lib))}
    (h : c.log f = some c') :
    ∃ events, f c.storage = .ok (c'.storage, events) ∧ c'.events = c.events ++ events := by
  unfold Contract.log at h
  split at h
  · rename_i storage events hf
    cases h
    exact ⟨events, hf, rfl⟩
  · cases h

theorem onBase_ok {result : Except lib.Error (lib.Storage × List lib.Event)} {s : lib.Storage}
    {events : List (Event lib)} (h : onBase result = .ok (s, events)) :
    ∃ base, result = .ok (s, base) ∧ events = base.map .base := by
  obtain ⟨⟨s', base⟩, hbase, h⟩ := bind_eq_ok.1 h
  cases h
  exact ⟨base, mapError_eq_ok.1 hbase, rfl⟩

/-- The inherited functions report nothing of the contract's own. -/
@[simp] theorem filter_map_base (base : List lib.Event) :
    (base.map Event.base).filter Event.isOwn = [] := by
  rw [List.filter_eq_nil_iff]
  intro e he
  obtain ⟨b, -, rfl⟩ := List.mem_map.1 he
  exact Bool.false_ne_true

/-- Functions that leave the supplies and the guard. -/
theorem extends_of_same {base : List lib.Event} (hevents : c'.events = c.events ++ base.map .base)
    (hsame : lib.SameSupply c.storage c'.storage) : Extends keccak256 c c' := by
  have hown : c'.ownEvents = c.ownEvents := by
    rw [Contract.ownEvents, hevents, List.filter_append, filter_map_base, List.append_nil]
    rfl
  have hsupply : c'.supply = c.supply := by
    funext id
    rw [Contract.supply, hsame.totalSupply]
    rfl
  refine ⟨hsame.entered, [], ?_, ?_, fun _ => rfl⟩
  · rw [hown, List.flatMap_nil, List.append_nil]
  · rw [hsupply]
    rfl

theorem extends_inherited (hlib : lib.Documented) {msgSender : Address} {call : ERC1155Call}
    (h : c.log (fun s => onBase (lib.inherited msgSender call s)) = some c') :
    Extends keccak256 c c' := by
  obtain ⟨events, hbase, hevents⟩ := log_eq_some h
  obtain ⟨base, hinherited, rfl⟩ := onBase_ok hbase
  exact extends_of_same hevents (hlib.inherited hinherited)

theorem extends_pause (hlib : lib.Documented) {msgSender : Address}
    (h : c.log (pause keccak256 msgSender) = some c' ∨
      c.log (unpause keccak256 msgSender) = some c') : Extends keccak256 c c' := by
  rcases h with h | h <;> obtain ⟨events, hrun, hevents⟩ := log_eq_some h <;>
    obtain ⟨_, -, hbase⟩ := bind_eq_ok.1 hrun <;> obtain ⟨base, hpause, rfl⟩ := onBase_ok hbase
  · exact extends_of_same hevents (hlib._pause hpause)
  · exact extends_of_same hevents (hlib._unpause hpause)

theorem requirePositive_ok {amount : Uint256} {u : Unit}
    (h : (requirePositive amount : Except (Error lib) Unit) = .ok u) : 0 < amount.toNat := by
  unfold requirePositive at h
  split at h
  · rename_i hpos
    exact BitVec.lt_def.1 hpos
  · cases h

/-- `mint` up to the call: the guard is set, the supply has grown, and nothing is reported yet. -/
theorem beforeMint_ok (hlib : lib.Documented) {msgSender recipient : Address} {amount : Uint256}
    {grgHash : Bytes32} (timestamp : Uint256)
    (h : c.log (beforeMint keccak256 msgSender recipient amount grgHash) = some c') :
    c.entered = false ∧ c'.entered = true ∧ c'.ownEvents = c.ownEvents ∧
      Op.apply c.supply (.mint recipient amount grgHash timestamp) = some c'.supply := by
  obtain ⟨events, hrun, hevents⟩ := log_eq_some h
  obtain ⟨_, -, hrun⟩ := bind_eq_ok.1 hrun
  obtain ⟨_, -, hrun⟩ := bind_eq_ok.1 hrun
  obtain ⟨s, hguard, hrun⟩ := bind_eq_ok.1 hrun
  obtain ⟨_, hpos, hrun⟩ := bind_eq_ok.1 hrun
  obtain ⟨base, hmint, rfl⟩ := onBase_ok hrun
  obtain ⟨hbefore, hset, hsame⟩ := hlib._nonReentrantBefore (mapError_eq_ok.1 hguard)
  obtain ⟨hsupply, hother, hentered⟩ := hlib._mint hmint
  refine ⟨hbefore, hentered.trans hset, ?_, ?_⟩
  · rw [Contract.ownEvents, hevents, List.filter_append, filter_map_base, List.append_nil]
    rfl
  rw [hsame] at hsupply
  have hlt := (lib.totalSupply (Solidity.toUint256 grgHash) c'.storage).isLt
  rw [Op.apply, if_pos ⟨requirePositive_ok hpos, hsupply ▸ hlt⟩]
  congr 1
  funext id
  by_cases hid : id = Solidity.toUint256 grgHash
  · rw [hid, Function.update_self]
    exact hsupply.symm
  · rw [Function.update_of_ne hid, Contract.supply, Contract.supply, hother id hid, hsame]

/-- `mint` after the call: the guard is not set any more, and the mint is reported. -/
theorem afterMint_ok (hlib : lib.Documented) {recipient : Address} {timestamp amount : Uint256}
    {grgHash : Bytes32}
    (h : c.log (fun s => .ok (afterMint keccak256 timestamp recipient amount grgHash s)) =
      some c') :
    c'.entered = false ∧ c'.supply = c.supply ∧
      c'.ownEvents =
        c.ownEvents ++ (Op.mint recipient amount grgHash timestamp).events keccak256 := by
  obtain ⟨events, hrun, hevents⟩ := log_eq_some h
  obtain ⟨hstorage, hreported⟩ := Prod.mk.inj (Except.ok.inj hrun)
  obtain ⟨hentered, hsame⟩ := hlib._nonReentrantAfter c.storage
  refine ⟨?_, ?_, ?_⟩
  · rw [Contract.entered, ← hstorage]
    exact hentered
  · funext id
    rw [Contract.supply, ← hstorage, hsame]
    rfl
  · rw [Contract.ownEvents, hevents, List.filter_append, ← hreported]
    rfl

/-- `burn`, which calls nobody. -/
theorem extends_burn (hlib : lib.Documented) {msgSender : Address} {amount tier : Uint256}
    {grgHash : Bytes32} (h : c.log (burn msgSender amount grgHash tier) = some c') :
    Extends keccak256 c c' := by
  obtain ⟨events, hrun, hevents⟩ := log_eq_some h
  obtain ⟨_, -, hrun⟩ := bind_eq_ok.1 hrun
  obtain ⟨s, hguard, hrun⟩ := bind_eq_ok.1 hrun
  obtain ⟨_, hpos, hrun⟩ := bind_eq_ok.1 hrun
  obtain ⟨⟨s', events'⟩, hbase, hrun⟩ := bind_eq_ok.1 hrun
  obtain ⟨base, hburn, rfl⟩ := onBase_ok hbase
  obtain ⟨hstorage, hreported⟩ := Prod.mk.inj (Except.ok.inj hrun)
  obtain ⟨hbefore, -, hsame⟩ := hlib._nonReentrantBefore (mapError_eq_ok.1 hguard)
  obtain ⟨hsupply, hother, -⟩ := hlib._burn hburn
  obtain ⟨hafter, hkept⟩ := hlib._nonReentrantAfter s'
  rw [hsame] at hsupply
  have hle : amount.toNat ≤ c.supply (Solidity.toUint256 grgHash) := by
    rw [Contract.supply]
    omega
  refine ⟨?_, [.burn msgSender amount grgHash tier], ?_, ?_, fun hset => ?_⟩
  · rw [Contract.entered, Contract.entered, ← hstorage, hafter, hbefore]
  · rw [Contract.ownEvents, hevents, ← hreported, List.filter_append, List.filter_append,
      filter_map_base]
    rfl
  · rw [replay, List.foldlM_cons, Op.apply, if_pos ⟨requirePositive_ok hpos, hle⟩]
    refine congrArg some (funext fun id => ?_)
    by_cases hid : id = Solidity.toUint256 grgHash
    · rw [hid, Function.update_self, Contract.supply, Contract.supply, ← hstorage, hkept]
      omega
    · rw [Function.update_of_ne hid, Contract.supply, Contract.supply, ← hstorage, hkept,
        hother id hid, hsame]
  · exact absurd hset (by rw [Contract.entered, hbefore]; exact Bool.false_ne_true)

/-! ## Runs -/

/-- While the guard is set nothing is minted or burned. -/
theorem Extends.of_entered (h : Extends keccak256 c c') (hc : c.entered = true) :
    c'.ownEvents = c.ownEvents ∧ c'.supply = c.supply := by
  obtain ⟨-, ops, hevents, hreplay, hnone⟩ := h
  rw [hnone hc] at hevents hreplay
  exact ⟨by simpa using hevents, (Option.some.inj hreplay).symm⟩

/-- A mint around a call in which nothing is minted or burned. -/
theorem mint_ok (hlib : lib.Documented) {msgSender recipient : Address}
    {timestamp amount : Uint256} {grgHash : Bytes32}
    (hbefore : c.log (beforeMint keccak256 msgSender recipient amount grgHash) = some c₁)
    (hcall : Extends keccak256 c₁ c₂)
    (hafter : c₂.log (fun s => .ok (afterMint keccak256 timestamp recipient amount grgHash s)) =
      some c') :
    c.entered = false ∧ c'.entered = false ∧
      c'.ownEvents =
        c.ownEvents ++ (Op.mint recipient amount grgHash timestamp).events keccak256 ∧
      Op.apply c.supply (.mint recipient amount grgHash timestamp) = some c'.supply := by
  obtain ⟨hstart, hset, hevents₁, happly⟩ := beforeMint_ok hlib timestamp hbefore
  obtain ⟨hevents₂, hsupply₂⟩ := hcall.of_entered hset
  obtain ⟨hend, hsupply, hevents⟩ := afterMint_ok hlib hafter
  refine ⟨hstart, hend, ?_, ?_⟩
  · rw [hevents, hevents₂, hevents₁]
  · rw [happly, hsupply, hsupply₂]

theorem telling_eq_call {result : Option (Contract lib)}
    {resume resume' : Contract lib → Option (Contract lib)}
    (h : telling result resume = .call c resume') : result = some c ∧ resume' = resume := by
  unfold telling at h
  split at h
  · cases h
    exact ⟨rfl, rfl⟩
  · cases h

theorem atOnce_eq_done {result : Option (Contract lib)} (h : atOnce result = .done c) :
    result = some c := by
  unfold atOnce at h
  split at h
  · cases h
    rfl
  · cases h

theorem atOnce_ne_call {result : Option (Contract lib)}
    {resume : Contract lib → Option (Contract lib)} : atOnce result ≠ .call c resume := by
  unfold atOnce
  split <;> nofun

theorem telling_ne_done {result : Option (Contract lib)}
    {resume : Contract lib → Option (Contract lib)} : telling result resume ≠ .done c := by
  unfold telling
  split <;> nofun

/-- **Entry points keep the ledger**, one case for each of them. -/
theorem kept (hlib : lib.Documented) (keccak256 : Buffer → Bytes32) (timestamp : Uint256) :
    Reentrancy.Kept (@run lib keccak256 timestamp) (Extends keccak256) where
  refl := .refl
  trans := .trans
  done {entry c c'} h := by
    cases entry with
    | mint msgSender recipient amount grgHash => exact absurd h telling_ne_done
    | burn msgSender amount grgHash tier => exact extends_burn hlib (atOnce_eq_done h)
    | pause msgSender => exact extends_pause hlib (Or.inl (atOnce_eq_done h))
    | unpause msgSender => exact extends_pause hlib (Or.inr (atOnce_eq_done h))
    | inherited msgSender call =>
      rw [run] at h
      split at h
      · exact absurd h telling_ne_done
      · exact extends_inherited hlib (atOnce_eq_done h)
  call {entry c c₁ resume c₂ c'} h hcall hresume := by
    cases entry with
    | mint msgSender recipient amount grgHash =>
      obtain ⟨hbefore, rfl⟩ := telling_eq_call h
      obtain ⟨hstart, hend, hevents, happly⟩ := mint_ok hlib hbefore hcall hresume
      refine ⟨hend.trans hstart.symm, [.mint recipient amount grgHash timestamp], ?_, ?_,
        fun hset => ?_⟩
      · rw [hevents, List.flatMap_singleton]
      · rw [replay, List.foldlM_cons, happly]
        rfl
      · exact absurd hset (by rw [hstart]; exact Bool.false_ne_true)
    | burn msgSender amount grgHash tier => exact absurd h atOnce_ne_call
    | pause msgSender => exact absurd h atOnce_ne_call
    | unpause msgSender => exact absurd h atOnce_ne_call
    | inherited msgSender call =>
      rw [run] at h
      split at h
      · obtain ⟨hinherited, rfl⟩ := telling_eq_call h
        cases hresume
        exact (extends_inherited hlib hinherited).trans hcall
      · exact absurd h atOnce_ne_call

theorem entered_deployed (hlib : lib.Documented) (keccak256 : Buffer → Bytes32)
    (msgSender : Address) :
    (deployed lib keccak256 msgSender).entered = false ∧
      (deployed lib keccak256 msgSender).supply = fun _ => 0 := by
  have hgrant (role : Bytes32) (s : lib.Storage) := hlib._grantRole msgSender role msgSender s
  obtain ⟨hsupply, hentered⟩ := hlib.construct "https://api.helm.network/ttt/\x7bid\x7d.json"
  constructor
  · rw [Contract.entered]
    exact (hgrant _ _).entered.trans
      ((hgrant _ _).entered.trans ((hgrant _ _).entered.trans hentered))
  · funext id
    rw [Contract.supply]
    exact congrArg BitVec.toNat (((hgrant _ _).totalSupply id).trans
      (((hgrant _ _).totalSupply id).trans (((hgrant _ _).totalSupply id).trans (hsupply id))))

theorem ownEvents_deployed (keccak256 : Buffer → Bytes32) (msgSender : Address) :
    (deployed lib keccak256 msgSender).ownEvents = [] := filter_map_base _

end Functions

/-- **The contract is a ledger of mints and burns**: after any transactions its own events are those
of mints and burns, one after another, which lead from nothing to the supplies. -/
theorem ledger_of_run {lib : ERC1155Library} (hlib : lib.Documented) (keccak256 : Buffer → Bytes32)
    (msgSender : Address) (txs : List Transaction) :
    (after keccak256 (deployed lib keccak256 msgSender) txs).entered = false ∧
      ∃ ops : List Op,
        (after keccak256 (deployed lib keccak256 msgSender) txs).ownEvents =
            ops.flatMap (Op.events keccak256) ∧
          replay (fun _ => 0) ops =
            some (after keccak256 (deployed lib keccak256 msgSender) txs).supply := by
  obtain ⟨hentered, hsupply⟩ := entered_deployed hlib keccak256 msgSender
  obtain ⟨hend, ops, hevents, hreplay, -⟩ :=
    Reentrancy.Kept.after Extends.refl (kept hlib keccak256)
      (deployed lib keccak256 msgSender) txs
  rw [ownEvents_deployed, List.nil_append] at hevents
  rw [hsupply] at hreplay
  exact ⟨hend.trans hentered, ops, hevents, hreplay⟩

namespace Sample

/-- A hash that tells short buffers apart. -/
def keccak256 (b : Buffer) : Bytes32 := Solidity.toBytes32 (BitVec.ofNat 256 (Buffer.beValue b))

def grgHash : Bytes32 := Vector.replicate 32 1

/-- The recipient of a mint, which tries to burn what it gets and passes some of it on. -/
def recipient : Reentrancy.Script Entry :=
  .enter (.burn 4 1 grgHash 0) (.finish true) fun _ =>
    .enter (.inherited 4 (.safeTransferFrom 4 5 (Solidity.toUint256 grgHash) 3 [])) (.finish true)
      fun _ => .finish true

/-- A mint for it, and a burn. -/
def transactions : List Transaction :=
  [(1700000000, .enter (.mint 2 4 10 grgHash) recipient .finish),
    (1700000001, .enter (.burn 4 2 grgHash 1) (.finish true) .finish)]

/-- The contract of the account 2. -/
def contract : Contract ERC1155.library := deployed ERC1155.library keccak256 2

end Sample

/-- A mint and a burn are reported, and none by the recipient of the mint. -/
theorem ledger_of_run_sample :
    (∃ ops : List Op,
      (after Sample.keccak256 Sample.contract Sample.transactions).ownEvents =
          ops.flatMap (Op.events Sample.keccak256) ∧
        replay (fun _ => 0) ops =
          some (after Sample.keccak256 Sample.contract Sample.transactions).supply) ∧
      (after Sample.keccak256 Sample.contract Sample.transactions).ownEvents.length = 3 ∧
      (after Sample.keccak256 Sample.contract Sample.transactions).supply
        (Solidity.toUint256 Sample.grgHash) = 8 :=
  ⟨(ledger_of_run ERC1155.documented Sample.keccak256 2 Sample.transactions).2, by decide +kernel,
    by decide +kernel⟩

/-- **A mint is not disturbed by its recipient**: one that succeeds adds its amount to the supply of
its id and reports itself, and nothing else is minted, burned or reported by the contract, whatever
the recipient has done when it was called. -/
theorem mint_atomic {lib : ERC1155Library} (hlib : lib.Documented) (keccak256 : Buffer → Bytes32)
    (timestamp : Uint256) {msgSender recipient : Address} {amount : Uint256} {grgHash : Bytes32}
    {c c' : Contract lib} {outside : Reentrancy.Script Entry}
    (h : (run keccak256 timestamp (.mint msgSender recipient amount grgHash) c).settle c
        (Reentrancy.exec (run keccak256 timestamp) outside) = (true, c')) :
    c'.ownEvents =
        c.ownEvents ++ (Op.mint recipient amount grgHash timestamp).events keccak256 ∧
      Op.apply c.supply (.mint recipient amount grgHash timestamp) = some c'.supply := by
  rw [run] at h
  cases hbefore : c.log (beforeMint keccak256 msgSender recipient amount grgHash) with
  | none =>
    rw [hbefore] at h
    cases h
  | some c₁ =>
    rw [hbefore, telling, Reentrancy.Outcome.settle] at h
    split at h
    · split at h
      · rename_i hafter
        cases h
        exact (mint_ok hlib hbefore ((kept hlib keccak256 timestamp).exec outside c₁) hafter).2.2
      · cases h
    · cases h

/-- The recipient passes some of its tokens on while it is called. -/
theorem mint_atomic_sample : ∃ c',
    (run Sample.keccak256 1700000000 (.mint 2 4 10 Sample.grgHash) Sample.contract).settle
        Sample.contract (Reentrancy.exec (run Sample.keccak256 1700000000) Sample.recipient) =
      (true, c') ∧
    c'.ownEvents = Sample.contract.ownEvents ++
      (Op.mint 4 10 Sample.grgHash 1700000000).events Sample.keccak256 ∧
    Op.apply Sample.contract.supply (.mint 4 10 Sample.grgHash 1700000000) = some c'.supply ∧
    ERC1155.library.balanceOf 5 (Solidity.toUint256 Sample.grgHash) c'.storage = 3 := by
  obtain ⟨c', hmint, hbalance⟩ : ∃ c',
      (run Sample.keccak256 1700000000 (.mint 2 4 10 Sample.grgHash) Sample.contract).settle
          Sample.contract (Reentrancy.exec (run Sample.keccak256 1700000000) Sample.recipient) =
        (true, c') ∧
      ERC1155.library.balanceOf 5 (Solidity.toUint256 Sample.grgHash) c'.storage = 3 := by
    refine ⟨_, Prod.ext ?_ rfl, ?_⟩
    · decide +kernel
    · decide +kernel
  obtain ⟨hevents, hsupply⟩ := mint_atomic ERC1155.documented Sample.keccak256 1700000000 hmint
  exact ⟨c', hmint, hevents, hsupply, hbalance⟩

end TTT

end OpenTTT
