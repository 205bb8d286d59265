import OpenTTT.Time.HttpClient
import OpenTTT.Time.Synthesis

/-!
# Replay protection over runs of verifications

Both verifiers of proofs of time keep the nonces they have seen in a cache of 10,000 entries, with
the oldest one evicted to make room. Within the time to live of a nonce, no second proof with it
is accepted as long as fewer than 10,000 other nonces reach the cache in between
(`nonce_accepted_once`); with 10,000 of them the first proof is accepted again, seconds after the
first time (`replay_after_flood`). Half as many are enough for a proof that expires between the two
clock readings of its verification (`replay_across_expiry`).
-/

namespace OpenTTT

/-- The clock readings of a list of calls do not decrease. -/
def ClockNonDecreasing {γ : Type*} (readings : γ → List ℤ) (calls : List γ) : Prop :=
  (calls.flatMap readings).Pairwise (· ≤ ·)

theorem ClockNonDecreasing.pairwise {γ : Type*} {readings : γ → List ℤ} {calls : List γ}
    {now : γ → ℤ} (h : ClockNonDecreasing readings calls) (hnow : ∀ c, now c ∈ readings c) :
    calls.Pairwise fun c c' => now c ≤ now c' :=
  (List.pairwise_flatMap.1 h).2.imp fun hcc' => hcc' _ (hnow _) _ (hnow _)

/-- At one instant the clock does not decrease. -/
theorem clockNonDecreasing_of_const {γ : Type*} {readings : γ → List ℤ} {calls : List γ} {t : ℤ}
    (h : ∀ c ∈ calls, ∀ x ∈ readings c, x = t) : ClockNonDecreasing readings calls := by
  refine List.pairwise_of_forall_mem_list fun x hx y hy => ?_
  obtain ⟨c, hc, hxc⟩ := List.mem_flatMap.1 hx
  obtain ⟨c', hc', hyc'⟩ := List.mem_flatMap.1 hy
  rw [h c hc x hxc, h c' hc' y hyc']

/-! ## `TimeSynthesis.verifyProofOfTime` -/

namespace TimeSynthesis

/-- The clock readings of a call, in order. -/
def VerifyCall.clock (c : VerifyCall) : List ℤ := [c.expiryNow, c.now]

/-- The results of a run of calls. -/
def verifyAll (self : TimeSynthesis) (calls : List VerifyCall) : List (Except Thrown Bool) :=
  Mealy.outputs verifyCall self calls

theorem verifyAll_getElem? {self : TimeSynthesis} {calls : List VerifyCall} {i : ℕ}
    {c : VerifyCall} (hi : calls[i]? = some c) : (self.verifyAll calls)[i]? =
      some ((Mealy.after verifyCall self (calls.take i)).verifyCall c).1 :=
  Mealy.outputs_getElem? verifyCall self hi

/-- **No nonce is accepted twice within its time to live**, if fewer than `MAX_NONCE_CACHE` other
nonces reach the cache between the two calls. -/
theorem not_accepted_twice (self : TimeSynthesis) {calls : List VerifyCall} {i j : ℕ}
    {c₁ c₂ : VerifyCall} (hclock : ClockNonDecreasing VerifyCall.clock calls) (hij : i < j)
    (hi : calls[i]? = some c₁) (hj : calls[j]? = some c₂) (hnonce : c₂.pot.nonce = c₁.pot.nonce)
    (hnow : c₂.expiryNow ≤ c₂.pot.expiresAt → c₂.now ≤ c₁.now + NONCE_TTL_MS)
    (hfew : (guard.otherKeys c₁.pot.nonce ((calls.take j).drop (i + 1))).card < MAX_NONCE_CACHE)
    (h₁ : (self.verifyAll calls)[i]? = some (.ok true)) :
    ¬ (self.verifyAll calls)[j]? = some (.ok true) := by
  intro h₂
  have hpair : calls.Pairwise fun c c' => c.now ≤ c'.now :=
    hclock.pairwise fun c => List.mem_cons_of_mem _ (List.mem_singleton_self c.now)
  have httl : guard.passes c₂ = true → c₂.now - c₁.now ≤ NONCE_TTL_MS := fun hpass => by
    have hle := hnow (not_lt.1 (guard_passes_iff.1 hpass).2.2)
    omega
  exact refines_guard.not_admitted_twice trivial hij hi hj hpair hnonce httl hfew h₁ rfl h₂ rfl

end TimeSynthesis

/-! ## `HttpOnlyClient.verifyPoT` -/

namespace HttpOnlyClient

/-- The clock readings of a call, in order. -/
def VerifyCall.clock (c : VerifyCall) : List ℤ := [c.expiryNow, c.now]

/-- The results of a run of calls. -/
def verifyAll (hmacSha256 : HmacSha256) (self : HttpOnlyClient) (calls : List VerifyCall) :
    List (Except Thrown HttpPoTVerifyResult) :=
  Mealy.outputs (verifyCall hmacSha256) self calls

/-- The call at position `i` of a run reports a valid proof. -/
def AcceptedAt (results : List (Except Thrown HttpPoTVerifyResult)) (i : ℕ) : Prop :=
  ∃ r : HttpPoTVerifyResult, results[i]? = some (.ok r) ∧ r.valid = true

theorem verifyAll_getElem? {hmacSha256 : HmacSha256} {self : HttpOnlyClient}
    {calls : List VerifyCall} {i : ℕ} {c : VerifyCall} (hi : calls[i]? = some c) :
    (self.verifyAll hmacSha256 calls)[i]? = some
      ((Mealy.after (verifyCall hmacSha256) self (calls.take i)).verifyCall hmacSha256 c).1 :=
  Mealy.outputs_getElem? (verifyCall hmacSha256) self hi

/-- **No nonce is accepted twice within its time to live**, if fewer than `MAX_NONCE_CACHE` other
nonces reach the cache between the two calls. -/
theorem not_accepted_twice (hmacSha256 : HmacSha256) (self : HttpOnlyClient)
    {calls : List VerifyCall} {i j : ℕ} {c₁ c₂ : VerifyCall}
    (hclock : ClockNonDecreasing VerifyCall.clock calls) (hij : i < j)
    (hi : calls[i]? = some c₁) (hj : calls[j]? = some c₂) (hnonce : c₂.pot.nonce = c₁.pot.nonce)
    (hnow : c₂.expiryNow ≤ c₂.pot.expiresAt → c₂.now ≤ c₁.now + NONCE_TTL_MS)
    (hfew : ((guard hmacSha256 self.hmacSecret).otherKeys c₁.pot.nonce
      ((calls.take j).drop (i + 1))).card < MAX_NONCE_CACHE)
    (h₁ : AcceptedAt (self.verifyAll hmacSha256 calls) i) :
    ¬ AcceptedAt (self.verifyAll hmacSha256 calls) j := by
  obtain ⟨v₁, hv₁, hvalid₁⟩ := h₁
  rintro ⟨v₂, hv₂, hvalid₂⟩
  have hpair : calls.Pairwise fun c c' => c.now ≤ c'.now :=
    hclock.pairwise fun c => List.mem_cons_of_mem _ (List.mem_singleton_self c.now)
  have httl : (guard hmacSha256 self.hmacSecret).passes c₂ = true →
      c₂.now - c₁.now ≤ NONCE_TTL_MS := fun hpass => by
    have hle := hnow (not_lt.1 ((guard_passes_iff hmacSha256).1 hpass).1)
    omega
  exact (refines_guard hmacSha256 self.hmacSecret).not_admitted_twice rfl hij hi hj hpair hnonce
    httl hfew hv₁ ⟨v₁, rfl, hvalid₁⟩ hv₂ ⟨v₂, rfl, hvalid₂⟩

end HttpOnlyClient

/-! ## The flood of nonces -/

/-- A flood: calls `0` to `n + 1`, then the first one again. -/
def flood {γ : Type*} (call : ℕ → γ) (n : ℕ) : List γ :=
  (List.range (n + 2)).map call ++ [call 0]

section Flood

variable {γ : Type*} (call : ℕ → γ) (last : γ) (n : ℕ)

theorem getElem?_calls_first : ((List.range (n + 1)).map call ++ [last])[0]? = some (call 0) := by
  rw [List.range_succ_eq_map]
  rfl

theorem getElem?_calls_last : ((List.range n).map call ++ [last])[n]? = some last := by
  have hlen : ((List.range n).map call).length = n := by rw [List.length_map, List.length_range]
  rw [List.getElem?_append_right hlen.le, hlen, Nat.sub_self]
  rfl

theorem take_calls : ((List.range n).map call ++ [last]).take n = (List.range n).map call := by
  apply List.take_left'
  rw [List.length_map, List.length_range]

theorem clockNonDecreasing_flood {readings : γ → List ℤ} {t : ℤ}
    (h : ∀ k, ∀ x ∈ readings (call k), x = t) : ClockNonDecreasing readings (flood call n) := by
  refine clockNonDecreasing_of_const (t := t) fun c hc => ?_
  rcases List.mem_append.1 hc with hc | hc
  · obtain ⟨k, -, rfl⟩ := List.mem_map.1 hc
    exact h k
  · rw [List.mem_singleton.1 hc]
    exact h 0

end Flood

/-- The nonces of a flood. -/
def floodNonce (k : ℕ) : String := String.ofList (List.replicate k 'f')

theorem floodNonce_injective : Function.Injective floodNonce := by
  intro k l h
  have hlen := congrArg (fun s => s.toList.length) h
  simpa [floodNonce] using hlen

/-- The readings of every proof of a flood. -/
def floodReadings : List SourceReading := [⟨"nist", 0, .finite 500, some (.finite 2)⟩]

namespace TimeSynthesis

/-- Replay protection of a fresh instance without a bound on the other nonces: of two calls of a
run on proofs with one nonce, not both return true, if the proof expires within the time to
live. -/
def ReplayProtected : Prop :=
  ∀ (calls : List VerifyCall) (i j : ℕ) (c₁ c₂ : VerifyCall),
    ClockNonDecreasing VerifyCall.clock calls → i < j →
    calls[i]? = some c₁ → calls[j]? = some c₂ → c₂.pot.nonce = c₁.pot.nonce →
    c₂.pot.expiresAt ≤ c₁.now + NONCE_TTL_MS →
    ¬ ((new.verifyAll calls)[i]? = some (.ok true) ∧ (new.verifyAll calls)[j]? = some (.ok true))

/-- A call of the flood: a minute before its proof expires, with a reading that agrees with it. -/
def floodCall (k : ℕ) : VerifyCall where
  expiryNow := 0
  now := 0
  pot :=
    { timestamp := 0, uncertainty := .finite 500, sources := .finite 1, stratum := .finite 2,
      confidence := .finite 1, sourceReadings := floodReadings, nonce := floodNonce k,
      expiresAt := 60000 }

theorem guard_passes_floodCall (k : ℕ) : guard.passes (floodCall k) = true := by
  change passesFirst (floodCall 0) = true
  decide +kernel

theorem verifyCall_floodCall_of_fresh {self : TimeSynthesis} {k : ℕ}
    (h : (guard.step self.usedNonces (floodCall k)).1 = true) :
    (self.verifyCall (floodCall k)).1 = .ok true := by
  rw [verifyCall_eq, h]
  change checkTolerance 0 (getToleranceForStratum (lowestStratum (floodCall 0).pot))
    floodReadings = .ok true
  decide +kernel

theorem not_replayProtected : ¬ ReplayProtected := by
  intro h
  have hclock : ClockNonDecreasing VerifyCall.clock (flood floodCall 9999) :=
    clockNonDecreasing_flood (t := 0) floodCall 9999 fun k x hx => by
      simpa [VerifyCall.clock, floodCall] using hx
  have hi : (flood floodCall 9999)[0]? = some (floodCall 0) := getElem?_calls_first _ _ _
  have hj : (flood floodCall 9999)[9999 + 2]? = some (floodCall 0) := getElem?_calls_last _ _ _
  refine h _ 0 (9999 + 2) _ _ hclock (by omega) hi hj rfl (by decide) ⟨?_, ?_⟩
  · rw [verifyAll_getElem? hi]
    exact congrArg some (verifyCall_floodCall_of_fresh (by decide +kernel))
  · rw [verifyAll_getElem? hj]
    refine congrArg some (verifyCall_floodCall_of_fresh ?_)
    rw [usedNonces_after, flood, take_calls]
    exact guard.fresh_after_flood floodCall (by decide) guard_passes_floodCall (fun _ => rfl)
      floodNonce_injective rfl

/-- The first proof of a flood once more, at the last moment of its validity: the expiry check
reads the clock at the expiry, the cache a millisecond later. -/
def lateCall : VerifyCall where
  expiryNow := 300000
  now := 300001
  pot := { (floodCall 0).pot with expiresAt := 300000 }

theorem clockNonDecreasing_lateCall : ClockNonDecreasing VerifyCall.clock
    ((List.range 5001).map floodCall ++ [lateCall]) := by
  have hflood : ∀ x ∈ ((List.range 5001).map floodCall).flatMap VerifyCall.clock, x = 0 := by
    intro x hx
    obtain ⟨c, hc, hxc⟩ := List.mem_flatMap.1 hx
    obtain ⟨k, -, rfl⟩ := List.mem_map.1 hc
    simpa [VerifyCall.clock, floodCall] using hxc
  rw [ClockNonDecreasing, List.flatMap_append, List.pairwise_append]
  refine ⟨List.pairwise_of_forall_mem_list fun x hx y hy => ?_, by decide, fun x hx y hy => ?_⟩
  · rw [hflood x hx, hflood y hy]
  · have hy' : y = 300000 ∨ y = 300001 := by simpa [VerifyCall.clock, lateCall] using hy
    rw [hflood x hx]
    omega

/-- The sweep before the late call removes its nonce. -/
theorem fresh_lateCall : (guard.step (guard.cacheAfter .empty ((List.range 5001).map floodCall))
    lateCall).1 = true := by
  have hlen : ((List.range 5001).map floodCall).length = 5001 := by
    rw [List.length_map, List.length_range]
  have hnodup : (((List.range 5001).map floodCall).map guard.key).Nodup := by
    rw [List.map_map]
    exact List.nodup_range.map floodNonce_injective
  have hroom : ((List.range 5001).map floodCall).length ≤ guard.capacity := by
    rw [hlen]
    decide
  have hhalf : guard.capacity / 2 < ((List.range 5001).map floodCall).length := by
    rw [hlen]
    decide
  exact guard.fresh_after_expiry (t := 0) (by decide)
    (List.forall_mem_map.2 fun k _ => guard_passes_floodCall k)
    (List.forall_mem_map.2 fun _ _ => rfl) hnodup hroom hhalf (by decide +kernel) (by decide)

/-- **A proof that expires during its verification may be replayed** with half the nonces of a
flood: the sweep removes its nonce between the two clock readings. -/
theorem replay_across_expiry : ∃ (calls : List VerifyCall) (j : ℕ) (c₁ c₂ : VerifyCall),
    ClockNonDecreasing VerifyCall.clock calls ∧ 0 < j ∧ calls[0]? = some c₁ ∧
      calls[j]? = some c₂ ∧ c₂.pot.nonce = c₁.pot.nonce ∧
      c₂.pot.expiresAt ≤ c₁.now + NONCE_TTL_MS ∧ calls.length < MAX_NONCE_CACHE ∧
      (new.verifyAll calls)[0]? = some (.ok true) ∧
      (new.verifyAll calls)[j]? = some (.ok true) := by
  have hi := getElem?_calls_first floodCall lateCall 5000
  have hj := getElem?_calls_last floodCall lateCall 5001
  refine ⟨_, 5001, _, _, clockNonDecreasing_lateCall, by omega, hi, hj, rfl, by decide, ?_, ?_, ?_⟩
  · rw [List.length_append, List.length_map, List.length_range]
    decide
  · rw [verifyAll_getElem? hi]
    exact congrArg some (verifyCall_floodCall_of_fresh (by decide +kernel))
  · rw [verifyAll_getElem? hj, take_calls, verifyCall_eq, usedNonces_after]
    change some ((if (guard.step (guard.cacheAfter .empty ((List.range 5001).map floodCall))
      lateCall).1 = true then _ else _), _).1 = _
    rw [if_pos fresh_lateCall]
    decide +kernel

end TimeSynthesis

namespace HttpOnlyClient

variable (hmacSha256 : HmacSha256)

/-- Replay protection of a client with the default options without a bound on the other
nonces. -/
def ReplayProtected : Prop :=
  ∀ (calls : List VerifyCall) (i j : ℕ) (c₁ c₂ : VerifyCall),
    ClockNonDecreasing VerifyCall.clock calls → i < j →
    calls[i]? = some c₁ → calls[j]? = some c₂ → c₂.pot.nonce = c₁.pot.nonce →
    c₂.pot.expiresAt ≤ c₁.now + NONCE_TTL_MS →
    ¬ (AcceptedAt ((new {}).verifyAll hmacSha256 calls) i ∧
      AcceptedAt ((new {}).verifyAll hmacSha256 calls) j)

/-- A call of the flood, with the HMAC that the secret of the client gives its proof. -/
def floodCall (k : ℕ) : VerifyCall where
  expiryNow := 0
  now := 0
  pot :=
    { timestamp := 0, confidence := .finite (1 / 4), stratum := .finite 2, sources := .finite 1,
      sourceReadings := floodReadings, nonce := floodNonce k, expiresAt := 60000,
      hmac := computeHmac hmacSha256 0 (floodNonce k) 60000 (.finite 1) SANDBOX_HMAC_SECRET }

theorem guard_passes_floodCall (k : ℕ) :
    (guard hmacSha256 SANDBOX_HMAC_SECRET).passes (floodCall hmacSha256 k) = true :=
  (guard_passes_iff hmacSha256).2 ⟨by simp [floodCall], rfl⟩

/-- A call of the flood is accepted wherever its nonce is fresh. -/
theorem acceptedAt_floodCall {calls : List VerifyCall} {i k : ℕ}
    (hi : calls[i]? = some (floodCall hmacSha256 k))
    (h : ((guard hmacSha256 SANDBOX_HMAC_SECRET).step
      ((guard hmacSha256 SANDBOX_HMAC_SECRET).cacheAfter .empty (calls.take i))
      (floodCall hmacSha256 k)).1 = true) :
    AcceptedAt ((new {}).verifyAll hmacSha256 calls) i := by
  refine ⟨⟨true, none⟩, ?_, rfl⟩
  rw [verifyAll_getElem? hi, after_eq]
  refine congrArg some (verifyCall_of_fresh hmacSha256 h)

theorem not_replayProtected : ¬ ReplayProtected hmacSha256 := by
  intro h
  have hclock : ClockNonDecreasing VerifyCall.clock (flood (floodCall hmacSha256) 9999) :=
    clockNonDecreasing_flood (t := 0) (floodCall hmacSha256) 9999 fun k x hx => by
      simpa [VerifyCall.clock, floodCall] using hx
  have hexp : 60000 ≤ 0 + NONCE_TTL_MS := by decide
  have hi : (flood (floodCall hmacSha256) 9999)[0]? = some (floodCall hmacSha256 0) :=
    getElem?_calls_first _ _ _
  have hj : (flood (floodCall hmacSha256) 9999)[9999 + 2]? = some (floodCall hmacSha256 0) :=
    getElem?_calls_last _ _ _
  refine h _ 0 (9999 + 2) _ _ hclock (by omega) hi hj rfl hexp ⟨?_, ?_⟩
  · refine acceptedAt_floodCall hmacSha256 hi ?_
    rw [List.take_zero, ReplayCache.Guard.cacheAfter_nil,
      ReplayCache.Guard.step_of_passes _ (guard_passes_floodCall hmacSha256 0)]
    rfl
  · have httl : 0 ≤ NONCE_TTL_MS := by decide
    refine acceptedAt_floodCall hmacSha256 hj ?_
    rw [flood, take_calls]
    exact (guard hmacSha256 SANDBOX_HMAC_SECRET).fresh_after_flood (floodCall hmacSha256) httl
      (guard_passes_floodCall hmacSha256) (fun _ => rfl) floodNonce_injective rfl

end HttpOnlyClient

/-- **The flood replays a proof**: without a bound on the other nonces neither verifier is
protected, whatever the HMAC is. -/
theorem replay_after_flood : ¬ TimeSynthesis.ReplayProtected ∧
    ∀ hmacSha256 : HmacSha256, ¬ HttpOnlyClient.ReplayProtected hmacSha256 :=
  ⟨TimeSynthesis.not_replayProtected, HttpOnlyClient.not_replayProtected⟩

/-! ## No nonce is accepted twice -/

/-- **No nonce is accepted twice** by a `TimeSynthesis` or an `HttpOnlyClient`: for every run of
calls on an instance whose clock does not decrease, if the proof of the later call expires within
the time to live of the earlier one, and fewer than `MAX_NONCE_CACHE` other nonces reach the cache
between the two. The proof of the later call must not expire between its two clock readings. -/
theorem nonce_accepted_once :
    (∀ (self : TimeSynthesis) (calls : List TimeSynthesis.VerifyCall) (i j : ℕ)
      (c₁ c₂ : TimeSynthesis.VerifyCall),
      ClockNonDecreasing TimeSynthesis.VerifyCall.clock calls → i < j →
      calls[i]? = some c₁ → calls[j]? = some c₂ → c₂.pot.nonce = c₁.pot.nonce →
      c₂.pot.expiresAt ≤ c₁.now + TimeSynthesis.NONCE_TTL_MS →
      (c₂.expiryNow ≤ c₂.pot.expiresAt → c₂.now ≤ c₂.pot.expiresAt) →
      (TimeSynthesis.guard.otherKeys c₁.pot.nonce ((calls.take j).drop (i + 1))).card <
        TimeSynthesis.MAX_NONCE_CACHE →
      ¬ ((self.verifyAll calls)[i]? = some (.ok true) ∧
        (self.verifyAll calls)[j]? = some (.ok true))) ∧
    ∀ (hmacSha256 : HmacSha256) (self : HttpOnlyClient)
      (calls : List HttpOnlyClient.VerifyCall) (i j : ℕ) (c₁ c₂ : HttpOnlyClient.VerifyCall),
      ClockNonDecreasing HttpOnlyClient.VerifyCall.clock calls → i < j →
      calls[i]? = some c₁ → calls[j]? = some c₂ → c₂.pot.nonce = c₁.pot.nonce →
      c₂.pot.expiresAt ≤ c₁.now + HttpOnlyClient.NONCE_TTL_MS →
      (c₂.expiryNow ≤ c₂.pot.expiresAt → c₂.now ≤ c₂.pot.expiresAt) →
      ((HttpOnlyClient.guard hmacSha256 self.hmacSecret).otherKeys c₁.pot.nonce
        ((calls.take j).drop (i + 1))).card < HttpOnlyClient.MAX_NONCE_CACHE →
      ¬ (HttpOnlyClient.AcceptedAt (self.verifyAll hmacSha256 calls) i ∧
        HttpOnlyClient.AcceptedAt (self.verifyAll hmacSha256 calls) j) := by
  constructor
  · rintro self calls i j c₁ c₂ hclock hij hi hj hnonce hexp hread hfew ⟨h₁, h₂⟩
    exact self.not_accepted_twice hclock hij hi hj hnonce (fun h => (hread h).trans hexp) hfew h₁ h₂
  · rintro hmacSha256 self calls i j c₁ c₂ hclock hij hi hj hnonce hexp hread hfew ⟨h₁, h₂⟩
    exact self.not_accepted_twice hmacSha256 hclock hij hi hj hnonce
      (fun h => (hread h).trans hexp) hfew h₁ h₂

/-- The HMAC of the first proof of a flood. -/
def floodHmac : HmacSha256 := fun _ _ =>
  #v[36, 102, 119, 91, 69, 101, 16, 214, 255, 12, 82, 228, 41, 152, 132, 16, 147, 11, 245, 229,
    102, 46, 48, 30, 0, 0, 48, 54, 77, 252, 164, 163]

/-- The first proof of a flood, verified twice in a row. -/
theorem nonce_accepted_once_flood :
    ¬ ((TimeSynthesis.new.verifyAll [TimeSynthesis.floodCall 0, TimeSynthesis.floodCall 0])[0]? =
        some (.ok true) ∧
      (TimeSynthesis.new.verifyAll [TimeSynthesis.floodCall 0, TimeSynthesis.floodCall 0])[1]? =
        some (.ok true)) ∧
    ¬ (HttpOnlyClient.AcceptedAt ((HttpOnlyClient.new {}).verifyAll floodHmac
        [HttpOnlyClient.floodCall floodHmac 0, HttpOnlyClient.floodCall floodHmac 0]) 0 ∧
      HttpOnlyClient.AcceptedAt ((HttpOnlyClient.new {}).verifyAll floodHmac
        [HttpOnlyClient.floodCall floodHmac 0, HttpOnlyClient.floodCall floodHmac 0]) 1) :=
  ⟨nonce_accepted_once.1 _ _ 0 1 (TimeSynthesis.floodCall 0) (TimeSynthesis.floodCall 0)
      (by unfold ClockNonDecreasing; decide) (by decide) rfl rfl rfl (by decide) (by decide)
      (by decide),
    nonce_accepted_once.2 floodHmac _ _ 0 1 (HttpOnlyClient.floodCall floodHmac 0)
      (HttpOnlyClient.floodCall floodHmac 0) (by unfold ClockNonDecreasing; decide) (by decide)
      rfl rfl rfl (by decide) (by decide) (by decide)⟩

end OpenTTT
