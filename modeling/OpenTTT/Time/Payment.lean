import OpenTTT.Runtime.Json
import OpenTTT.Time.HttpProofs

/-!
# Proofs of time in payments

The facilitator of `x402-pot`, which attaches a proof of the HTTPS-only client to a payment and
verifies it there. The header of a payment holds the names of the sources and not their readings,
to keep it compact; for the verification, every name becomes a reading at the timestamp of the
proof. The first checks see the fields that they saw before (`verifyPoT_flattened`), and
the divergence check compares the timestamp with itself.

`payment_verdict_iff` says for which proofs the payment and the proof have the same verdict.
-/

namespace OpenTTT

structure X402BasePayment where
  scheme : String
  network : String
  maxAmountRequired : String
  resource : String

/-- The field `extra.pot` of a payment. -/
structure X402Pot where
  timestamp : String
  expiresAt : String
  hmac : String
  nonce : String
  confidence : Binary64
  sources : Binary64
  sourceNames : List String

/-- A payment, in which `extra.pot` may be missing. -/
structure X402PotPayment extends X402BasePayment where
  pot : Option X402Pot

/-- `X402PotVerifyResult` has the fields of the result of the client. -/
abbrev X402PotVerifyResult := HttpPoTVerifyResult

namespace X402PotFacilitator

open HttpOnlyClient

/-- The payment with a proof attached. -/
def attach (payment : X402BasePayment) (pot : HttpPoT) : X402PotPayment where
  toX402BasePayment := payment
  pot := some {
    timestamp := toString pot.timestamp
    expiresAt := toString pot.expiresAt
    hmac := pot.hmac
    nonce := pot.nonce
    confidence := pot.confidence
    sources := pot.sources
    sourceNames := pot.sourceReadings.map SourceReading.source }

/-- `createPaymentWithPoT`, from what the generation of the proof takes. -/
def createPaymentWithPoT (hmacSha256 : HmacSha256) (client : HttpOnlyClient)
    (results : List (Settled RawReading)) (nonce : String) (now : ℤ) (payment : X402BasePayment) :
    Except Thrown X402PotPayment := do
  let pot ← client.generatePoT hmacSha256 results nonce now
  .ok (attach payment pot)

/-- The proof that is rebuilt from the fields of a payment. -/
def rebuild (p : X402Pot) (timestamp expiresAt : ℤ) : HttpPoT where
  timestamp := timestamp
  expiresAt := expiresAt
  hmac := p.hmac
  nonce := p.nonce
  confidence := p.confidence
  sources := p.sources
  stratum := .finite 2
  sourceReadings := p.sourceNames.map fun name => ⟨name, timestamp, .finite 500, some (.finite 2)⟩

/-- `verifyPaymentPoT`, with the client after it. -/
def verifyPaymentPoT (hmacSha256 : HmacSha256) (client : HttpOnlyClient) (expiryNow now : ℤ)
    (payment : X402PotPayment) : Except Thrown X402PotVerifyResult × HttpOnlyClient :=
  match payment.pot with
  | none => (.ok ⟨false, some "No PoT found in payment.extra.pot"⟩, client)
  | some p =>
    match JsValue.toBigInt (some (.string p.timestamp)),
        JsValue.toBigInt (some (.string p.expiresAt)) with
    | .ok timestamp, .ok expiresAt =>
      client.verifyPoT hmacSha256 expiryNow now (rebuild p timestamp expiresAt)
    | _, _ =>
      (.ok ⟨false, some "Invalid bigint fields in PoT (timestamp or expiresAt)"⟩, client)

/-! ## The proof that is verified -/

/-- A proof with every reading at its timestamp. -/
def flattened (pot : HttpPoT) : HttpPoT :=
  { pot with
    stratum := .finite 2
    sourceReadings := pot.sourceReadings.map fun r =>
      ⟨r.source, pot.timestamp, .finite 500, some (.finite 2)⟩ }

variable (hmacSha256 : HmacSha256)

/-- The payment is verified as its proof is, with every reading at the timestamp. -/
theorem verifyPaymentPoT_attach (client : HttpOnlyClient) (expiryNow now : ℤ)
    (payment : X402BasePayment) (pot : HttpPoT) :
    verifyPaymentPoT hmacSha256 client expiryNow now (attach payment pot) =
      client.verifyPoT hmacSha256 expiryNow now (flattened pot) := by
  simp only [verifyPaymentPoT, attach, JsValue.toBigInt_toString, rebuild, flattened, List.map_map]
  rfl

/-! ## The checks on both proofs -/

section Checks

variable {client : HttpOnlyClient} {expiryNow now : ℤ} {pot : HttpPoT}

/-- A proof is not expired and has the HMAC of the secret. -/
def PassesFirst (client : HttpOnlyClient) (expiryNow : ℤ) (pot : HttpPoT) : Prop :=
  expiryNow ≤ pot.expiresAt ∧ Authentic hmacSha256 client.hmacSecret pot

/-- A proof that fails the first checks has a verdict that does not depend on its readings. -/
theorem verifyPoT_flattened (h : ¬ PassesFirst hmacSha256 client expiryNow pot) :
    (client.verifyPoT hmacSha256 expiryNow now (flattened pot)).1 =
      (client.verifyPoT hmacSha256 expiryNow now pot).1 := by
  have hcheck : checkHmac hmacSha256 client (flattened pot) = checkHmac hmacSha256 client pot := rfl
  unfold verifyPoT
  by_cases hexp : expiryNow > pot.expiresAt
  · rw [if_pos hexp, if_pos (show expiryNow > (flattened pot).expiresAt from hexp)]
  · rw [if_neg hexp, if_neg (show ¬ expiryNow > (flattened pot).expiresAt from hexp), hcheck]
    cases hmac : checkHmac hmacSha256 client pot with
    | error e => rfl
    | ok authentic =>
      cases authentic with
      | false => rfl
      | true => exact absurd ⟨not_lt.1 hexp, (checkHmac_eq_ok_true hmacSha256).1 hmac⟩ h

/-- A new client goes on to the divergence check with a proof that passes the first ones. -/
theorem verifyPoT_new {options : HttpOnlyClientOptions}
    (h : PassesFirst hmacSha256 (new options) expiryNow pot) :
    ((new options).verifyPoT hmacSha256 expiryNow now pot).1 =
      .ok (checkDivergence pot.timestamp (new options).toleranceNs pot.sourceReadings) := by
  have hpass : (guard hmacSha256 (new options).hmacSecret).passes ⟨expiryNow, now, pot⟩ = true :=
    (guard_passes_iff hmacSha256).2 ⟨not_lt.2 h.1, h.2⟩
  refine verifyCall_of_fresh hmacSha256 (c := ⟨expiryNow, now, pot⟩) ?_
  rw [(guard hmacSha256 (new options).hmacSecret).step_of_passes hpass]
  rfl

theorem valid_checkDivergence {timestamp toleranceNs : ℤ} {readings : List SourceReading} :
    (checkDivergence timestamp toleranceNs readings).valid = true ↔
      ∀ r ∈ readings, |r.timestamp - timestamp| ≤ toleranceNs := by
  rw [← checkDivergence_eq_valid]
  induction readings with
  | nil => exact iff_of_true rfl rfl
  | cons reading rest ih =>
    rw [checkDivergence]
    simp only [ite_sub_eq_abs]
    split
    · exact iff_of_false (by simp) (by simp)
    · exact ih

/-- Readings at the timestamp are within every tolerance that is not negative. -/
theorem valid_checkDivergence_flattened {toleranceNs : ℤ} :
    (checkDivergence (flattened pot).timestamp toleranceNs (flattened pot).sourceReadings).valid =
      true ↔ pot.sourceReadings = [] ∨ 0 ≤ toleranceNs := by
  rw [valid_checkDivergence]
  simp only [flattened, List.forall_mem_map, sub_self, abs_zero]
  cases pot.sourceReadings with
  | nil => simp
  | cons r rest => simpa using fun h _ _ => h

/-- A reading that is near shows that the tolerance is not negative. -/
theorem nonneg_of_near {toleranceNs : ℤ}
    (h : ∀ r ∈ pot.sourceReadings, |r.timestamp - pot.timestamp| ≤ toleranceNs) :
    pot.sourceReadings = [] ∨ 0 ≤ toleranceNs := by
  cases hreadings : pot.sourceReadings with
  | nil => exact Or.inl rfl
  | cons r rest =>
    have hr := h r (by rw [hreadings]; exact List.mem_cons_self)
    exact Or.inr ((abs_nonneg _).trans hr)

end Checks

/-! ## The two verdicts -/

/-- Whether a result is valid, unless it throws. -/
def verdict (r : Except Thrown HttpPoTVerifyResult) : Except Thrown Bool :=
  r.map HttpPoTVerifyResult.valid

/-- A proof fails on a reading alone, with a tolerance that is not negative. -/
def OnlyDiverges (client : HttpOnlyClient) (expiryNow : ℤ) (pot : HttpPoT) : Prop :=
  PassesFirst hmacSha256 client expiryNow pot ∧ 0 ≤ client.toleranceNs ∧
    ∃ r ∈ pot.sourceReadings, client.toleranceNs < |r.timestamp - pot.timestamp|

/-- **The verdict of a payment**, on new clients with the same options and at the same time: it is
that of the proof, except for a proof that fails the divergence check alone; its payment is
valid. -/
theorem payment_verdict_iff (options : HttpOnlyClientOptions) (payment : X402BasePayment)
    (pot : HttpPoT) (expiryNow now : ℤ) :
    (verdict (verifyPaymentPoT hmacSha256 (new options) expiryNow now (attach payment pot)).1 =
        verdict ((new options).verifyPoT hmacSha256 expiryNow now pot).1 ↔
      ¬ OnlyDiverges hmacSha256 (new options) expiryNow pot) ∧
    (OnlyDiverges hmacSha256 (new options) expiryNow pot →
      verdict (verifyPaymentPoT hmacSha256 (new options) expiryNow now (attach payment pot)).1 =
          .ok true ∧
        verdict ((new options).verifyPoT hmacSha256 expiryNow now pot).1 = .ok false) := by
  rw [verifyPaymentPoT_attach]
  by_cases hfirst : PassesFirst hmacSha256 (new options) expiryNow pot
  · have hwrapped : PassesFirst hmacSha256 (new options) expiryNow (flattened pot) := hfirst
    rw [verifyPoT_new hmacSha256 hfirst, verifyPoT_new hmacSha256 hwrapped]
    have hproof : (checkDivergence pot.timestamp (new options).toleranceNs
        pot.sourceReadings).valid = true ↔ _ := valid_checkDivergence
    have hpayment : (checkDivergence (flattened pot).timestamp (new options).toleranceNs
        (flattened pot).sourceReadings).valid = true ↔ _ := valid_checkDivergence_flattened
    simp only [verdict, Except.map, Except.ok.injEq]
    by_cases hnear : ∀ r ∈ pot.sourceReadings,
        |r.timestamp - pot.timestamp| ≤ (new options).toleranceNs
    · have hnot : ¬ OnlyDiverges hmacSha256 (new options) expiryNow pot := by
        rintro ⟨-, -, r, hr, hfar⟩
        exact absurd (hnear r hr) (not_le.2 hfar)
      rw [hpayment.2 (nonneg_of_near hnear), hproof.2 hnear]
      exact ⟨iff_of_true rfl hnot, fun h => absurd h hnot⟩
    · have hfar : ∃ r ∈ pot.sourceReadings,
          (new options).toleranceNs < |r.timestamp - pot.timestamp| := by
        simpa using hnear
      have hinvalid := Bool.eq_false_iff.2 (mt hproof.1 hnear)
      by_cases htolerance : 0 ≤ (new options).toleranceNs
      · have honly : OnlyDiverges hmacSha256 (new options) expiryNow pot :=
          ⟨hfirst, htolerance, hfar⟩
        rw [hpayment.2 (Or.inr htolerance), hinvalid]
        exact ⟨iff_of_false (by simp) (not_not.2 honly), fun _ => ⟨rfl, rfl⟩⟩
      · have hne : pot.sourceReadings ≠ [] := by
          rintro hnil
          rw [hnil] at hfar
          simp at hfar
        have hnot : ¬ OnlyDiverges hmacSha256 (new options) expiryNow pot := fun h =>
          htolerance h.2.1
        rw [Bool.eq_false_iff.2 (mt hpayment.1 (not_or.2 ⟨hne, htolerance⟩)), hinvalid]
        exact ⟨iff_of_true rfl hnot, fun h => absurd h hnot⟩
  · rw [verifyPoT_flattened hmacSha256 hfirst]
    exact ⟨iff_of_true rfl fun h => hfirst h.1, fun h => absurd h.1 hfirst⟩

/-- That a payment preserves the verdict of the proofs with the HMAC of the secret. -/
def PreservesVerdict : Prop :=
  ∀ (options : HttpOnlyClientOptions) (payment : X402BasePayment) (pot : HttpPoT)
    (expiryNow now : ℤ), Authentic hmacSha256 (new options).hmacSecret pot →
    verdict (verifyPaymentPoT hmacSha256 (new options) expiryNow now (attach payment pot)).1 =
      verdict ((new options).verifyPoT hmacSha256 expiryNow now pot).1

/-- A payment of the tests of the package. -/
def basePayment : X402BasePayment :=
  ⟨"exact", "base", "1000000", "https://api.example.com/data"⟩

/-- Whatever the HMAC is, the payment with the proof of the spread readings is valid and the proof
is not. -/
theorem not_preservesVerdict : ¬ ∃ hmacSha256 : HmacSha256, PreservesVerdict hmacSha256 := by
  rintro ⟨hmacSha256, h⟩
  have hauth := authentic_of_generated hmacSha256 (generatePoT_spreadResults hmacSha256)
  have hfirst : PassesFirst hmacSha256 (new {}) 1700000000000 (spreadPoT hmacSha256) :=
    ⟨show (1700000000000 : ℤ) ≤ 1700000000000 + 60000 by decide, hauth⟩
  have hfirst' : PassesFirst hmacSha256 (new {}) 1700000000000 (flattened (spreadPoT hmacSha256)) :=
    hfirst
  have hsame := h {} basePayment (spreadPoT hmacSha256) 1700000000000 1700000000000 hauth
  rw [verifyPaymentPoT_attach, verifyPoT_new hmacSha256 hfirst, verifyPoT_new hmacSha256 hfirst']
    at hsame
  simp only [verdict, Except.map, Except.ok.injEq] at hsame
  rw [valid_checkDivergence_flattened.2 (Or.inr (by decide)), eq_comm, valid_checkDivergence]
    at hsame
  exact absurd ((within_own_iff hmacSha256 (generatePoT_spreadResults hmacSha256) _).1 hsame)
    not_agree_spreadResults

/-! ## Malformed proofs -/

/-- The timestamp and the expiry that are read from a payment. -/
def ReadsTimes (p : X402Pot) (timestamp expiresAt : ℤ) : Prop :=
  JsValue.toBigInt (some (.string p.timestamp)) = .ok timestamp ∧
    JsValue.toBigInt (some (.string p.expiresAt)) = .ok expiresAt

theorem verifyPaymentPoT_of_readsTimes {payment : X402PotPayment} {p : X402Pot}
    (hpot : payment.pot = some p) {timestamp expiresAt : ℤ} (h : ReadsTimes p timestamp expiresAt)
    (client : HttpOnlyClient) (expiryNow now : ℤ) :
    verifyPaymentPoT hmacSha256 client expiryNow now payment =
      client.verifyPoT hmacSha256 expiryNow now (rebuild p timestamp expiresAt) := by
  rw [verifyPaymentPoT, hpot]
  dsimp only
  rw [h.1, h.2]

/-- A payment without a proof, or whose times cannot be read, is reported as such. -/
theorem exists_verifyPaymentPoT_of_not_readsTimes {payment : X402PotPayment}
    (h : ∀ p timestamp expiresAt, payment.pot = some p → ¬ ReadsTimes p timestamp expiresAt)
    (client : HttpOnlyClient) (expiryNow now : ℤ) :
    ∃ r, (verifyPaymentPoT hmacSha256 client expiryNow now payment).1 = .ok r := by
  unfold verifyPaymentPoT
  split
  · exact ⟨_, rfl⟩
  · rename_i p hpot
    split
    · rename_i timestamp expiresAt hts hexpires
      exact absurd ⟨hts, hexpires⟩ (h p timestamp expiresAt hpot)
    · exact ⟨_, rfl⟩

theorem exists_verifyPaymentPoT_iff {client : HttpOnlyClient} {expiryNow now : ℤ}
    {payment : X402PotPayment} :
    (∃ r, (verifyPaymentPoT hmacSha256 client expiryNow now payment).1 = .ok r) ↔
      ∀ p timestamp expiresAt, payment.pot = some p → ReadsTimes p timestamp expiresAt →
        expiryNow > expiresAt ∨ (Buffer.fromHex p.hmac).length = 32 := by
  constructor
  · intro h p timestamp expiresAt hpot hreads
    rw [verifyPaymentPoT_of_readsTimes hmacSha256 hpot hreads] at h
    exact (exists_verifyPoT_iff hmacSha256).1 h
  · intro h
    by_cases hreads : ∃ p timestamp expiresAt, payment.pot = some p ∧
        ReadsTimes p timestamp expiresAt
    · obtain ⟨p, timestamp, expiresAt, hpot, hreads⟩ := hreads
      rw [verifyPaymentPoT_of_readsTimes hmacSha256 hpot hreads]
      exact (exists_verifyPoT_iff hmacSha256).2 (h p timestamp expiresAt hpot hreads)
    · apply exists_verifyPaymentPoT_of_not_readsTimes
      exact fun p timestamp expiresAt hpot ht => hreads ⟨p, timestamp, expiresAt, hpot, ht⟩

/-- **When malformed proofs are reported**: the client returns a result for a proof that has expired
or whose HMAC decodes to 32 bytes, and throws for all others; so does the facilitator for the proof
in a payment, once its times can be read. The decoding is the documented one (`Buffer.fromHex`). -/
theorem malformed_reported_iff (client : HttpOnlyClient) (expiryNow now : ℤ) :
    (∀ pot, (∃ r, (client.verifyPoT hmacSha256 expiryNow now pot).1 = .ok r) ↔
      expiryNow > pot.expiresAt ∨ (Buffer.fromHex pot.hmac).length = 32) ∧
    ∀ payment, (∃ r, (verifyPaymentPoT hmacSha256 client expiryNow now payment).1 = .ok r) ↔
      ∀ p timestamp expiresAt, payment.pot = some p → ReadsTimes p timestamp expiresAt →
        expiryNow > expiresAt ∨ (Buffer.fromHex p.hmac).length = 32 :=
  ⟨fun _ => exists_verifyPoT_iff hmacSha256, fun _ => exists_verifyPaymentPoT_iff hmacSha256⟩

/-- Malformed proofs are reported, and nothing is thrown. -/
def ReportsMalformed : Prop :=
  (∀ (client : HttpOnlyClient) (expiryNow now : ℤ) (pot : HttpPoT),
    ∃ r, (client.verifyPoT hmacSha256 expiryNow now pot).1 = .ok r) ∧
  ∀ (client : HttpOnlyClient) (expiryNow now : ℤ) (payment : X402PotPayment),
    ∃ r, (verifyPaymentPoT hmacSha256 client expiryNow now payment).1 = .ok r

/-- A proof with an HMAC of four bytes. -/
def shortPot : X402Pot where
  timestamp := "1700000000000000000"
  expiresAt := "1700000060000"
  hmac := "deadbeef"
  nonce := "dead000000000000000000000000beef"
  confidence := .finite 1
  sources := .finite 4
  sourceNames := []

/-- Whatever the HMAC is, both throw on a proof with an HMAC of four bytes. -/
theorem not_reportsMalformed : ¬ ∃ hmacSha256 : HmacSha256, ReportsMalformed hmacSha256 := by
  rintro ⟨hmacSha256, -, h⟩
  have hlength : (Buffer.fromHex shortPot.hmac).length = 4 := by decide
  have hreads : ReadsTimes shortPot 1700000000000000000 1700000060000 := ⟨rfl, rfl⟩
  rcases (exists_verifyPaymentPoT_iff hmacSha256).1 (h (new {}) 1700000000000 1700000000000
    ⟨basePayment, some shortPot⟩) _ _ _ rfl hreads with hexp | hlen
  · omega
  · omega

end X402PotFacilitator

end OpenTTT
