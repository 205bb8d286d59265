import OpenTTT.Foundations.ClockReading
import OpenTTT.Runtime.NumberText
import OpenTTT.Time.Types
import Mathlib.Algebra.Order.Archimedean.Real.Basic

/-!
# The HTTPS sources

`HTTPSTimeSource.getTime` of `time_synthesis.ts` and `fetchHttpsDate` of `http_client.ts`. Both turn
the `Date` header of a response into a reading: the time in it, moved by half the round trip, with
half the round trip and 500 milliseconds as the uncertainty. The promise is settled by the first
event of the request; parsing a date is the runtime's.

A reading covers an instant that is within its uncertainty (`TimeReading.Covers`). The header is
rounded down to seconds, so it is up to a second behind, on one side; the margin is half of that.
`https_covers_iff` says when it suffices.
-/

namespace OpenTTT

/-- An instant, in nanoseconds, that is within the uncertainty of a reading, in milliseconds. -/
def TimeReading.Covers (r : TimeReading) (t : ℝ) : Prop :=
  ∃ u : ℚ, r.uncertainty = .finite u ∧ |t - r.timestamp| ≤ u * 1000000

theorem TimeReading.covers_iff {r : TimeReading} {u : ℚ} (h : r.uncertainty = .finite u) (t : ℝ) :
    r.Covers t ↔ |t - r.timestamp| ≤ u * 1000000 := by
  constructor
  · rintro ⟨u', hu', hle⟩
    rw [h, Binary64.finite.injEq] at hu'
    exact hu' ▸ hle
  · exact fun hle => ⟨u, h, hle⟩

/-- An event of a request. -/
inductive HttpsEvent
  | timeout
  /-- A response, at the time `nowMs`, and its `Date` header. -/
  | response (nowMs : ℤ) (dateHeader : Option String)
  | error (message : String)

/-- `new Date(text).getTime()`; `none` is not a number. -/
abbrev ParseDate := String → Option ℤ

/-- The reading that both sources make of a date, for a request that took from `sentMs` to
`nowMs`. -/
def dateReading (name : String) (sentMs nowMs dateMs : ℤ) : TimeReading :=
  let t₁ := sentMs * 1000000
  let t₄ := nowMs * 1000000
  let rttNs := t₄ - t₁
  let rttMs := (Binary64.ofInt rttNs).div (.finite 1000000)
  { timestamp := dateMs * 1000000 + rttNs.tdiv 2
    uncertainty := (rttMs.div (.finite 2)).add (.finite 500)
    stratum := Binary64.ofNat 2
    source := name }

structure HTTPSTimeSource where
  name : String
  url : String

/-- `HTTPSTimeSource.getTime`. A date that cannot be parsed throws in the handler of the response,
where it is converted to a bigint. -/
def HTTPSTimeSource.getTime (parseDate : ParseDate) (self : HTTPSTimeSource) (sentMs : ℤ) :
    HttpsEvent → Except Thrown TimeReading
  | .timeout => .error (.timeSynthesisError (.ofMessage ("HTTPS time timeout for " ++ self.name)
      (self.url ++ " did not respond within 3000ms")
      "Check network connectivity or try a different HTTPS time endpoint."))
  | .error message => .error (.timeSynthesisError (.ofMessage ("HTTPS time error for " ++ self.name)
      message "Check TLS connectivity."))
  | .response nowMs dateHeader =>
    if dateHeader.getD "" = "" then
      .error (.timeSynthesisError (.ofMessage ("No Date header from " ++ self.name)
        "HTTPS response missing Date header"
        "The endpoint must return a Date header (RFC 7231)."))
    else
      match parseDate (dateHeader.getD "") with
      | none => .error .rangeError
      | some dateMs => .ok (dateReading self.name sentMs nowMs dateMs)

/-- `fetchHttpsDate`, with the timeout that it was given. -/
def fetchHttpsDate (parseDate : ParseDate) (name : String) (timeoutMs : Binary64) (sentMs : ℤ) :
    HttpsEvent → Except Thrown TimeReading
  | .timeout => .error (.error ("[httpOnly] Timeout: " ++ name ++ " (" ++
      numberToString timeoutMs ++ "ms)"))
  | .error message => .error (.error ("[httpOnly] Request error for " ++ name ++ ": " ++ message))
  | .response nowMs dateHeader =>
    if dateHeader.getD "" = "" then .error (.error ("[httpOnly] No Date header from " ++ name))
    else
      match parseDate (dateHeader.getD "") with
      | none => .error (.error ("[httpOnly] Invalid Date header from " ++ name ++ ": " ++
          dateHeader.getD ""))
      | some dateMs => .ok (dateReading name sentMs nowMs dateMs)

/-! ## What a reading is made of -/

variable {parseDate : ParseDate} {sentMs : ℤ} {event : HttpsEvent} {r : TimeReading}

/-- The date in a response, if it has one. -/
def HttpsEvent.date (parseDate : ParseDate) : HttpsEvent → Option (ℤ × ℤ)
  | .response nowMs (some dateHeader) => (parseDate dateHeader).map fun dateMs => (nowMs, dateMs)
  | _ => none

/-- A reading from a response: the header is there, and is a date. -/
theorem date_of_response {name : String} {nowMs : ℤ} {dateHeader : Option String}
    {missing invalid : Thrown}
    (h : (if dateHeader.getD "" = "" then Except.error missing
      else match parseDate (dateHeader.getD "") with
        | none => .error invalid
        | some dateMs => .ok (dateReading name sentMs nowMs dateMs)) = .ok r) :
    ∃ dateMs, (HttpsEvent.response nowMs dateHeader).date parseDate = some (nowMs, dateMs) ∧
      r = dateReading name sentMs nowMs dateMs := by
  split at h
  · cases h
  rename_i hheader
  cases dateHeader with
  | none => exact absurd rfl hheader
  | some dateHeader =>
    rw [Option.getD_some] at h
    cases hdate : parseDate dateHeader with
    | none =>
      rw [hdate] at h
      cases h
    | some dateMs =>
      rw [hdate] at h
      refine ⟨dateMs, ?_, (Except.ok.inj h).symm⟩
      rw [HttpsEvent.date, hdate, Option.map_some]

theorem HTTPSTimeSource.getTime_ok {self : HTTPSTimeSource}
    (h : self.getTime parseDate sentMs event = .ok r) :
    ∃ nowMs dateMs, event.date parseDate = some (nowMs, dateMs) ∧
      r = dateReading self.name sentMs nowMs dateMs := by
  cases event with
  | timeout => cases h
  | error message => cases h
  | response nowMs dateHeader => exact ⟨nowMs, date_of_response h⟩

theorem fetchHttpsDate_ok {name : String} {timeoutMs : Binary64}
    (h : fetchHttpsDate parseDate name timeoutMs sentMs event = .ok r) :
    ∃ nowMs dateMs, event.date parseDate = some (nowMs, dateMs) ∧
      r = dateReading name sentMs nowMs dateMs := by
  cases event with
  | timeout => cases h
  | error message => cases h
  | response nowMs dateHeader => exact ⟨nowMs, date_of_response h⟩

/-! ## The uncertainty -/

/-- A round trip of `n` milliseconds, in nanoseconds a double, makes an uncertainty without a
rounding error. -/
theorem uncertainty_dateReading {n : ℕ} (hn : n * 1000000 < 2 ^ 53) (name : String)
    (sentMs dateMs : ℤ) :
    (dateReading name sentMs (sentMs + n) dateMs).uncertainty = .finite (n / 2 + 500) := by
  have hrtt : (sentMs + n) * 1000000 - sentMs * 1000000 = ((n * 1000000 : ℕ) : ℤ) := by
    push_cast
    ring
  have hms : ((n * 1000000 : ℕ) : ℚ) / 1000000 = n := by
    push_cast
    field_simp
  have hhalf : (n : ℚ) / 2 = n / 2 ^ 1 := by rw [pow_one]
  have hsum : (n : ℚ) / 2 ^ 1 + 500 = ((n + 1000 : ℕ) : ℚ) / 2 ^ 1 := by
    push_cast
    ring
  simp only [dateReading, hrtt, Binary64.ofInt, Int.cast_natCast, Binary64.round_natCast hn]
  rw [Binary64.div, if_neg (by norm_num), hms, Binary64.round_natCast (by omega), Binary64.div,
    if_neg (by norm_num), hhalf, Binary64.round_dyadic (by omega) (by omega), Binary64.add, hsum,
    Binary64.round_dyadic (by omega) (by omega)]

/-- The timestamp is the date moved by half the round trip, which is a whole number of
nanoseconds. -/
theorem timestamp_dateReading (name : String) (sentMs dateMs : ℤ) (n : ℕ) :
    (dateReading name sentMs (sentMs + n) dateMs).timestamp = dateMs * 1000000 + n * 500000 := by
  have hrtt : (sentMs + n) * 1000000 - sentMs * 1000000 = n * 500000 * 2 := by ring
  simp only [dateReading, hrtt]
  rw [Int.mul_tdiv_cancel _ two_ne_zero]

/-! ## The interval -/

/-- The reading of the date of an instant `s` between the sending and the receipt, for a client
whose clock is `θ` milliseconds ahead. -/
theorem covers_dateReading_iff (name : String) {sentMs nowMs : ℤ} {θ s : ℝ}
    (hsent : sentMs - θ ≤ s) (hreceived : s ≤ nowMs - θ)
    (hexact : (nowMs - sentMs) * 1000000 < 2 ^ 53) :
    (dateReading name sentMs nowMs (1000 * ⌊s / 1000⌋)).Covers ((nowMs - θ) * 1000000) ↔
      s - 1000 * ⌊s / 1000⌋ ≤ 500 + (s - (sentMs - θ)) := by
  have hle : sentMs ≤ nowMs := by
    have hcast : (sentMs : ℝ) ≤ nowMs := by linarith
    exact_mod_cast hcast
  obtain ⟨n, hn⟩ := Int.le.dest hle
  obtain rfl : sentMs + n = nowMs := hn
  have hbelow : (1000 : ℝ) * ⌊s / 1000⌋ ≤ s := by
    have hfloor := Int.floor_le (s / 1000)
    linarith
  rw [TimeReading.covers_iff (uncertainty_dateReading (by omega) name sentMs _),
    timestamp_dateReading]
  have hmiddle := ClockReading.abs_sub_middle_le_iff (a := sentMs - θ) hreceived hbelow
    (m := 500) (by norm_num)
  rw [← hmiddle]
  push_cast
  have hscale : ((sentMs : ℝ) + n - θ) * 1000000 - (1000 * ⌊s / 1000⌋ * 1000000 + n * 500000) =
      1000000 * (sentMs + n - θ - (1000 * ⌊s / 1000⌋ + (sentMs + n - θ - (sentMs - θ)) / 2)) := by
    ring
  rw [hscale, abs_mul, abs_of_pos (by norm_num : (0 : ℝ) < 1000000)]
  have hright : ((n : ℝ) / 2 + 500) * 1000000 =
      1000000 * ((sentMs + n - θ - (sentMs - θ)) / 2 + 500) := by
    ring
  rw [hright]
  exact mul_le_mul_iff_right₀ (by norm_num)

/-- A header, and how it is parsed. -/
def sampleHeader : String := "Tue, 14 Nov 2023 22:13:20 GMT"

def sampleParse : ParseDate := fun text => if text = sampleHeader then some 1700000000000 else none

/-- The header is that of the second 1700000000. -/
theorem sampleParse_eq {s : ℝ} (hle : 1700000000000 ≤ s) (hlt : s < 1700000001000) :
    sampleParse sampleHeader = some (1000 * ⌊s / 1000⌋) := by
  have hfloor : ⌊s / 1000⌋ = 1700000000 := by
    rw [Int.floor_eq_iff]
    push_cast
    constructor <;> linarith
  rw [hfloor]
  rfl

/-- **The interval of the HTTPS sources**: the server truncates its time `s` to seconds, for a
header that its response carries. The reading covers the true time of the receipt if and only if the
truncation loses at most 500 milliseconds more than the request took to reach the server. -/
theorem https_covers_iff (parseDate : ParseDate) (sentMs nowMs : ℤ) (θ s : ℝ) (dateHeader : String)
    (hsent : sentMs - θ ≤ s) (hreceived : s ≤ nowMs - θ)
    (hdate : parseDate dateHeader = some (1000 * ⌊s / 1000⌋))
    (hexact : (nowMs - sentMs) * 1000000 < 2 ^ 53) :
    (∀ (self : HTTPSTimeSource) (r : TimeReading),
      self.getTime parseDate sentMs (.response nowMs (some dateHeader)) = .ok r →
        (r.Covers ((nowMs - θ) * 1000000) ↔
          s - 1000 * ⌊s / 1000⌋ ≤ 500 + (s - (sentMs - θ)))) ∧
    ∀ (name : String) (timeoutMs : Binary64) (r : TimeReading),
      fetchHttpsDate parseDate name timeoutMs sentMs (.response nowMs (some dateHeader)) = .ok r →
        (r.Covers ((nowMs - θ) * 1000000) ↔
          s - 1000 * ⌊s / 1000⌋ ≤ 500 + (s - (sentMs - θ))) := by
  have hevent : (HttpsEvent.response nowMs (some dateHeader)).date parseDate =
      some (nowMs, 1000 * ⌊s / 1000⌋) := by
    rw [HttpsEvent.date, hdate, Option.map_some]
  constructor
  · intro self r h
    obtain ⟨nowMs', dateMs, hdate', rfl⟩ := HTTPSTimeSource.getTime_ok h
    obtain ⟨rfl, rfl⟩ := Prod.mk.inj (Option.some.inj (hevent.symm.trans hdate'))
    exact covers_dateReading_iff self.name hsent hreceived hexact
  · intro name timeoutMs r h
    obtain ⟨nowMs', dateMs, hdate', rfl⟩ := fetchHttpsDate_ok h
    obtain ⟨rfl, rfl⟩ := Prod.mk.inj (Option.some.inj (hevent.symm.trans hdate'))
    exact covers_dateReading_iff name hsent hreceived hexact

/-- Both sources cover the receipt of a header that took the server's time from the start of its
second. -/
theorem https_covers_iff_sample :
    (∃ r, HTTPSTimeSource.getTime sampleParse ⟨"a", "https://a/"⟩ 1700000000100
      (.response 1700000000120 (some sampleHeader)) = .ok r ∧
        r.Covers (((1700000000120 : ℤ) - 0) * 1000000)) ∧
    ∃ r, fetchHttpsDate sampleParse "a" (.ofNat 3000) 1700000000100
      (.response 1700000000120 (some sampleHeader)) = .ok r ∧
        r.Covers (((1700000000120 : ℤ) - 0) * 1000000) := by
  have hfloor : ⌊(1700000000110 : ℝ) / 1000⌋ = 1700000000 := by
    rw [Int.floor_eq_iff]
    norm_num
  obtain ⟨hget, hfetch⟩ := https_covers_iff sampleParse 1700000000100 1700000000120 0
    1700000000110 sampleHeader (by norm_num) (by norm_num)
    (sampleParse_eq (by norm_num) (by norm_num)) (by norm_num)
  constructor
  · refine ⟨_, rfl, (hget _ _ rfl).mpr ?_⟩
    rw [hfloor]
    norm_num
  · refine ⟨_, rfl, (hfetch "a" (.ofNat 3000) _ rfl).mpr ?_⟩
    rw [hfloor]
    norm_num

/-- A source whose readings cover the true time of the receipt, for every server with a true
clock. -/
def CoversReceipt (source : ParseDate → ℤ → HttpsEvent → Except Thrown TimeReading) : Prop :=
  ∀ (parseDate : ParseDate) (sentMs nowMs : ℤ) (θ s : ℝ) (dateHeader : String) (r : TimeReading),
    sentMs - θ ≤ s → s ≤ nowMs - θ → parseDate dateHeader = some (1000 * ⌊s / 1000⌋) →
    source parseDate sentMs (.response nowMs (some dateHeader)) = .ok r →
    r.Covers ((nowMs - θ) * 1000000)

/-- **Readings that miss the true time**: the server reads its clock at the sending, 900
milliseconds into a second, and the response takes 20. -/
theorem not_coversReceipt :
    (∀ self : HTTPSTimeSource,
      ¬ CoversReceipt fun parseDate => self.getTime parseDate) ∧
    ∀ (name : String) (timeoutMs : Binary64),
      ¬ CoversReceipt fun parseDate => fetchHttpsDate parseDate name timeoutMs := by
  have hfloor : ⌊(1700000000900 : ℝ) / 1000⌋ = 1700000000 := by
    rw [Int.floor_eq_iff]
    norm_num
  have hmiss : ∀ name, ¬ (dateReading name 1700000000900 1700000000920
      (1000 * ⌊(1700000000900 : ℝ) / 1000⌋)).Covers (((1700000000920 : ℤ) - 0) * 1000000) := by
    intro name hcovers
    rw [covers_dateReading_iff name (by norm_num) (by norm_num) (by norm_num), hfloor] at hcovers
    norm_num at hcovers
  have hdate := sampleParse_eq (s := 1700000000900) (by norm_num) (by norm_num)
  have hdateMs : (1700000000000 : ℤ) = 1000 * ⌊(1700000000900 : ℝ) / 1000⌋ := by
    rw [hfloor]
    rfl
  constructor
  · intro self h
    refine hmiss self.name (h sampleParse 1700000000900 1700000000920 0 1700000000900 sampleHeader
      _ (by norm_num) (by norm_num) hdate ?_)
    rw [← hdateMs]
    rfl
  · intro name timeoutMs h
    refine hmiss name (h sampleParse 1700000000900 1700000000920 0 1700000000900 sampleHeader
      _ (by norm_num) (by norm_num) hdate ?_)
    rw [← hdateMs]
    rfl

end OpenTTT
