import OpenTTT.Runtime.Buffer
import OpenTTT.Runtime.NumberText
import OpenTTT.Time.Types
import Mathlib.Algebra.Order.Ring.Abs

/-!
# The NTP source

`NTPSource.getTime` of `time_synthesis.ts`. The promise is settled by the first event at its socket:
the timeout, an error, or the message of the server, whose receive and transmit timestamps the
reading is computed from.

A bigint division truncates towards zero, so the computed offset is within half a nanosecond of the
mean of the two differences, on either side. `ntp_reading_sound` says what that leaves of the
interval: the true time at the receipt is within half the delay and half a nanosecond of the
timestamp, however the delay splits.
-/

namespace OpenTTT

def NTP_OFFSET_1900_TO_1970 : ℤ := 2208988800

structure NTPSource where
  name : String
  host : String
  port : ℕ := 123

namespace NTPSource

/-- An event at the socket of a request. -/
inductive Event
  | timeout
  | error (message : String)
  /-- A message, at the time `nowMs`. -/
  | message (nowMs : ℤ) (msg : Buffer)
  /-- An error that the callback of `send` receives. -/
  | sendFailed (message : String)
  /-- An error that `send` throws. -/
  | sendThrew (message : String)

/-- The nanoseconds since 1970 of a timestamp in seconds since 1900 and their fraction. -/
def decode (sec frac : ℤ) : ℤ :=
  (sec - NTP_OFFSET_1900_TO_1970) * 1000000000 + (frac * 1000000000).tdiv 4294967296

/-- `((T2-T1) + (T3-T4)) / 2`. -/
def offset (t₁ t₂ t₃ t₄ : ℤ) : ℤ := ((t₂ - t₁) + (t₃ - t₄)).tdiv 2

def delay (t₁ t₂ t₃ t₄ : ℤ) : ℤ := (t₄ - t₁) - (t₃ - t₂)

variable (self : NTPSource)

/-- A rejection of the promise. -/
def reject {α : Type} (message reason fix : String) : Except Thrown α :=
  .error (.timeSynthesisError (.ofMessage message reason fix))

/-- One of the two timestamps of the server, with its name and the place of its seconds. -/
def readTimestamp (label : String) (msg : Buffer) (position : ℕ) : Except Thrown ℤ := do
  let sec ← msg.readUInt32BE position
  let frac ← msg.readUInt32BE (position + 4)
  if (sec : ℤ) ≤ NTP_OFFSET_1900_TO_1970 then
    reject ("[NTP] Invalid " ++ label ++ " timestamp from " ++ self.host)
      (toString sec ++ " <= NTP epoch offset")
      "The NTP server returned a pre-1970 timestamp. Use a reliable NTP server."
  else .ok (decode sec frac)

/-- The root dispersion in milliseconds, from its 16.16 fixed-point number. -/
def rootDispersion (raw : ℕ) : Binary64 :=
  ((Binary64.ofNat raw).div (.finite 65536)).mul (.finite 1000)

/-- The uncertainty in milliseconds. -/
def uncertainty (raw : ℕ) (delay : ℤ) : Binary64 :=
  (rootDispersion raw).add (((Binary64.ofInt delay).div (.finite 1000000)).div (.finite 2))

/-- What the handler does with a message, for a request sent at `t₁`. -/
def onMessage (t₁ nowMs : ℤ) (msg : Buffer) : Except Thrown TimeReading :=
  if msg.length < 48 then
    reject ("Invalid NTP response from " ++ self.host) "Packet length < 48 bytes"
      "The NTP server returned a malformed response. Check the server address."
  else do
    let stratum ← msg.readUInt8 1
    if stratum = 0 ∨ stratum > 15 then
      reject ("Invalid Stratum from " ++ self.host) ("Stratum: " ++ toString stratum)
        "The NTP server is unsynchronized. Use a stratum 1 or 2 server."
    else do
      let t₂ ← self.readTimestamp "T2" msg 32
      let t₃ ← self.readTimestamp "T3" msg 40
      let rootDispersionRaw ← msg.readUInt32BE 8
      .ok { timestamp := nowMs * 1000000 + offset t₁ t₂ t₃ (nowMs * 1000000)
            uncertainty := uncertainty rootDispersionRaw (delay t₁ t₂ t₃ (nowMs * 1000000))
            stratum := Binary64.ofNat stratum
            source := self.name }

/-- `getTime`, from the clock at the request and the first event after it. -/
def getTime (sentMs : ℤ) : Event → Except Thrown TimeReading
  | .timeout =>
    reject ("NTP timeout for " ++ self.host) "Server did not respond within 2000ms"
      "Check your firewall (UDP port 123) or try a different NTP server."
  | .error message =>
    reject ("NTP socket error for " ++ self.host) message
      "Ensure network connectivity and that UDP 123 is outbound-allowed."
  | .message nowMs msg => self.onMessage (sentMs * 1000000) nowMs msg
  | .sendFailed message =>
    reject ("Failed to send NTP packet to " ++ self.host) message "Check network settings."
  | .sendThrew message =>
    reject ("Synchronous send error for " ++ self.host) message "Check runtime environment."

/-! ## What a reading is computed from -/

@[simp] theorem reject_eq_ok {α : Type} {message reason fix : String} {a : α} :
    reject message reason fix = .ok a ↔ False :=
  iff_of_false nofun id

theorem readTimestamp_ok {label : String} {msg : Buffer} {position : ℕ} {t : ℤ}
    (h : self.readTimestamp label msg position = .ok t) :
    ∃ sec frac : ℕ, msg.readUInt32BE position = .ok sec ∧
      msg.readUInt32BE (position + 4) = .ok frac ∧ NTP_OFFSET_1900_TO_1970 < sec ∧
      t = decode sec frac := by
  obtain ⟨sec, hsec, h⟩ := bind_eq_ok.1 h
  obtain ⟨frac, hfrac, h⟩ := bind_eq_ok.1 h
  split at h
  · simp at h
  · rename_i hlt
    exact ⟨sec, frac, hsec, hfrac, not_le.1 hlt, (Except.ok.inj h).symm⟩

/-- **What a reading is computed from**: the two timestamps of the server in its message. -/
theorem getTime_ok {sentMs : ℤ} {event : Event} {r : TimeReading}
    (h : self.getTime sentMs event = .ok r) :
    ∃ (nowMs : ℤ) (msg : Buffer) (sec₂ frac₂ sec₃ frac₃ raw : ℕ), event = .message nowMs msg ∧
      (msg.readUInt32BE 32 = .ok sec₂ ∧ msg.readUInt32BE 36 = .ok frac₂ ∧
        NTP_OFFSET_1900_TO_1970 < sec₂) ∧
      (msg.readUInt32BE 40 = .ok sec₃ ∧ msg.readUInt32BE 44 = .ok frac₃ ∧
        NTP_OFFSET_1900_TO_1970 < sec₃) ∧
      r.timestamp = nowMs * 1000000 + offset (sentMs * 1000000) (decode sec₂ frac₂)
        (decode sec₃ frac₃) (nowMs * 1000000) ∧
      r.uncertainty = uncertainty raw (delay (sentMs * 1000000) (decode sec₂ frac₂)
        (decode sec₃ frac₃) (nowMs * 1000000)) := by
  cases event with
  | timeout => simp [getTime] at h
  | error message => simp [getTime] at h
  | sendFailed message => simp [getTime] at h
  | sendThrew message => simp [getTime] at h
  | message nowMs msg =>
    rw [getTime, onMessage] at h
    split at h
    · simp at h
    obtain ⟨stratum, -, h⟩ := bind_eq_ok.1 h
    split at h
    · simp at h
    obtain ⟨t₂, ht₂, h⟩ := bind_eq_ok.1 h
    obtain ⟨t₃, ht₃, h⟩ := bind_eq_ok.1 h
    obtain ⟨raw, -, h⟩ := bind_eq_ok.1 h
    cases h
    obtain ⟨sec₂, frac₂, hsec₂, hfrac₂, hlt₂, rfl⟩ := self.readTimestamp_ok ht₂
    obtain ⟨sec₃, frac₃, hsec₃, hfrac₃, hlt₃, rfl⟩ := self.readTimestamp_ok ht₃
    exact ⟨nowMs, msg, sec₂, frac₂, sec₃, frac₃, raw, rfl, ⟨hsec₂, hfrac₂, hlt₂⟩,
      ⟨hsec₃, hfrac₃, hlt₃⟩, rfl, rfl⟩

/-! ## The arithmetic -/

/-- The delay is the sum of the two ways, whatever the offset is. -/
theorem delay_eq (t₁ t₄ θ d₁ d₂ : ℤ) : delay t₁ (t₁ + θ + d₁) (t₄ + θ - d₂) t₄ = d₁ + d₂ := by
  unfold delay
  omega

/-- **The computed offset** misses the offset by half the difference of the two ways, and half a
nanosecond. -/
theorem two_mul_abs_offset_sub_le {t₁ t₄ θ d₁ d₂ : ℤ} (hd₁ : 0 ≤ d₁) (hd₂ : 0 ≤ d₂) :
    2 * |t₄ + offset t₁ (t₁ + θ + d₁) (t₄ + θ - d₂) t₄ - (t₄ + θ)| ≤ d₁ + d₂ + 1 := by
  have hsum : (t₁ + θ + d₁ - t₁) + (t₄ + θ - d₂ - t₄) = 2 * θ + (d₁ - d₂) := by ring
  have hdiv := Int.mul_tdiv_add_tmod (2 * θ + (d₁ - d₂)) 2
  have hlt := Int.tmod_lt_of_pos (2 * θ + (d₁ - d₂)) two_pos
  have hgt := Int.lt_tmod_of_pos (2 * θ + (d₁ - d₂)) two_pos
  rw [offset, hsum]
  rcases abs_cases (t₄ + (2 * θ + (d₁ - d₂)).tdiv 2 - (t₄ + θ)) with ⟨habs, -⟩ | ⟨habs, -⟩
  · rw [habs]
    omega
  · rw [habs]
    omega

/-- **A decoded timestamp** is less than a nanosecond below its exact value. -/
theorem abs_decode_sub_lt (sec frac : ℕ) :
    |(decode sec frac : ℚ) - ((sec - 2208988800) * 1000000000 +
      frac * 1000000000 / 4294967296)| < 1 := by
  have hnonneg : (0 : ℤ) ≤ frac * 1000000000 := by positivity
  have hdecode : decode sec frac = ((sec : ℤ) - 2208988800) * 1000000000 +
      (frac : ℤ) * 1000000000 / 4294967296 := by
    rw [decode, Int.tdiv_eq_ediv_of_nonneg hnonneg, NTP_OFFSET_1900_TO_1970]
  obtain ⟨q, hq⟩ : ∃ q, (frac : ℤ) * 1000000000 / 4294967296 = q := ⟨_, rfl⟩
  have hle : q * 4294967296 ≤ (frac : ℤ) * 1000000000 := by omega
  have hlt : (frac : ℤ) * 1000000000 < (q + 1) * 4294967296 := by omega
  have hle' : (q : ℚ) ≤ frac * 1000000000 / 4294967296 := by
    rw [le_div_iff₀ (by norm_num)]
    exact_mod_cast hle
  have hlt' : (frac : ℚ) * 1000000000 / 4294967296 < q + 1 := by
    rw [div_lt_iff₀ (by norm_num)]
    exact_mod_cast hlt
  rw [hdecode, hq]
  push_cast
  rw [abs_lt]
  constructor <;> linarith

/-- **Soundness of the NTP interval**: for every offset and every split of the delay, the delay is
computed and the timestamp is within half of it, and half a nanosecond, of the true time at the
receipt; the timestamps of the server are decoded to within a nanosecond; and a reading is computed
from its receive and transmit timestamps in this way. -/
theorem ntp_reading_sound :
    (∀ t₁ t₄ θ d₁ d₂ : ℤ, 0 ≤ d₁ → 0 ≤ d₂ →
      delay t₁ (t₁ + θ + d₁) (t₄ + θ - d₂) t₄ = d₁ + d₂ ∧
      2 * |t₄ + offset t₁ (t₁ + θ + d₁) (t₄ + θ - d₂) t₄ - (t₄ + θ)| ≤
        delay t₁ (t₁ + θ + d₁) (t₄ + θ - d₂) t₄ + 1) ∧
    (∀ sec frac : ℕ, NTP_OFFSET_1900_TO_1970 < sec →
      |(decode sec frac : ℚ) - ((sec - 2208988800) * 1000000000 +
        frac * 1000000000 / 4294967296)| < 1) ∧
    ∀ (self : NTPSource) (sentMs : ℤ) (event : Event) (r : TimeReading),
      self.getTime sentMs event = .ok r →
      ∃ (nowMs : ℤ) (msg : Buffer) (sec₂ frac₂ sec₃ frac₃ raw : ℕ), event = .message nowMs msg ∧
        (msg.readUInt32BE 32 = .ok sec₂ ∧ msg.readUInt32BE 36 = .ok frac₂ ∧
          NTP_OFFSET_1900_TO_1970 < sec₂) ∧
        (msg.readUInt32BE 40 = .ok sec₃ ∧ msg.readUInt32BE 44 = .ok frac₃ ∧
          NTP_OFFSET_1900_TO_1970 < sec₃) ∧
        r.timestamp = nowMs * 1000000 + offset (sentMs * 1000000) (decode sec₂ frac₂)
          (decode sec₃ frac₃) (nowMs * 1000000) ∧
        r.uncertainty = uncertainty raw (delay (sentMs * 1000000) (decode sec₂ frac₂)
          (decode sec₃ frac₃) (nowMs * 1000000)) := by
  refine ⟨fun t₁ t₄ θ d₁ d₂ hd₁ hd₂ => ?_, fun sec frac _ => abs_decode_sub_lt sec frac,
    fun self sentMs event r h => self.getTime_ok h⟩
  rw [delay_eq]
  exact ⟨rfl, two_mul_abs_offset_sub_le hd₁ hd₂⟩

/-- A message of a stratum 1 server: received half a second into 1700000000, sent a second later. -/
def sampleMessage : Buffer :=
  [0x24, 1] ++ List.replicate 30 0 ++ toBeBytes 4 3908988800 ++ toBeBytes 4 2147483648 ++
    toBeBytes 4 3908988801 ++ toBeBytes 4 2147483648

theorem isOk_sampleMessage : ∃ r, (NTPSource.mk "nist" "time.nist.gov" 123).getTime 1699999999000
    (.message 1700000002500 sampleMessage) = .ok r :=
  ⟨_, rfl⟩

/-- An offset of -3 ns with ways of 4 and 1 ns, the largest decoded time, and the message. -/
theorem ntp_reading_sound_sample :
    (delay 10 (10 + -3 + 4) (20 + -3 - 1) 20 = 4 + 1 ∧
      2 * |20 + offset 10 (10 + -3 + 4) (20 + -3 - 1) 20 - (20 + -3)| ≤
        delay 10 (10 + -3 + 4) (20 + -3 - 1) 20 + 1) ∧
    |(decode 4294967295 4294967295 : ℚ) - ((4294967295 - 2208988800) * 1000000000 +
      4294967295 * 1000000000 / 4294967296)| < 1 ∧
    ∃ sec₂ : ℕ, sampleMessage.readUInt32BE 32 = .ok sec₂ ∧ NTP_OFFSET_1900_TO_1970 < sec₂ := by
  refine ⟨ntp_reading_sound.1 10 20 (-3) 4 1 (by decide) (by decide), ?_, ?_⟩
  · exact_mod_cast ntp_reading_sound.2.1 4294967295 4294967295 (by decide)
  · obtain ⟨r, hr⟩ := isOk_sampleMessage
    obtain ⟨nowMs, msg, sec₂, frac₂, sec₃, frac₃, raw, hevent, ⟨hsec₂, -, hlt₂⟩, -⟩ :=
      ntp_reading_sound.2.2 _ _ _ r hr
    cases hevent
    exact ⟨sec₂, hsec₂, hlt₂⟩

end NTPSource

end OpenTTT
