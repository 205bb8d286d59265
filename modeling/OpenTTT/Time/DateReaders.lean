import OpenTTT.Time.Https

/-!
# The two readers of a date header

`HTTPSTimeSource.getTime` and `fetchHttpsDate` read the same header in the same way, up to the texts
of their errors and one test: `fetchHttpsDate` rejects a date that is not a number, where `getTime`
converts it to a bigint, which throws in the handler of the response. An exception there reaches
nobody who waits for the reading: the timer is cleared, and nothing settles the promise.

`readers_agree_iff` says for which responses the two agree.
-/

namespace OpenTTT

/-- How the handler of an event ends: it settles the promise, or it throws. -/
inductive Handled
  | resolve (r : TimeReading)
  | reject (e : Thrown)
  | throws (e : Thrown)

namespace Handled

/-- Neither handler throws, and both reject, or both resolve with the same timestamp, uncertainty
and stratum. -/
def Agree : Handled → Handled → Prop
  | resolve r, resolve r' => r.timestamp = r'.timestamp ∧ r.uncertainty = r'.uncertainty ∧
      r.stratum = r'.stratum
  | reject _, reject _ => True
  | _, _ => False

end Handled

/-- The handlers of `HTTPSTimeSource.getTime`: every error that they pass to `reject` is a
`TTTTimeSynthesisError`. -/
def HTTPSTimeSource.handle (parseDate : ParseDate) (self : HTTPSTimeSource) (sentMs : ℤ)
    (event : HttpsEvent) : Handled :=
  match self.getTime parseDate sentMs event with
  | .ok r => .resolve r
  | .error (.timeSynthesisError e) => .reject (.timeSynthesisError e)
  | .error e => .throws e

/-- The handlers of `fetchHttpsDate`: every error that they pass to `reject` is an `Error`. -/
def fetchHttpsDateHandle (parseDate : ParseDate) (name : String) (timeoutMs : Binary64)
    (sentMs : ℤ) (event : HttpsEvent) : Handled :=
  match fetchHttpsDate parseDate name timeoutMs sentMs event with
  | .ok r => .resolve r
  | .error (.error message) => .reject (.error message)
  | .error e => .throws e

section Response

variable (parseDate : ParseDate) (self : HTTPSTimeSource) (name : String) (timeoutMs : Binary64)
  (sentMs nowMs : ℤ)

/-- A response without a header, or with an empty one, is rejected by both. -/
theorem handle_of_noHeader {dateHeader : Option String} (h : dateHeader.getD "" = "") :
    (∃ e, self.handle parseDate sentMs (.response nowMs dateHeader) = .reject e) ∧
      ∃ e, fetchHttpsDateHandle parseDate name timeoutMs sentMs (.response nowMs dateHeader) =
        .reject e := by
  constructor
  · rw [HTTPSTimeSource.handle, HTTPSTimeSource.getTime, if_pos h]
    exact ⟨_, rfl⟩
  · rw [fetchHttpsDateHandle, fetchHttpsDate, if_pos h]
    exact ⟨_, rfl⟩

/-- A date makes the same reading for both, up to its source. -/
theorem handle_of_date {dateHeader : Option String} (h : dateHeader.getD "" ≠ "") {dateMs : ℤ}
    (hdate : parseDate (dateHeader.getD "") = some dateMs) :
    self.handle parseDate sentMs (.response nowMs dateHeader) =
        .resolve (dateReading self.name sentMs nowMs dateMs) ∧
      fetchHttpsDateHandle parseDate name timeoutMs sentMs (.response nowMs dateHeader) =
        .resolve (dateReading name sentMs nowMs dateMs) := by
  constructor
  · rw [HTTPSTimeSource.handle, HTTPSTimeSource.getTime, if_neg h, hdate]
  · rw [fetchHttpsDateHandle, fetchHttpsDate, if_neg h, hdate]

/-- A header that is no date makes one throw, and the other one reject. -/
theorem handle_of_noDate {dateHeader : Option String} (h : dateHeader.getD "" ≠ "")
    (hdate : parseDate (dateHeader.getD "") = none) :
    self.handle parseDate sentMs (.response nowMs dateHeader) = .throws .rangeError ∧
      ∃ e, fetchHttpsDateHandle parseDate name timeoutMs sentMs (.response nowMs dateHeader) =
        .reject e := by
  constructor
  · rw [HTTPSTimeSource.handle, HTTPSTimeSource.getTime, if_neg h, hdate]
  · rw [fetchHttpsDateHandle, fetchHttpsDate, if_neg h, hdate]
    exact ⟨_, rfl⟩

/-- **When the two readers agree** on a response: unless it has a header that is no date. -/
theorem readers_agree_iff (dateHeader : Option String) :
    (self.handle parseDate sentMs (.response nowMs dateHeader)).Agree
        (fetchHttpsDateHandle parseDate name timeoutMs sentMs (.response nowMs dateHeader)) ↔
      (dateHeader.getD "" ≠ "" → (parseDate (dateHeader.getD "")).isSome) := by
  by_cases h : dateHeader.getD "" = ""
  · obtain ⟨⟨e, hget⟩, e', hfetch⟩ :=
      handle_of_noHeader parseDate self name timeoutMs sentMs nowMs h
    rw [hget, hfetch]
    exact iff_of_true trivial fun hne => absurd h hne
  · cases hdate : parseDate (dateHeader.getD "") with
    | some dateMs =>
      obtain ⟨hget, hfetch⟩ := handle_of_date parseDate self name timeoutMs sentMs nowMs h hdate
      rw [hget, hfetch]
      exact iff_of_true ⟨rfl, rfl, rfl⟩ fun _ => rfl
    | none =>
      obtain ⟨hget, e, hfetch⟩ :=
        handle_of_noDate parseDate self name timeoutMs sentMs nowMs h hdate
      rw [hget, hfetch]
      exact iff_of_false id fun hsome => absurd (hsome h) (by decide)

end Response

/-- The readers agree on every response. -/
def ReadersAgree : Prop :=
  ∀ (parseDate : ParseDate) (self : HTTPSTimeSource) (name : String) (timeoutMs : Binary64)
    (sentMs nowMs : ℤ) (dateHeader : Option String),
    (self.handle parseDate sentMs (.response nowMs dateHeader)).Agree
      (fetchHttpsDateHandle parseDate name timeoutMs sentMs (.response nowMs dateHeader))

/-- A header that is no date. -/
theorem not_readersAgree : ¬ ReadersAgree := by
  intro h
  obtain ⟨hget, e, hfetch⟩ := handle_of_noDate sampleParse ⟨"nist", "https://time.nist.gov/"⟩ "nist"
    (.ofNat 3000) 1700000000100 1700000000120 (show (some "not a date").getD "" ≠ "" by decide)
    (by decide)
  have hagree := h sampleParse ⟨"nist", "https://time.nist.gov/"⟩ "nist" (.ofNat 3000) 1700000000100
    1700000000120 (some "not a date")
  rw [hget, hfetch] at hagree
  exact hagree

end OpenTTT
