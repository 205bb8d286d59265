import OpenTTT.Foundations.Binary64Integers
import OpenTTT.Foundations.OrderStatistic
import OpenTTT.Plugin.PotToken
import Mathlib.Data.List.GetD

/-!
# The time provider under faulty sources

`getVerifiedTime` asks four sources and takes the median of those that answer, the rounded mean of
two if their number is even; it reports a consensus if none of them deviates from the median by two
seconds. The numbers are doubles, in which the sum of two dates need not be exact.

`verifiedTime_accurate` says how far the reported time is from the true one: as far as the sources
that are not faulty, if the faulty ones are a minority; and with a consensus up to two seconds more,
if a single source is not faulty. `consensus_bounds` compares the consensus to what it is for, that
all sources are within two seconds of each other.
-/

namespace OpenTTT

open OrderStatistic Binary64

section

variable (fetchTimeFromSource : String → String → Option ℤ)

/-- The times of the sources that answer. -/
def answers : List ℤ := TIME_SOURCES.filterMap fun s => fetchTimeFromSource s.1 s.2

/-- The answers are times of a `Date`. -/
def AnswersAreDates : Prop :=
  ∀ url label ts, fetchTimeFromSource url label = some ts → ts.natAbs ≤ 8640000000000000

end

variable {fetchTimeFromSource : String → String → Option ℤ}

theorem natAbs_answers (hdates : AnswersAreDates fetchTimeFromSource) :
    ∀ t ∈ answers fetchTimeFromSource, t.natAbs < 2 ^ 53 := by
  intro t ht
  obtain ⟨s, -, hs⟩ := List.mem_filterMap.1 ht
  have h := hdates s.1 s.2 t hs
  omega

/-- The deviations from an integer are finite, and below a bound if those of the integers are. -/
theorem exists_deviations {m : ℤ} (hm : m.natAbs < 2 ^ 53) {ts : List ℤ}
    (hts : ∀ t ∈ ts, t.natAbs < 2 ^ 53) :
    ∃ qs : List ℚ, ts.map (fun t => ((ofInt t).sub (ofInt m)).abs) = qs.map finite ∧
      ∀ c : ℤ, c < 2 ^ 53 → ((∀ q ∈ qs, q < c) ↔ ∀ t ∈ ts, |t - m| < c) := by
  induction ts with
  | nil => exact ⟨[], rfl, fun c _ => by simp⟩
  | cons t ts ih =>
    obtain ⟨qs, hqs, hbound⟩ := ih fun u hu => hts u (List.mem_cons_of_mem t hu)
    obtain ⟨d, hd, hdbound⟩ := exists_sub_abs (hts t List.mem_cons_self) hm
    refine ⟨d :: qs, by rw [List.map_cons, hd, hqs, List.map_cons], fun c hc => ?_⟩
    rw [List.forall_mem_cons, List.forall_mem_cons, hbound c hc, ← hdbound c hc]
    exact and_congr_left fun _ => Int.cast_lt

/-! ## The median -/

/-- The median that the provider takes of sorted times. -/
def medianOf (timestamps : List Binary64) : Binary64 :=
  if timestamps.length % 2 = 0 then
    (((timestamps.getD (timestamps.length / 2 - 1) .nan).add
      (timestamps.getD (timestamps.length / 2) .nan)).div (.finite 2)).roundHalfUp
  else timestamps.getD (timestamps.length / 2) .nan

/-- The median is an integer between the two times in the middle. -/
theorem exists_medianOf {sorted : List ℤ} (hsorted : sorted.Pairwise (· ≤ ·))
    (hsmall : ∀ t ∈ sorted, t.natAbs < 2 ^ 53) (hlo : (sorted.length - 1) / 2 < sorted.length)
    (hhi : sorted.length / 2 < sorted.length) :
    ∃ m : ℤ, medianOf (sorted.map ofInt) = finite m ∧ sorted[(sorted.length - 1) / 2] ≤ m ∧
      m ≤ sorted[sorted.length / 2] := by
  have hget (k : ℕ) (hk : k < sorted.length) :
      (sorted.map ofInt).getD k nan = ofInt sorted[k] := by
    rw [List.getD_eq_getElem _ _ (by rwa [List.length_map]), List.getElem_map]
  unfold medianOf
  rw [List.length_map]
  split
  · have hprev : sorted.length / 2 - 1 = (sorted.length - 1) / 2 := by omega
    rw [hprev, hget _ hlo, hget _ hhi]
    exact mean_between (hsmall _ (List.getElem_mem _)) (hsmall _ (List.getElem_mem _))
      (hsorted.rel_get_of_le (a := ⟨_, hlo⟩) (b := ⟨_, hhi⟩) (Fin.mk_le_mk.2 (by omega)))
  · have hsame : (sorted.length - 1) / 2 = sorted.length / 2 := by omega
    simp only [hsame]
    rw [hget _ hhi]
    exact ⟨_, ofInt_eq (hsmall _ (List.getElem_mem _)), le_rfl, le_rfl⟩

/-- **What the provider reports**, if two sources answer: an integer between the two answers in the
middle, and a consensus if all answers are near it. -/
theorem exists_verifiedTime (hdates : AnswersAreDates fetchTimeFromSource)
    (htwo : 2 ≤ (answers fetchTimeFromSource).length) (now : ℤ) :
    ∃ (sorted : List ℤ) (m : ℤ) (hlo : (sorted.length - 1) / 2 < sorted.length)
        (hhi : sorted.length / 2 < sorted.length),
      sorted.Perm (answers fetchTimeFromSource) ∧ sorted.Pairwise (· ≤ ·) ∧
        sorted[(sorted.length - 1) / 2] ≤ m ∧ m ≤ sorted[sorted.length / 2] ∧
        (getVerifiedTime fetchTimeFromSource now).timestamp = finite m ∧
        ((getVerifiedTime fetchTimeFromSource now).consensus = true ↔
          ∀ t ∈ answers fetchTimeFromSource, |t - m| < 2000) := by
  obtain ⟨valid, hvalid⟩ : ∃ valid, valid = TIME_SOURCES.filterMap fun s =>
    (fetchTimeFromSource s.1 s.2).map fun ts => (s.2, ts) := ⟨_, rfl⟩
  have hmap : valid.map Prod.snd = answers fetchTimeFromSource := by
    rw [hvalid, List.map_filterMap, answers]
    simp only [Option.map_map, Function.comp_def, Option.map_id']
  have hlength : ¬ valid.length < 2 := by
    rw [← List.length_map (f := Prod.snd), hmap]
    exact not_lt.2 htwo
  obtain ⟨sorted, hsorted⟩ : ∃ sorted,
    sorted = (answers fetchTimeFromSource).insertionSort (· ≤ ·) := ⟨_, rfl⟩
  have hperm : sorted.Perm (answers fetchTimeFromSource) := hsorted ▸ List.perm_insertionSort _ _
  have hpairwise : sorted.Pairwise (· ≤ ·) := hsorted ▸ List.pairwise_insertionSort _ _
  have hlen := hperm.length_eq
  have hsmall : ∀ t ∈ sorted, t.natAbs < 2 ^ 53 :=
    fun t ht => natAbs_answers hdates t (hperm.mem_iff.1 ht)
  have hlo : (sorted.length - 1) / 2 < sorted.length := by omega
  have hhi : sorted.length / 2 < sorted.length := by omega
  obtain ⟨m, hmedian, hlom, hmhi⟩ := exists_medianOf hpairwise hsmall hlo hhi
  have hm : m.natAbs < 2 ^ 53 := by
    have hbelow := hsmall _ (List.getElem_mem hlo)
    have habove := hsmall _ (List.getElem_mem hhi)
    omega
  obtain ⟨qs, hqs, hbound⟩ := exists_deviations hm hsmall
  have hdeviation : ((sorted.map ofInt).map fun t => (t.sub (finite m)).abs) = qs.map finite := by
    rw [List.map_map, ← hqs, ← ofInt_eq hm]
    rfl
  have hreport : (getVerifiedTime fetchTimeFromSource now).timestamp =
        medianOf (sorted.map ofInt) ∧
      (getVerifiedTime fetchTimeFromSource now).consensus =
        (((sorted.map ofInt).map fun t => (t.sub (medianOf (sorted.map ofInt))).abs).foldl larger
          (infinity true)).lt (finite 2000) := by
    unfold getVerifiedTime
    rw [← hvalid, if_neg hlength, hmap, ← hsorted]
    exact ⟨rfl, rfl⟩
  refine ⟨sorted, m, hlo, hhi, hperm, hpairwise, hlom, hmhi, hreport.1.trans hmedian, ?_⟩
  rw [hreport.2, hmedian, hdeviation, largest_lt_iff (Or.inl rfl)]
  have h2000 := hbound 2000 (by norm_num)
  rw [Int.cast_ofNat] at h2000
  rw [h2000]
  simp only [hperm.mem_iff]
  exact ⟨fun h => h.2, fun h => ⟨rfl, h⟩⟩

/-! ## How far it is from the true time -/

/-- There are answers on both sides of the median. -/
theorem exists_answers_around {sorted : List ℤ} {m : ℤ}
    {hlo : (sorted.length - 1) / 2 < sorted.length} {hhi : sorted.length / 2 < sorted.length}
    (hperm : sorted.Perm (answers fetchTimeFromSource))
    (hlom : sorted[(sorted.length - 1) / 2] ≤ m) (hmhi : m ≤ sorted[sorted.length / 2]) :
    (∃ a ∈ answers fetchTimeFromSource, a ≤ m) ∧ ∃ b ∈ answers fetchTimeFromSource, m ≤ b :=
  ⟨⟨_, hperm.mem_iff.1 (List.getElem_mem hlo), hlom⟩,
    _, hperm.mem_iff.1 (List.getElem_mem hhi), hmhi⟩

/-- **How far the reported time is from the true one**: no farther than the answers of which more
than half are that near, and with a consensus less than two seconds farther than any answer. -/
theorem verifiedTime_accurate (hdates : AnswersAreDates fetchTimeFromSource)
    (htwo : 2 ≤ (answers fetchTimeFromSource).length) (now : ℤ) (time ε : ℚ) :
    ∃ m : ℤ, (getVerifiedTime fetchTimeFromSource now).timestamp = finite m ∧
      (2 * (answers fetchTimeFromSource).countP (fun t : ℤ => decide (ε < |(t : ℚ) - time|)) <
          (answers fetchTimeFromSource).length → |(m : ℚ) - time| ≤ ε) ∧
      ((getVerifiedTime fetchTimeFromSource now).consensus = true →
        (∃ t ∈ answers fetchTimeFromSource, |(t : ℚ) - time| ≤ ε) →
          |(m : ℚ) - time| < 2000 + ε) := by
  obtain ⟨sorted, m, hlo, hhi, hperm, hsorted, hlom, hmhi, htimestamp, hconsensus⟩ :=
    exists_verifiedTime hdates htwo now
  refine ⟨m, htimestamp, fun hminority => ?_, fun htrue => ?_⟩
  · -- the positions of the answers that are too far
    obtain ⟨faulty, hfaulty⟩ : ∃ faulty, faulty = Finset.univ.filter
        fun i : Fin (answers fetchTimeFromSource).length =>
          decide (ε < |((answers fetchTimeFromSource)[i] : ℚ) - time|) = true := ⟨_, rfl⟩
    have hcard : faulty.card =
        (answers fetchTimeFromSource).countP fun t : ℤ => decide (ε < |(t : ℚ) - time|) := by
      rw [hfaulty]
      exact card_positions (fun t : ℤ => decide (ε < |(t : ℚ) - time|)) _
    have hnear : ∀ i ∉ faulty, |((answers fetchTimeFromSource)[i] : ℚ) - time| ≤ ε := by
      intro i hi
      by_contra hfar
      exact hi (by simpa [hfaulty] using hfar)
    have hlen := hperm.length_eq
    have hbetween : BetweenCorrect (answers fetchTimeFromSource) faulty m :=
      betweenCorrect_of_ranks hperm hsorted hlo hhi (by omega) (by omega) hlom hmhi
    obtain ⟨⟨i, hi, hle⟩, j, hj, hge⟩ := hbetween
    have hlower := hnear i hi
    have hupper := hnear j hj
    have hle' : ((answers fetchTimeFromSource)[i] : ℚ) ≤ m := by exact_mod_cast hle
    have hge' : (m : ℚ) ≤ (answers fetchTimeFromSource)[j] := by exact_mod_cast hge
    rw [abs_le] at hlower hupper ⊢
    constructor <;> linarith
  · rintro ⟨t, ht, hclose⟩
    have hdeviation : |(t : ℚ) - m| < 2000 := by exact_mod_cast hconsensus.1 htrue t ht
    calc |(m : ℚ) - time| ≤ |(m : ℚ) - t| + |(t : ℚ) - time| := abs_sub_le _ _ _
      _ < 2000 + ε := by
        rw [abs_sub_comm]
        exact add_lt_add_of_lt_of_le hdeviation hclose

/-- One of three sources that answer is far off. -/
def sampleAnswers : String → String → Option ℤ
  | _, "NIST" => some 1700000000000
  | _, "Google" => some 1700000001000
  | _, "Cloudflare" => some 1600000000000
  | _, _ => none

theorem answersAreDates_sample : AnswersAreDates sampleAnswers := by
  intro url label ts h
  unfold sampleAnswers at h
  split at h
  · cases h
    decide
  · cases h
    decide
  · cases h
    decide
  · cases h

/-- A second is as far as the reported time is off. -/
theorem verifiedTime_accurate_sample :
    ∃ m : ℤ, (getVerifiedTime sampleAnswers 0).timestamp = finite m ∧
      (2 * (answers sampleAnswers).countP
          (fun t : ℤ => decide ((1000 : ℚ) < |(t : ℚ) - 1700000000000|)) <
          (answers sampleAnswers).length → |(m : ℚ) - 1700000000000| ≤ 1000) ∧
      ((getVerifiedTime sampleAnswers 0).consensus = true →
        (∃ t ∈ answers sampleAnswers, |(t : ℚ) - 1700000000000| ≤ 1000) →
          |(m : ℚ) - 1700000000000| < 2000 + 1000) :=
  verifiedTime_accurate answersAreDates_sample (by decide) 0 1700000000000 1000

/-- **What a consensus says** of the answers: it is reported if any two are less than two seconds
apart, and if it is reported any two are less than four. -/
theorem consensus_bounds (hdates : AnswersAreDates fetchTimeFromSource)
    (htwo : 2 ≤ (answers fetchTimeFromSource).length) (now : ℤ) :
    ((∀ a ∈ answers fetchTimeFromSource, ∀ b ∈ answers fetchTimeFromSource, |a - b| < 2000) →
      (getVerifiedTime fetchTimeFromSource now).consensus = true) ∧
    ((getVerifiedTime fetchTimeFromSource now).consensus = true →
      ∀ a ∈ answers fetchTimeFromSource, ∀ b ∈ answers fetchTimeFromSource, |a - b| < 4000) := by
  obtain ⟨sorted, m, hlo, hhi, hperm, -, hlom, hmhi, -, hconsensus⟩ :=
    exists_verifiedTime hdates htwo now
  constructor
  · intro hpairs
    obtain ⟨⟨a, ha, ham⟩, b, hb, hmb⟩ := exists_answers_around hperm hlom hmhi
    refine hconsensus.2 fun t ht => ?_
    have hta := hpairs t ht a ha
    have htb := hpairs t ht b hb
    rw [abs_lt] at hta htb ⊢
    omega
  · intro htrue a ha b hb
    have ham := hconsensus.1 htrue a ha
    have hbm := hconsensus.1 htrue b hb
    rw [abs_lt] at ham hbm ⊢
    omega

/-- Three sources within two seconds. -/
def closeAnswers : String → String → Option ℤ
  | _, "NIST" => some 1700000000000
  | _, "Google" => some 1700000001000
  | _, "Cloudflare" => some 1700000001900
  | _, _ => none

theorem answersAreDates_close : AnswersAreDates closeAnswers := by
  intro url label ts h
  unfold closeAnswers at h
  split at h
  · cases h
    decide
  · cases h
    decide
  · cases h
    decide
  · cases h

/-- They are in consensus. -/
theorem consensus_bounds_sample :
    (getVerifiedTime closeAnswers 0).consensus = true ∧
      ∀ a ∈ answers closeAnswers, ∀ b ∈ answers closeAnswers, |a - b| < 4000 := by
  obtain ⟨hreported, hclose⟩ := consensus_bounds answersAreDates_close (by decide) 0
  have hconsensus := hreported (by decide)
  exact ⟨hconsensus, hclose hconsensus⟩

/-- A consensus of sources that are almost four seconds apart. -/
example : (getVerifiedTime (fun _ label => if label = "NIST" then some 0 else
    if label = "Apple" then some 3998 else none) 0).consensus = true := by
  decide +kernel

end OpenTTT
