import Mathlib.Data.List.Basic

/-!
# Values in one buffer

Values that stand one after the other in a buffer, and the offsets at which they start. `cut` takes
a buffer apart at given offsets, checking that they are in order and in the buffer; `offsets` are
those of values that are put together. The two are inverse: `cut_offsets` and `cut_sound`.
-/

namespace Slices

variable {α : Type*}

/-- The offsets of values that follow each other from `start` on. -/
def offsets (start : ℕ) : List (List α) → List ℕ
  | [] => []
  | v :: vs => start :: offsets (start + v.length) vs

/-- The values in a buffer at the given offsets: each ends where the next one starts, the last one
with the buffer. -/
def cut (buf : List α) : List ℕ → Option (List (List α))
  | [] => some []
  | start :: starts =>
    let stop := starts.head?.getD buf.length
    if stop > buf.length ∨ start > stop then none
    else (cut buf starts).map ((buf.take stop).drop start :: ·)

theorem cut_cons_cons (buf : List α) (start next : ℕ) (starts : List ℕ) :
    cut buf (start :: next :: starts) =
      if next > buf.length ∨ start > next then none
      else (cut buf (next :: starts)).map ((buf.take next).drop start :: ·) := rfl

@[simp] theorem length_offsets (start : ℕ) (vs : List (List α)) :
    (offsets start vs).length = vs.length := by
  induction vs generalizing start with
  | nil => rfl
  | cons v vs ih => rw [offsets, List.length_cons, List.length_cons, ih]

/-- The first offset, or the end of the buffer if there is no value. -/
theorem head?_offsets (start : ℕ) (vs : List (List α)) :
    (offsets start vs).head?.getD (start + vs.flatten.length) = start := by
  cases vs <;> rfl

theorem offsets_add (d start : ℕ) (vs : List (List α)) :
    offsets (d + start) vs = (offsets start vs).map (d + ·) := by
  induction vs generalizing start with
  | nil => rfl
  | cons v vs ih => rw [offsets, offsets, List.map_cons, Nat.add_assoc, ih]

/-- The offsets do not pass the end of the values. -/
theorem le_of_mem_offsets {start : ℕ} {vs : List (List α)} {o : ℕ} (h : o ∈ offsets start vs) :
    o ≤ start + vs.flatten.length := by
  induction vs generalizing start with
  | nil => simp [offsets] at h
  | cons v vs ih =>
    rw [List.flatten_cons, List.length_append]
    rcases List.mem_cons.1 h with rfl | h
    · omega
    · have hle := ih h
      omega

/-- **Putting together and cutting** returns the values. -/
theorem cut_offsets (pre : List α) (vs : List (List α)) :
    cut (pre ++ vs.flatten) (offsets pre.length vs) = some vs := by
  induction vs generalizing pre with
  | nil => rfl
  | cons v vs ih =>
    have hlen : (pre ++ v).length = pre.length + v.length := List.length_append
    have hstop : (offsets (pre.length + v.length) vs).head?.getD
        (pre ++ (v :: vs).flatten).length = pre.length + v.length := by
      rw [List.flatten_cons, ← List.append_assoc, List.length_append, hlen]
      exact head?_offsets _ vs
    have hbuf : pre ++ (v :: vs).flatten = (pre ++ v) ++ vs.flatten := by
      rw [List.flatten_cons, List.append_assoc]
    have hrest := ih (pre ++ v)
    rw [hlen, ← hbuf] at hrest
    have hvalue :
        ((pre ++ (v :: vs).flatten).take (pre.length + v.length)).drop pre.length = v := by
      rw [hbuf, List.take_left' hlen, List.drop_left]
    rw [offsets, cut, hrest]
    simp only [hstop, hvalue]
    rw [if_neg, Option.map_some]
    rw [hbuf, List.length_append, hlen]
    omega

/-- **Cutting and putting together** returns the buffer, from the first offset on, and the
offsets. -/
theorem cut_sound {buf : List α} {start : ℕ} {starts : List ℕ} {vs : List (List α)}
    (h : cut buf (start :: starts) = some vs) :
    offsets start vs = start :: starts ∧ vs.flatten = buf.drop start := by
  induction starts generalizing start vs with
  | nil =>
    rw [cut] at h
    split at h
    · cases h
    · cases h
      simp [offsets]
  | cons next starts ih =>
    rw [cut_cons_cons] at h
    split at h
    · cases h
    · rename_i hin
      obtain ⟨rest, hrest, rfl⟩ := Option.map_eq_some_iff.1 h
      obtain ⟨hoffsets, hflatten⟩ := ih hrest
      have hlen : ((buf.take next).drop start).length = next - start := by
        rw [List.length_drop, List.length_take]
        omega
      constructor
      · rw [offsets, hlen, show start + (next - start) = next by omega, hoffsets]
      · rw [List.flatten_cons, hflatten, ← List.drop_append_of_le_length
          (by rw [List.length_take]; omega), List.take_append_drop]

/-- **When a buffer can be cut**: the offsets do not go down, and do not pass its end. -/
theorem cut_isSome_iff {buf : List α} {starts : List ℕ} :
    (cut buf starts).isSome ↔ (starts ++ [buf.length]).IsChain (· ≤ ·) := by
  induction starts with
  | nil => simp [cut]
  | cons start starts ih =>
    cases starts with
    | nil => simp [cut]
    | cons next starts =>
      rw [cut_cons_cons, List.cons_append, List.cons_append, List.isChain_cons_cons,
        ← List.cons_append, ← ih]
      split
      · rename_i hout
        simp only [Option.isSome_none, Bool.false_eq_true, false_iff]
        rintro ⟨hle, hsome⟩
        have hnext := List.isChain_iff_pairwise.1 (ih.1 hsome)
        rw [List.cons_append, List.pairwise_cons] at hnext
        have hlen := hnext.1 buf.length (by simp)
        omega
      · rename_i hin
        rw [Option.isSome_map]
        exact ⟨fun h => ⟨by omega, h⟩, And.right⟩

end Slices
