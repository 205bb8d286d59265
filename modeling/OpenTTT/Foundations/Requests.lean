import OpenTTT.Foundations.Mealy

/-!
# Requests in flight

A component that has any number of requests in flight: each has a state of its own, events reach one
of them at a time and in any order, and a stop reaches all that there are. `getElem?_after_start`
says that the state of a request is the one that its own events and the stops alone leave it in,
whatever the others do in between; `event_output` reads off what its handler returns for an event.
So what is to be shown about a request is an induction over its own events.
-/

namespace Requests

variable {α σ γ ρ : Type*}

/-- What happens to the component: a request is started, an event reaches a request, or all of them
are stopped. -/
inductive Input (α γ : Type*)
  | start (a : α)
  | event (i : ℕ) (c : γ)
  | stop

variable (start : α → σ) (handle : σ → γ → ρ × σ) (stop : σ → σ)

/-- A step of the component, with what the handler of an event returns. Requests are numbered in the
order in which they are started. -/
def step (ss : List σ) : Input α γ → Option ρ × List σ
  | .start a => (none, ss ++ [start a])
  | .event i c =>
    match ss[i]? with
    | none => (none, ss)
    | some s => (some (handle s c).1, ss.set i (handle s c).2)
  | .stop => (none, ss.map stop)

/-- What reaches a request: an event, or a stop. -/
def advance (s : σ) : Option γ → σ
  | some c => (handle s c).2
  | none => stop s

/-- The events of a request and the stops, in their order. -/
def own (i : ℕ) (cs : List (Input α γ)) : List (Option γ) :=
  cs.filterMap fun
    | .start _ => none
    | .event j c => if j = i then some (some c) else none
    | .stop => some none

/-- The number of requests that are started. -/
def starts (cs : List (Input α γ)) : ℕ :=
  (cs.filter fun
    | .start _ => true
    | _ => false).length

variable {start handle stop}

theorem length_step (ss : List σ) (c : Input α γ) :
    (step start handle stop ss c).2.length = ss.length + starts [c] := by
  cases c with
  | start a => exact List.length_append
  | event i c =>
    unfold step
    dsimp only
    split
    · rfl
    · exact List.length_set
  | stop => exact List.length_map _

variable (start handle stop) in
theorem length_after (ss : List σ) (cs : List (Input α γ)) :
    (Mealy.after (step start handle stop) ss cs).length = ss.length + starts cs := by
  induction cs generalizing ss with
  | nil => rfl
  | cons c cs ih =>
    have hcons : starts (c :: cs) = starts [c] + starts cs := by
      rw [starts, ← List.singleton_append, List.filter_append, List.length_append]
      rfl
    rw [Mealy.after_cons, ih, length_step, hcons, Nat.add_assoc]

/-- A step does to a request what reaches it. -/
theorem getElem?_step {ss : List σ} {i : ℕ} {s : σ} (hi : ss[i]? = some s) (c : Input α γ) :
    (step start handle stop ss c).2[i]? = some ((own i [c]).foldl (advance handle stop) s) := by
  cases c with
  | start a =>
    unfold step
    rw [List.getElem?_append_left (List.getElem?_eq_some_iff.1 hi).1, hi]
    rfl
  | event j c =>
    by_cases hj : j = i
    · subst hj
      have hlt := (List.getElem?_eq_some_iff.1 hi).1
      simp only [step, hi, own, List.filterMap_cons, if_true, List.filterMap_nil,
        List.foldl_cons, List.foldl_nil, advance, List.getElem?_set_self hlt]
    · simp only [own, List.filterMap_cons, if_neg hj, List.filterMap_nil, List.foldl_nil]
      unfold step
      dsimp only
      split
      · exact hi
      · rw [List.getElem?_set_ne hj, hi]
  | stop =>
    unfold step
    rw [List.getElem?_map, hi]
    rfl

/-- **Requests do not interfere**: after a run, a request is where its own events and the stops lead
it. -/
theorem getElem?_after {ss : List σ} {i : ℕ} {s : σ} (hi : ss[i]? = some s)
    (cs : List (Input α γ)) : (Mealy.after (step start handle stop) ss cs)[i]? =
      some ((own i cs).foldl (advance handle stop) s) := by
  induction cs generalizing ss s with
  | nil => exact hi
  | cons c cs ih =>
    have hown : own i (c :: cs) = own i [c] ++ own i cs := by
      rw [own, ← List.singleton_append, List.filterMap_append]
      rfl
    rw [Mealy.after_cons, ih (getElem?_step hi c), hown, List.foldl_append]

variable (start handle stop) in
/-- The state of a request from its start on. -/
theorem getElem?_after_start (pre post : List (Input α γ)) (a : α) :
    (Mealy.after (step start handle stop) [] (pre ++ .start a :: post))[starts pre]? =
      some ((own (starts pre) post).foldl (advance handle stop) (start a)) := by
  rw [Mealy.after_append, Mealy.after_cons]
  apply getElem?_after
  have hlength := length_after start handle stop [] pre
  rw [List.length_nil, Nat.zero_add] at hlength
  rw [step, ← hlength, List.getElem?_concat_length]

variable (start handle stop) in
/-- What the handler of a request returns for an event after a run. -/
theorem event_output (pre post : List (Input α γ)) (a : α) (c : γ) :
    (step start handle stop (Mealy.after (step start handle stop) [] (pre ++ .start a :: post))
      (.event (starts pre) c)).1 =
      some (handle ((own (starts pre) post).foldl (advance handle stop) (start a)) c).1 := by
  have hget := getElem?_after_start start handle stop pre post a
  simp only [step, hget]

/-- What starts establish, and events and stops keep, holds of every request of a run. -/
theorem forall_mem_after {P : σ → Prop} (hstart : ∀ a, P (start a))
    (hhandle : ∀ s c, P s → P (handle s c).2) (hstop : ∀ s, P s → P (stop s))
    (cs : List (Input α γ)) : ∀ s ∈ Mealy.after (step start handle stop) [] cs, P s := by
  induction cs using List.reverseRecOn with
  | nil => simp
  | append_singleton cs c ih =>
    intro s hs
    rw [Mealy.after_concat] at hs
    cases c with
    | start a =>
      rcases List.mem_append.1 hs with hs | hs
      · exact ih s hs
      · exact List.mem_singleton.1 hs ▸ hstart a
    | event i c =>
      unfold step at hs
      dsimp only at hs
      split at hs
      · exact ih s hs
      · rename_i s' hget
        rcases List.mem_or_eq_of_mem_set hs with hs | rfl
        · exact ih s hs
        · exact hhandle s' c (ih s' (List.mem_of_getElem? hget))
    | stop =>
      obtain ⟨s', hs', rfl⟩ := List.mem_map.1 hs
      exact hstop s' (ih s' hs')

end Requests
