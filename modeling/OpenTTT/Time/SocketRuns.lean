import Mathlib.Data.List.ReduceOption
import OpenTTT.Foundations.Requests
import OpenTTT.Roughtime.Reading
import OpenTTT.Time.Https
import OpenTTT.Time.Ntp

/-!
# The requests of the time sources

`getTime` may be called any number of times before the first call has settled, and a request goes on
receiving events after its promise is settled: a second datagram, the callback of `send` after the
resolver has given up, a timer. Here the handlers of a source are steps on the state of a request,
and the events of all requests come in any order, with calls of `close` in between.

`roughtime_requests_settle` says what the guard `settled` and the set `activeSockets` of
`RoughtimeSource` are for. `NTPSource` has neither: `ntp_throws_iff` says that every event after the
first one throws out of its handler. And `https_activeRequests_iff` says what `HTTPSTimeSource`
leaves in its `activeRequests`.
-/

namespace OpenTTT

/-- A promise is settled once. -/
def settle {α : Type} (promise : Option α) (outcome : α) : Option α := promise <|> some outcome

/-! ## Roughtime -/

namespace RoughtimeSource

variable (self : RoughtimeSource)

/-- What a promise of `sendAndReceive` is settled with, by an event at its socket. -/
def outcome : SocketEvent → Except Thrown Buffer
  | .timeout =>
    reject ("Roughtime timeout for " ++ self.name)
      (self.host ++ ":" ++ numberToString self.port ++ " did not respond within " ++
        numberToString self.timeoutMs ++ "ms")
      ("Check UDP egress/firewall rules for this port, or try a different Roughtime server.")
  | .error message =>
    reject ("Roughtime socket error for " ++ self.name) message
      "Ensure UDP is permitted outbound to this Roughtime server."
  | .message msg => .ok msg
  | .sendFailed message =>
    reject ("Failed to send Roughtime request to " ++ self.name) message "Check network settings."
  | .threw e => .error e

theorem sendAndReceive_eq_outcome (network : Network) (requestPacket : Buffer) (address : String)
    (family : ℕ) : self.sendAndReceive network requestPacket address family =
      self.outcome (network (if family = 6 then "udp6" else "udp4") address self.port
        requestPacket) := by
  unfold sendAndReceive outcome
  cases network _ address self.port requestPacket <;> rfl

/-- A request: the variable `settled`, the timer, the socket and whether it is in `activeSockets`,
and the promise. -/
structure Request where
  settled : Bool
  timer : Bool
  isOpen : Bool
  active : Bool
  promise : Option (Except Thrown Buffer)

/-- The start of `sendAndReceive`. What `send` throws rejects the promise and nothing else. -/
def startRequest (sendThrew : Option Thrown) : Request where
  settled := false
  timer := true
  isOpen := true
  active := true
  promise := sendThrew.map .error

/-- `cleanup`. That the socket may be closed already is caught. -/
def cleanup (r : Request) : Request := { r with active := false, isOpen := false }

/-- The handlers of the events at a socket. They return nothing, and nothing escapes from them. -/
def onEvent (r : Request) : SocketEvent → Unit × Request
  | .timeout =>
    if !r.timer then ((), r)
    else if r.settled then ((), { r with timer := false })
    else ((), { cleanup { r with timer := false, settled := true } with
      promise := settle r.promise (self.outcome .timeout) })
  | .threw _ => ((), r)
  | event =>
    if r.settled then ((), r)
    else ((), { cleanup { r with timer := false, settled := true } with
      promise := settle r.promise (self.outcome event) })

/-- `close`, for one of the sockets. -/
def closeRequest (r : Request) : Request :=
  { r with isOpen := r.isOpen && !r.active, active := false }

/-- What happens at a source: requests, events at their sockets, and `close`. -/
abbrev SourceInput := Requests.Input (Option Thrown) SocketEvent

/-- The requests of a source after a run. -/
def requestsAfter (cs : List SourceInput) : List Request :=
  Mealy.after (Requests.step startRequest self.onEvent closeRequest) [] cs

/-- The events of a request that can settle it: `send` throws only at the start. -/
def settling (es : List (Option SocketEvent)) : List SocketEvent :=
  es.filterMap fun
    | some (.threw _) => none
    | e => e

/-- Where a request is after its events. -/
def requestOf (sendThrew : Option Thrown) (es : List (Option SocketEvent)) : Request where
  settled := !(settling es).isEmpty
  timer := (settling es).isEmpty
  isOpen := (settling es).isEmpty && !es.any Option.isNone
  active := (settling es).isEmpty && !es.any Option.isNone
  promise := sendThrew.map .error <|> (settling es).head?.map self.outcome

theorem settling_concat (es : List (Option SocketEvent)) (e : Option SocketEvent) :
    settling (es ++ [e]) = settling es ++ settling [e] := List.filterMap_append

/-- What reaches a request keeps it where its events lead it. -/
theorem advance_requestOf (sendThrew : Option Thrown) (es : List (Option SocketEvent))
    (e : Option SocketEvent) :
    Requests.advance self.onEvent closeRequest (self.requestOf sendThrew es) e =
      self.requestOf sendThrew (es ++ [e]) := by
  have hany : (es ++ [e]).any Option.isNone = (es.any Option.isNone || e.isNone) := by simp
  unfold requestOf
  rw [hany, settling_concat]
  cases e with
  | none =>
    have hnone : settling [none] = [] := rfl
    rw [hnone, List.append_nil]
    cases (settling es).isEmpty <;> cases es.any Option.isNone <;> rfl
  | some event =>
    cases hes : settling es with
    | nil => cases event <;> cases sendThrew <;> cases es.any Option.isNone <;> rfl
    | cons first rest => cases event <;> cases es.any Option.isNone <;> rfl

theorem foldl_advance (sendThrew : Option Thrown) (es : List (Option SocketEvent)) :
    es.foldl (Requests.advance self.onEvent closeRequest) (startRequest sendThrew) =
      self.requestOf sendThrew es := by
  induction es using List.reverseRecOn with
  | nil => cases sendThrew <;> rfl
  | append_singleton es e ih =>
    rw [List.foldl_append, ih]
    exact self.advance_requestOf sendThrew es e

/-- A socket is open as long as it is in `activeSockets`. -/
theorem isOpen_eq_active (cs : List SourceInput) :
    ∀ r ∈ self.requestsAfter cs, r.isOpen = r.active := by
  refine Requests.forall_mem_after (P := fun r : Request => r.isOpen = r.active) (fun _ => rfl)
    (fun r event h => ?_) (fun r h => ?_) cs
  · obtain ⟨settled, timer, isOpen, active, promise⟩ := r
    cases event <;> cases settled <;> cases timer <;> first | exact h | rfl
  · simp [closeRequest, h]

/-- **Requests of a Roughtime source**, any number of them at once, with events in any order, among
them late ones and such at closed sockets. The promise of a request is settled with what
`sendAndReceive` makes of the first event that is to settle it, unless `send` has thrown before, and
with nothing else. Its socket is open, and in `activeSockets`, exactly until that event or a
`close`; and after a `close` no socket of the source is open. -/
theorem roughtime_requests_settle (pre post : List SourceInput) (sendThrew : Option Thrown) :
    (∃ r, (self.requestsAfter (pre ++ .start sendThrew :: post))[Requests.starts pre]? = some r ∧
      r.promise = (sendThrew.map .error <|>
        (settling (Requests.own (Requests.starts pre) post)).head?.map fun event =>
          self.sendAndReceive (fun _ _ _ _ => event) [] "" 4) ∧
      (r.isOpen = true ↔ settling (Requests.own (Requests.starts pre) post) = [] ∧
        none ∉ Requests.own (Requests.starts pre) post) ∧ r.active = r.isOpen) ∧
    ∀ r ∈ self.requestsAfter (pre ++ .start sendThrew :: post ++ [.stop]),
      r.isOpen = false ∧ r.active = false := by
  constructor
  · refine ⟨_, Requests.getElem?_after_start _ _ _ pre post sendThrew, ?_⟩
    rw [foldl_advance]
    refine ⟨?_, ?_, rfl⟩
    · simp only [requestOf, sendAndReceive_eq_outcome]
    · have hstopped : (Requests.own (Requests.starts pre) post).any Option.isNone = true ↔
          none ∈ Requests.own (Requests.starts pre) post := by simp
      simp only [requestOf, Bool.and_eq_true, List.isEmpty_iff, Bool.not_eq_true',
        ← Bool.not_eq_true, hstopped]
  · intro r hr
    have hopen := self.isOpen_eq_active _ r hr
    rw [requestsAfter, Mealy.after_concat] at hr
    obtain ⟨s, -, rfl⟩ := List.mem_map.1 hr
    exact ⟨hopen, rfl⟩

end RoughtimeSource

/-! ## NTP -/

namespace NTPSource

variable (self : NTPSource)

/-- A request: the time at which it was sent, the timer, the socket and the promise. -/
structure Request where
  sentMs : ℤ
  timer : Bool
  isOpen : Bool
  promise : Option (Except Thrown TimeReading)

/-- The start of `getTime`, at a time in milliseconds, and what `send` throws. -/
def startRequest (start : ℤ × Option String) : Request :=
  match start.2 with
  | none => ⟨start.1, true, true, none⟩
  | some message => ⟨start.1, false, false, some (self.getTime start.1 (.sendThrew message))⟩

/-- What all handlers do, with the timer cleared or fired: `client.close()`, which throws if the
socket is closed, and settling the promise. -/
def closeAndSettle (r : Request) (event : Event) : Option Thrown × Request :=
  if !r.isOpen then (some (.error "Not running"), r)
  else (none, { r with isOpen := false, promise := settle r.promise (self.getTime r.sentMs event) })

/-- The handlers of the events at a socket, with what escapes from them. A timer that was cleared
does not fire, and `send` throws only at the start. -/
def onEvent (r : Request) : Event → Option Thrown × Request
  | .timeout =>
    if !r.timer then (none, r) else self.closeAndSettle { r with timer := false } .timeout
  | .sendThrew _ => (none, r)
  | event => self.closeAndSettle { r with timer := false } event

/-- What happens at a source. It has no `close`. -/
abbrev SourceInput := Requests.Input (ℤ × Option String) Event

def requestStep : List Request → SourceInput → Option (Option Thrown) × List Request :=
  Requests.step self.startRequest self.onEvent id

/-- The requests of a source after a run. -/
def requestsAfter (cs : List SourceInput) : List Request := Mealy.after self.requestStep [] cs

/-- The events of a request that a handler receives. -/
def handled (es : List (Option Event)) : List Event :=
  es.filterMap fun
    | some (.sendThrew _) => none
    | e => e

/-- Where a request is after its events. -/
def requestOf (start : ℤ × Option String) (es : List (Option Event)) : Request :=
  match start.2, handled es with
  | none, first :: _ => ⟨start.1, false, false, some (self.getTime start.1 first)⟩
  | _, _ => self.startRequest start

theorem handled_concat (es : List (Option Event)) (e : Option Event) :
    handled (es ++ [e]) = handled es ++ handled [e] := List.filterMap_append

theorem advance_requestOf (start : ℤ × Option String) (es : List (Option Event))
    (e : Option Event) :
    Requests.advance self.onEvent id (self.requestOf start es) e =
      self.requestOf start (es ++ [e]) := by
  obtain ⟨sentMs, sendThrew⟩ := start
  unfold requestOf
  rw [handled_concat]
  cases e with
  | none =>
    have hnone : handled [none] = [] := rfl
    rw [hnone, List.append_nil]
    rfl
  | some event => cases handled es <;> cases sendThrew <;> cases event <;> rfl

theorem foldl_advance (start : ℤ × Option String) (es : List (Option Event)) :
    es.foldl (Requests.advance self.onEvent id) (self.startRequest start) =
      self.requestOf start es := by
  induction es using List.reverseRecOn with
  | nil =>
    obtain ⟨sentMs, sendThrew⟩ := start
    cases sendThrew <;> rfl
  | append_singleton es e ih =>
    rw [List.foldl_append, ih]
    exact self.advance_requestOf start es e

/-- An event that closes the socket without looking whether it is open: all but the timeout, which
comes only while the timer has not been cleared. -/
def Event.Closes : Event → Prop
  | .timeout => False
  | .sendThrew _ => False
  | _ => True

/-- **Requests of an NTP source**, any number of them at once, with events in any order. The first
event of a request settles its promise, as `getTime` says. Every later one throws out of its
handler, as the socket is closed already: an event throws exactly if it closes the socket and comes
after another one, or after `send` has thrown. -/
theorem ntp_throws_iff (pre post : List SourceInput) (start : ℤ × Option String) (event : Event) :
    (∃ r, (self.requestsAfter (pre ++ .start start :: post))[Requests.starts pre]? = some r ∧
      r.promise = (start.2.map Event.sendThrew <|>
        (handled (Requests.own (Requests.starts pre) post)).head?).map (self.getTime start.1)) ∧
    ((self.requestStep (self.requestsAfter (pre ++ .start start :: post))
        (.event (Requests.starts pre) event)).1 = some (some (.error "Not running")) ↔
      event.Closes ∧
        (start.2.isSome ∨ handled (Requests.own (Requests.starts pre) post) ≠ [])) := by
  obtain ⟨sentMs, sendThrew⟩ := start
  constructor
  · refine ⟨_, Requests.getElem?_after_start _ _ _ pre post (sentMs, sendThrew), ?_⟩
    rw [foldl_advance]
    unfold requestOf
    cases handled (Requests.own (Requests.starts pre) post) <;> cases sendThrew <;> rfl
  · have hout := Requests.event_output self.startRequest self.onEvent id pre post
      (sentMs, sendThrew) event
    rw [requestStep, requestsAfter, requestStep, hout, foldl_advance, Option.some.injEq]
    unfold requestOf
    cases handled (Requests.own (Requests.starts pre) post) <;> cases sendThrew <;>
      cases event <;> simp [startRequest, onEvent, closeAndSettle, Event.Closes]

end NTPSource

/-! ## HTTPS -/

namespace HTTPSTimeSource

variable (parseDate : ParseDate) (self : HTTPSTimeSource)

/-- A request: the time at which it was sent, whether there is one, the timer, whether it is in
`activeRequests`, and the promise. -/
structure Request where
  sentMs : ℤ
  sent : Bool
  timer : Bool
  active : Bool
  promise : Option (Except Thrown TimeReading)

/-- The start of `getTime`, at a time in milliseconds, and what `https.request` throws for a URL
that it refuses. This rejects the promise, and the timer goes on. -/
def startRequest (start : ℤ × Option Thrown) : Request :=
  match start.2 with
  | none => ⟨start.1, true, true, true, none⟩
  | some e => ⟨start.1, false, true, false, some (.error e)⟩

/-- The handlers of the events of a request, with what escapes from them. A timer that was cleared
does not fire, and without a request there are no others. What the conversion of a date throws
leaves the promise alone. -/
def onEvent (r : Request) (event : HttpsEvent) : Option Thrown × Request :=
  match event with
  | .timeout =>
    if !r.timer then (none, r)
    else (none, { r with timer := false,
                         promise := settle r.promise (self.getTime parseDate r.sentMs event) })
  | .error _ =>
    if !r.sent then (none, r)
    else (none, { r with timer := false, active := false,
                         promise := settle r.promise (self.getTime parseDate r.sentMs event) })
  | .response _ dateHeader =>
    if !r.sent then (none, r)
    else if dateHeader.getD "" ≠ "" ∧ parseDate (dateHeader.getD "") = none then
      (some .rangeError, { r with timer := false })
    else
      (none, { r with timer := false, active := false,
                      promise := settle r.promise (self.getTime parseDate r.sentMs event) })

/-- `close`, for one of the requests. -/
def closeRequest (r : Request) : Request := { r with active := false }

abbrev SourceInput := Requests.Input (ℤ × Option Thrown) HttpsEvent

/-- The requests of a source after a run. -/
def requestsAfter (cs : List SourceInput) : List Request :=
  Mealy.after (Requests.step startRequest (self.onEvent parseDate) closeRequest) [] cs

/-- Whether an event is an answer: an error, or a response unless its date cannot be parsed. -/
def answers : HttpsEvent → Bool
  | .timeout => false
  | .error _ => true
  | .response _ dateHeader =>
    !decide (dateHeader.getD "" ≠ "" ∧ parseDate (dateHeader.getD "") = none)

/-- The event that settles the promise: the timeout if it comes first of all, and otherwise the
first answer. -/
def settledBy : List HttpsEvent → Option HttpsEvent
  | .timeout :: _ => some .timeout
  | events => events.find? (answers parseDate)

/-- Where a request is after its events, if there is one. -/
def requestOf (sentMs : ℤ) (es : List (Option HttpsEvent)) : Request where
  sentMs := sentMs
  sent := true
  timer := es.reduceOption.isEmpty
  active := !es.any Option.isNone && !es.reduceOption.any (answers parseDate)
  promise := (settledBy parseDate es.reduceOption).map (self.getTime parseDate sentMs)

/-- Whether it is the timer that fires. -/
def firesTimer : Option HttpsEvent → Bool
  | some .timeout => true
  | _ => false

/-- Where it is if the URL was refused. -/
def refusedRequest (sentMs : ℤ) (e : Thrown) (es : List (Option HttpsEvent)) : Request where
  sentMs := sentMs
  sent := false
  timer := !es.any firesTimer
  active := false
  promise := some (.error e)

theorem find?_concat {α : Type} (p : α → Bool) (l : List α) (a : α) :
    (l ++ [a]).find? p = (l.find? p <|> if p a then some a else none) := by
  rw [List.find?_append]
  cases h : p a <;> simp [h]

theorem settledBy_concat {events : List HttpsEvent} (hne : events ≠ []) (event : HttpsEvent) :
    settledBy parseDate (events ++ [event]) =
      (settledBy parseDate events <|> if answers parseDate event then some event else none) := by
  cases events with
  | nil => exact absurd rfl hne
  | cons first rest =>
    cases first with
    | timeout => rfl
    | response nowMs dateHeader => exact find?_concat (answers parseDate) (_ :: rest) event
    | error message => rfl

/-- The first event settles the promise if it is the timeout or an answer. -/
theorem settledBy_singleton (event : HttpsEvent) : settledBy parseDate [event] =
    match event with
    | .timeout => some .timeout
    | event => if answers parseDate event then some event else none := by
  cases event with
  | timeout => rfl
  | response nowMs dateHeader =>
    cases h : answers parseDate (.response nowMs dateHeader) <;> simp [settledBy, h]
  | error message => rfl

/-- What an event does to a request whose promise is settled by some event, if by any. -/
theorem advance_requestOf (sentMs : ℤ) (es : List (Option HttpsEvent)) (e : Option HttpsEvent) :
    Requests.advance (self.onEvent parseDate) closeRequest (self.requestOf parseDate sentMs es) e =
      self.requestOf parseDate sentMs (es ++ [e]) := by
  have hany : (es ++ [e]).any Option.isNone = (es.any Option.isNone || e.isNone) := by simp
  have hevents : (es ++ [e]).reduceOption = es.reduceOption ++ e.toList := by
    rw [List.reduceOption_append]
    cases e <;> rfl
  unfold requestOf
  rw [hany, hevents]
  cases e with
  | none => simp [Requests.advance, closeRequest]
  | some event =>
    by_cases hnil : es.reduceOption = []
    · rw [hnil, List.nil_append, Option.toList_some, settledBy_singleton]
      cases event with
      | timeout => simp [Requests.advance, onEvent, settle, settledBy, answers]
      | error message => simp [Requests.advance, onEvent, settle, settledBy, answers]
      | response nowMs dateHeader =>
        by_cases hdate : dateHeader.getD "" ≠ "" ∧ parseDate (dateHeader.getD "") = none
        · simp [Requests.advance, onEvent, settledBy, answers, hdate]
        · simp [Requests.advance, onEvent, settle, settledBy, answers, hdate]
    · rw [Option.toList_some, settledBy_concat parseDate hnil]
      have hempty : es.reduceOption.isEmpty = false := by simpa using hnil
      rw [hempty]
      cases event with
      | timeout => simp [Requests.advance, onEvent, answers]
      | error message =>
        cases settledBy parseDate es.reduceOption <;>
          simp [Requests.advance, onEvent, settle, answers]
      | response nowMs dateHeader =>
        by_cases hdate : dateHeader.getD "" ≠ "" ∧ parseDate (dateHeader.getD "") = none
        · simp [Requests.advance, onEvent, answers, hdate]
        · cases settledBy parseDate es.reduceOption <;>
            simp [Requests.advance, onEvent, settle, answers, hdate]

theorem advance_refusedRequest (sentMs : ℤ) (e : Thrown) (es : List (Option HttpsEvent))
    (event : Option HttpsEvent) :
    Requests.advance (self.onEvent parseDate) closeRequest (refusedRequest sentMs e es) event =
      refusedRequest sentMs e (es ++ [event]) := by
  have hany : (es ++ [event]).any firesTimer = (es.any firesTimer || firesTimer event) := by simp
  unfold refusedRequest
  rw [hany]
  cases event with
  | none => simp [Requests.advance, closeRequest, firesTimer]
  | some event =>
    cases event <;> cases es.any firesTimer <;>
      simp [Requests.advance, onEvent, settle, firesTimer]

theorem foldl_advance (start : ℤ × Option Thrown) (es : List (Option HttpsEvent)) :
    es.foldl (Requests.advance (self.onEvent parseDate) closeRequest) (startRequest start) =
      match start.2 with
      | none => self.requestOf parseDate start.1 es
      | some e => refusedRequest start.1 e es := by
  obtain ⟨sentMs, requestThrew⟩ := start
  induction es using List.reverseRecOn with
  | nil => cases requestThrew <;> rfl
  | append_singleton es event ih =>
    rw [List.foldl_append, ih]
    cases requestThrew with
    | none => exact self.advance_requestOf parseDate sentMs es event
    | some e => exact self.advance_refusedRequest parseDate sentMs e es event

/-- **Requests of an HTTPS source**, any number of them at once, with events in any order. A request
is in `activeRequests` until it is answered or there is a `close`, also when it has timed out; it
never is if its URL is refused, which rejects the promise at once. Otherwise the promise is settled
by the timeout only if that comes before all else, and by the first answer if not: so it stays
pending for ever after a response whose date cannot be parsed, unless there is an answer later. -/
theorem https_activeRequests_iff (pre post : List SourceInput) (sentMs : ℤ)
    (requestThrew : Option Thrown) :
    ∃ r, (self.requestsAfter parseDate
          (pre ++ .start (sentMs, requestThrew) :: post))[Requests.starts pre]? = some r ∧
      (r.active = true ↔ requestThrew = none ∧ none ∉ Requests.own (Requests.starts pre) post ∧
        ∀ event, some event ∈ Requests.own (Requests.starts pre) post →
          answers parseDate event = false) ∧
      r.promise = (requestThrew.map .error <|> (settledBy parseDate
        (Requests.own (Requests.starts pre) post).reduceOption).map
          (self.getTime parseDate sentMs)) := by
  refine ⟨_, Requests.getElem?_after_start _ _ _ pre post (sentMs, requestThrew), ?_⟩
  rw [foldl_advance]
  have hstopped : (Requests.own (Requests.starts pre) post).any Option.isNone = true ↔
      none ∈ Requests.own (Requests.starts pre) post := by simp
  have hanswered : (Requests.own (Requests.starts pre) post).reduceOption.any
      (answers parseDate) = false ↔ ∀ event,
        some event ∈ Requests.own (Requests.starts pre) post → answers parseDate event = false := by
    simp [List.any_eq_false, List.reduceOption_mem_iff]
  cases requestThrew with
  | none =>
    refine ⟨?_, rfl⟩
    simp only [requestOf, Bool.and_eq_true, Bool.not_eq_true', ← Bool.not_eq_true, hstopped]
    simp only [Bool.not_eq_true, hanswered, true_and]
  | some e =>
    refine ⟨?_, rfl⟩
    simp only [refusedRequest, Bool.false_eq_true, reduceCtorEq, false_and]

end HTTPSTimeSource

end OpenTTT
