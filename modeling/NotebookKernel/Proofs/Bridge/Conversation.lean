import NotebookKernel.Proofs.Bridge.RoundTrip

/-!
Every use of one lasting process, from its start on: round trips that end in any
way or are abandoned, cancellations and terminations in any order, and any output
of the process in pieces of any size. `round_trips_in_step` says that requests and
response lines never get out of step.
-/

namespace NotebookKernel

open Text (Bytes)

/-- A host with all that was sent to its processes, in order. -/
structure Journal (η : Type) where
  host : η
  sent : List Bytes := []

instance {η : Type} [Host η] : Host (Journal η) where
  start j invocation := (Host.start j.host invocation).map fun host => { j with host }
  send j bytes := ⟨Host.send j.host bytes, j.sent ++ [bytes]⟩
  stop j := { j with host := Host.stop j.host }

/-- A round trip that was asked for. Its number counts the requests begun before. -/
structure RoundTrip where
  number : Nat
  request : Request
  deriving DecidableEq, Repr

/-- A bridge in use. What the process has yet to print is `unheard`; one round trip
at a time may be `waiting`, and all that had an answer are `ended`. -/
structure Conversation (η : Type) where
  bridge : JsonLine (Journal η)
  unheard : Bytes
  waiting : Option RoundTrip := none
  ended : List (RoundTrip × Answer) := []
  terminated : Bool := false

namespace Conversation

variable {η : Type}

/-- The request lines that were begun, in order. -/
def begun (s : Conversation η) : List Bytes := s.bridge.host.sent

/-- The round trips that ended with a whole line, in order. -/
def completed (s : Conversation η) : List (RoundTrip × Answer) :=
  s.ended.filter fun e => Answer.completes e.2

/-- A round trip has come to this. -/
def proceed (s : Conversation η) (trip : RoundTrip) :
    JsonLine (Journal η) × Progress Answer → Conversation η
  | (bridge, .waiting) => { s with bridge, waiting := some trip }
  | (bridge, .done answer) =>
    { s with bridge, waiting := none, ended := s.ended ++ [(trip, answer)] }

/-- What may be heard while this is still to be printed, and what is left of it. The
output is at its end only when all of it was heard. -/
inductive Hears : Bytes → Wake → Bytes → Prop
  | accepted (unheard : Bytes) : Hears unheard .accepted unheard
  | arrived (bytes rest : Bytes) : Hears (bytes ++ rest) (.arrived bytes) rest
  | ended : Hears [] .ended []
  | failed (unheard : Bytes) (e : IoError) : Hears unheard (.failed e) unheard
  | deadline (unheard : Bytes) : Hears unheard .deadline unheard

/-- A round trip is asked for directly or by a call. While it waits it hears things
or is abandoned, and nothing else happens to the bridge. -/
inductive Step [Host η] : Conversation η → Conversation η → Prop
  | roundTrip (s : Conversation η) (request : Request) (free : s.waiting = none) :
      Step s (s.proceed ⟨s.begun.length, request⟩ (JsonLine.answer (s.bridge.request request)))
  | call (s : Conversation η) (c : Call) (free : s.waiting = none) :
      Step s (s.proceed ⟨s.begun.length, JsonLine.requestOf c⟩ (Transport.begin s.bridge c))
  | hear (s : Conversation η) (trip : RoundTrip) (wake : Wake) (rest : Bytes)
      (waits : s.waiting = some trip) (heard : Hears s.unheard wake rest) :
      Step s ({ s with unheard := rest }.proceed trip (Transport.resume s.bridge wake))
  | abandon (s : Conversation η) (trip : RoundTrip) (waits : s.waiting = some trip) :
      Step s { s with bridge := Transport.abandon s.bridge, waiting := none }
  | cancel (s : Conversation η) (free : s.waiting = none) :
      Step s { s with bridge := (Transport.cancel s.bridge).1 }
  | terminate (s : Conversation η) (free : s.waiting = none) :
      Step s { s with bridge := (Transport.terminate s.bridge).1, terminated := true }

/-- Conversations with a process that was just started and prints `out`, to its end or
as far as it is ever heard. -/
inductive Reachable [Host η] (out : Bytes) : Conversation η → Prop
  | start (host : η) (command : Command) (timeout : Option Duration)
      (bridge : JsonLine (Journal η))
      (started : JsonLine.start ⟨host, []⟩ command timeout = .ok bridge) :
      Reachable out { bridge, unheard := out }
  | step {s t : Conversation η} : Reachable out s → Step s t → Reachable out t

/-- A completed round trip is the one of its own request line and its own line of the
output. -/
def Matches (out : Bytes) (begun : List Bytes) (n : Nat) (e : RoundTrip × Answer) : Prop :=
  e.1.number = n ∧ begun[n]? = some (Text.Utf8.encode e.1.request.toLine.toList) ∧
    ∃ line cs, (Pipes.lines out)[n]? = some line ∧ Text.Utf8.decode line = .ok cs ∧
      e.2 = JsonLine.reading cs

structure InStep (out : Bytes) (s : Conversation η) : Prop where
  counted : s.begun.length = s.bridge.roundTrips + if s.bridge.inFlight then 1 else 0
  complete : s.completed.length = s.bridge.roundTrips
  matched : ∀ n e, s.completed[n]? = some e → Matches out s.begun n e
  /-- The waiting round trip is the one that was begun last. -/
  pending : ∀ trip, s.waiting = some trip →
    s.bridge.inFlight = true ∧ s.bridge.leg.isSome ∧ trip.number = s.bridge.roundTrips ∧
      s.begun[trip.number]? = some (Text.Utf8.encode trip.request.toLine.toList)
  /-- Unless a round trip ended early, each line taken was the response to one. -/
  unread : s.bridge.inFlight = false ∨ s.waiting.isSome → ∀ pipes, s.bridge.pipes = some pipes →
    (Pipes.lines out).drop s.bridge.roundTrips = Pipes.lines (pipes.unread ++ s.unheard) ∧
      (pipes.ended = true → s.unheard = [])
  connected : s.waiting.isSome → s.bridge.pipes.isSome
  closed : s.terminated = true → s.bridge.pipes = none

theorem Matches.begin_more {out : Bytes} {begun : List Bytes} {n : Nat} {e : RoundTrip × Answer}
    (h : Matches out begun n e) (line : Bytes) : Matches out (begun ++ [line]) n e := by
  obtain ⟨number, sent, received⟩ := h
  have bound := (List.getElem?_eq_some_iff.mp sent).1
  exact ⟨number, by rw [List.getElem?_append_left bound]; exact sent, received⟩

/-- What was heard and what is left make up what was left before. -/
theorem Hears.unread_append {unheard rest : Bytes} {wake : Wake} (h : Hears unheard wake rest)
    (pipes : Pipes) : (pipes.hear wake).unread ++ rest = pipes.unread ++ unheard := by
  cases h <;> simp [Pipes.hear]

theorem Hears.last {unheard rest : Bytes} {wake : Wake} (h : Hears unheard wake rest)
    {pipes : Pipes} (last : pipes.ended = true → unheard = []) :
    (pipes.hear wake).ended = true → rest = [] := by
  intro ended
  cases h with
  | arrived bytes => exact (List.append_eq_nil_iff.mp (last ended)).2
  | ended => rfl
  | accepted | failed | deadline => exact last ended

theorem completed_proceed (s : Conversation η) (rest : Bytes) (trip : RoundTrip)
    (bridge : JsonLine (Journal η)) (answer : Answer) :
    ({ s with unheard := rest }.proceed trip (bridge, .done answer)).completed =
      s.completed ++ if Answer.completes answer then [(trip, answer)] else [] := by
  cases whole : Answer.completes answer <;> simp [proceed, completed, whole]

/-- A round trip that ends before its line leaves its request in flight. -/
theorem early_in_step {out : Bytes} {s : Conversation η} (h : InStep out s) {trip : RoundTrip}
    (waits : s.waiting = some trip) (pipes : Pipes) (rest : Bytes) {failure : TransportError}
    (early : Answer.completes (.error failure) = false) :
    InStep out
      ({ s with unheard := rest }.proceed trip
        ({ s.bridge with pipes := some pipes, leg := none }, .done (.error failure))) := by
  have flight := (h.pending trip waits).1
  have opened := h.connected (by simp [waits])
  have same := completed_proceed s rest trip
    { s.bridge with pipes := some pipes, leg := none } (.error failure)
  simp only [early, Bool.false_eq_true, ↓reduceIte, List.append_nil] at same
  exact {
    counted := h.counted
    complete := (congrArg List.length same).trans h.complete
    matched := fun n e at_ => h.matched n e (same ▸ at_)
    pending := nofun
    unread := by
      rintro (idle | waits)
      · exact absurd (flight.symm.trans idle) nofun
      · exact absurd waits nofun
    connected := nofun
    closed := fun gone => by simp [h.closed gone] at opened }

/-- The line that comes next in the output is the response to the request that was
begun last. -/
theorem answered_in_step {out : Bytes} {s : Conversation η} (h : InStep out s) {trip : RoundTrip}
    (waits : s.waiting = some trip) {pipes : Pipes} {line rest : Bytes} {cs : List Char}
    (left : (Pipes.lines out).drop s.bridge.roundTrips =
      line :: Pipes.lines (pipes.unread ++ rest))
    (last : pipes.ended = true → rest = []) (text : Text.Utf8.decode line = .ok cs) :
    InStep out
      ({ s with unheard := rest }.proceed trip
        ({ s.bridge with
            pipes := some pipes
            leg := none
            inFlight := false
            roundTrips := s.bridge.roundTrips + 1 },
          .done (JsonLine.reading cs))) := by
  obtain ⟨flight, _, number, sent⟩ := h.pending trip waits
  have opened := h.connected (by simp [waits])
  have own : (Pipes.lines out)[s.bridge.roundTrips]? = some line := by
    have first := congrArg (·[0]?) left
    simpa using first
  have more := completed_proceed s rest trip
    { s.bridge with
      pipes := some pipes
      leg := none
      inFlight := false
      roundTrips := s.bridge.roundTrips + 1 } (JsonLine.reading cs)
  simp only [JsonLine.reading_completes, ↓reduceIte] at more
  have before := h.complete
  exact {
    counted := by simpa [flight, proceed, begun] using h.counted
    complete := by
      rw [more, List.length_append]
      exact congrArg (· + 1) before
    matched := by
      intro n e at_
      rw [more] at at_
      by_cases earlier : n < s.completed.length
      · rw [List.getElem?_append_left earlier] at at_
        exact h.matched n e at_
      · rw [List.getElem?_append_right (by omega)] at at_
        have only := (List.getElem?_eq_some_iff.mp at_).1
        have now : n = s.bridge.roundTrips := by
          rw [List.length_singleton] at only
          omega
        subst now
        rw [before, Nat.sub_self] at at_
        cases at_
        exact ⟨number, number ▸ sent, line, cs, own, text, rfl⟩
    pending := nofun
    unread := by
      rintro _ _ ⟨⟩
      refine ⟨?_, last⟩
      have tail := congrArg (List.drop 1) left
      rw [List.drop_drop] at tail
      exact tail
    connected := nofun
    closed := fun gone => by simp [h.closed gone] at opened }

theorem hear_in_step {out : Bytes} {s : Conversation η} (h : InStep out s) {trip : RoundTrip}
    (waits : s.waiting = some trip) {wake : Wake} {rest : Bytes}
    (heard : Hears s.unheard wake rest) :
    InStep out
      ({ s with unheard := rest }.proceed trip (JsonLine.answer (s.bridge.hear wake))) := by
  obtain ⟨flight, onLeg, number, sent⟩ := h.pending trip waits
  obtain ⟨leg, leg_eq⟩ := Option.isSome_iff_exists.mp onLeg
  obtain ⟨pipes, pipes_eq⟩ := Option.isSome_iff_exists.mp (h.connected (by simp [waits]))
  obtain ⟨left, last⟩ := h.unread (.inr (by simp [waits])) pipes pipes_eq
  rw [← heard.unread_append pipes] at left
  generalize result : s.bridge.hear wake = came
  have outcome : JsonLine.Heard s.bridge (pipes.hear wake) came :=
    result ▸ JsonLine.hear_heard leg_eq pipes_eq wake
  cases outcome with
  | waits leg =>
    exact {
      counted := h.counted
      complete := h.complete
      matched := h.matched
      pending := by
        rintro _ ⟨⟩
        exact ⟨flight, rfl, number, sent⟩
      unread := by
        rintro _ _ ⟨⟩
        exact ⟨left, heard.last last⟩
      connected := fun _ => rfl
      closed := fun gone => by simp [h.closed gone] at pipes_eq }
  | fails pipes' failure early _ => exact early_in_step h waits pipes' rest early
  | answered line pipes' cs next text =>
    obtain ⟨taken, ended⟩ := Pipes.lines_of_next next (heard.last last)
    rw [JsonLine.answer_understand]
    exact answered_in_step h waits (left.trans taken) (ended ▸ heard.last last) text

theorem abandon_in_step {out : Bytes} {s : Conversation η} (h : InStep out s) {trip : RoundTrip}
    (waits : s.waiting = some trip) :
    InStep out { s with bridge := s.bridge.drop, waiting := none } := by
  have flight := (h.pending trip waits).1
  exact {
    counted := h.counted
    complete := h.complete
    matched := h.matched
    pending := nofun
    unread := by
      rintro (idle | waits)
      · exact absurd (flight.symm.trans idle) nofun
      · exact absurd waits nofun
    connected := nofun
    closed := h.closed }

theorem begun_proceed (s : Conversation η) (trip : RoundTrip)
    (came : JsonLine (Journal η) × Progress Answer) : (s.proceed trip came).begun = came.1.host.sent := by
  obtain ⟨bridge, progress⟩ := came
  cases progress <;> rfl

theorem hear_sent (b : JsonLine (Journal η)) (wake : Wake) :
    (b.hear wake).1.host.sent = b.host.sent :=
  congrArg Journal.sent (b.hear_keeps wake).1

variable [Host η]

theorem start_in_step {host : η} {command : Command} {timeout : Option Duration}
    {bridge : JsonLine (Journal η)}
    (started : JsonLine.start ⟨host, []⟩ command timeout = .ok bridge) (out : Bytes) :
    InStep out { bridge, unheard := out } := by
  unfold JsonLine.start at started
  cases launched : Host.start host ⟨command.program, command.args, none, true⟩ with
  | error e => simp [Host.start, Except.map, launched] at started
  | ok host =>
    simp only [Host.start, Except.map, launched, Except.ok.injEq] at started
    subst started
    exact {
      counted := rfl
      complete := rfl
      matched := by simp [completed]
      pending := nofun
      unread := by simp
      connected := nofun
      closed := nofun }

/-- A round trip is begun only if none is in flight and the pipes are open. -/
theorem ask_in_step {out : Bytes} {s : Conversation η} (h : InStep out s) (request : Request) :
    InStep out
      (s.proceed ⟨s.begun.length, request⟩ (JsonLine.answer (s.bridge.request request))) := by
  have refused (failure : TransportError) (early : Answer.completes (.error failure) = false) :
      InStep out (s.proceed ⟨s.begun.length, request⟩ (s.bridge, .done (.error failure))) := by
    have same := completed_proceed s s.unheard ⟨s.begun.length, request⟩ s.bridge (.error failure)
    simp only [early, Bool.false_eq_true, ↓reduceIte, List.append_nil] at same
    exact {
      counted := h.counted
      complete := by rw [same]; exact h.complete
      matched := by rw [same]; exact h.matched
      pending := nofun
      unread := fun idle => h.unread (idle.imp_right nofun)
      connected := nofun
      closed := h.closed }
  by_cases flight : s.bridge.inFlight = true
  · rw [JsonLine.request_in_flight request flight]
    exact refused _ rfl
  · have idle : s.bridge.inFlight = false := by simpa using flight
    cases pipes : s.bridge.pipes with
    | none =>
      rw [JsonLine.request_terminated request idle pipes]
      exact refused _ rfl
    | some p =>
      have all : s.begun.length = s.bridge.roundTrips := by simpa [idle] using h.counted
      rw [JsonLine.request_begins request idle pipes]
      exact {
        counted := by simpa [proceed, JsonLine.answer, begun, Host.send] using all
        complete := h.complete
        matched := fun n e at_ => (h.matched n e at_).begin_more _
        pending := by
          rintro trip ⟨⟩
          refine ⟨rfl, rfl, all, ?_⟩
          simp [proceed, JsonLine.answer, begun, Host.send]
        unread := fun _ => h.unread (.inl idle)
        connected := fun _ => by simp [proceed, JsonLine.answer, pipes]
        closed := h.closed }

theorem terminate_sent (b : JsonLine (Journal η)) : b.terminate.1.host.sent = b.host.sent := by
  unfold JsonLine.terminate
  split <;> rfl

theorem terminate_in_step {out : Bytes} {s : Conversation η} (h : InStep out s)
    (free : s.waiting = none) (terminated : Bool) :
    InStep out { s with bridge := s.bridge.terminate.1, terminated } where
  counted := by simpa [begun, terminate_sent] using h.counted
  complete := h.complete.trans s.bridge.terminate_roundTrips.symm
  matched := by
    intro n e at_
    have before := h.matched n e at_
    simp only [begun] at before ⊢
    rw [terminate_sent]
    exact before
  pending := by simp [free]
  unread := by simp
  connected := by simp [free]
  closed := fun _ => s.bridge.terminate_pipes

theorem step_in_step {out : Bytes} {s t : Conversation η} (step : Step s t) (h : InStep out s) :
    InStep out t := by
  cases step with
  | roundTrip request free => exact ask_in_step h request
  | call c free => exact ask_in_step h (JsonLine.requestOf c)
  | hear trip wake rest waits heard => exact hear_in_step h waits heard
  | abandon trip waits => exact abandon_in_step h waits
  | cancel free =>
    simp only [Transport.cancel, JsonLine.cancel]
    split
    · exact terminate_in_step h free s.terminated
    · exact h
  | terminate free => exact terminate_in_step h free true

theorem reachable_in_step {out : Bytes} {s : Conversation η} (h : Reachable out s) :
    InStep out s := by
  induction h with
  | start _ _ _ _ started => exact start_in_step started out
  | step _ step ih => exact step_in_step step ih

/-- With a request in flight or closed pipes nothing is written. -/
theorem step_begun {s t : Conversation η} (step : Step s t)
    (shut : s.bridge.inFlight = true ∨ s.bridge.pipes = none) : t.begun = s.begun := by
  have refused (request : Request) : (s.bridge.request request).1 = s.bridge := by
    cases flight : s.bridge.inFlight with
    | true => rw [JsonLine.request_in_flight request flight]
    | false =>
      have closed := shut.resolve_left (by simp [flight])
      rw [JsonLine.request_terminated request flight closed]
  cases step with
  | roundTrip request free => rw [begun_proceed, JsonLine.answer_fst, refused]; rfl
  | call c free =>
    simp only [Transport.begin]
    rw [begun_proceed, JsonLine.answer_fst, refused]; rfl
  | hear trip wake rest waits heard =>
    simp only [Transport.resume]
    rw [begun_proceed, JsonLine.answer_fst, hear_sent]; rfl
  | abandon trip waits => rfl
  | cancel free =>
    simp only [Transport.cancel, JsonLine.cancel]
    split
    · exact terminate_sent s.bridge
    · rfl
  | terminate free => exact terminate_sent s.bridge

/-- Requests and responses never get out of step, however round trips end. One request
at most is without its response; none is begun after it or after a termination; and
each completed round trip got the line of the output that has its own number. -/
theorem round_trips_in_step {out : Bytes} {s : Conversation η} (h : Reachable out s) :
    s.begun.length = s.bridge.roundTrips + (if s.bridge.inFlight then 1 else 0) ∧
    (∀ t, Step s t → s.bridge.inFlight = true ∨ s.terminated = true → t.begun = s.begun) ∧
    s.completed.length = s.bridge.roundTrips ∧
    ∀ n e, s.completed[n]? = some e → Matches out s.begun n e := by
  have inStep := reachable_in_step h
  refine ⟨inStep.counted, ?_, inStep.complete, inStep.matched⟩
  intro t step shut
  exact step_begun step (shut.imp_right inStep.closed)

/-- A round trip that is answered with `{}`, then one that is abandoned. -/
theorem round_trips_in_step_abandoned :
    let out : Bytes := [123, 125, 10]
    let first : RoundTrip × Answer := (⟨0, ⟨"1"⟩⟩, JsonLine.reading ['{', '}', '\n'])
    ∃ s : Conversation Unit, Reachable out s ∧ s.ended = [first] ∧
      s.begun.length = s.bridge.roundTrips + 1 ∧ s.completed.length = s.bridge.roundTrips ∧
      Matches out s.begun 0 first ∧ ∀ t, Step s t → t.begun = s.begun := by
  intro out first
  let line (request : Request) : Bytes := Text.Utf8.encode request.toLine.toList
  have s0 : Reachable out { bridge := { host := ⟨(), []⟩, timeout := none }, unheard := out } :=
    .start () ⟨"re", []⟩ none _ rfl
  have s1 : Reachable out
      { bridge :=
          { host := ⟨(), [line ⟨"1"⟩]⟩, timeout := none, inFlight := true, leg := some .writing }
        unheard := out
        waiting := some first.1 } :=
    s0.step (.roundTrip _ ⟨"1"⟩ rfl)
  let heard : JsonLine (Journal Unit) :=
    { host := ⟨(), [line ⟨"1"⟩]⟩, timeout := none, inFlight := true, leg := some .writing
      pipes := some ⟨out, false⟩ }
  have s2 : Reachable out { bridge := heard, unheard := [], waiting := some first.1 } :=
    s1.step (.hear _ _ (.arrived out) [] rfl (.arrived out []))
  have s3 := s2.step (.hear _ first.1 .accepted [] rfl (.accepted []))
  have answered : Transport.resume heard .accepted =
      ({ host := ⟨(), [line ⟨"1"⟩]⟩, timeout := none, roundTrips := 1 }, .done first.2) :=
    JsonLine.answer_understand _ _
  rw [answered] at s3
  have s4 : Reachable out
      { bridge :=
          { host := ⟨(), [line ⟨"1"⟩, line ⟨":add rand"⟩]⟩, timeout := none, inFlight := true
            leg := some .writing, roundTrips := 1 }
        unheard := []
        waiting := some ⟨1, ⟨":add rand"⟩⟩
        ended := [first] } :=
    s3.step (.call _ (.forward ":add rand") rfl)
  have s5 := s4.step (.abandon _ _ rfl)
  obtain ⟨counted, refused, complete, matched⟩ := round_trips_in_step s5
  refine ⟨_, s5, rfl, counted, complete, ?_, fun t step => refused t step (.inl rfl)⟩
  exact matched 0 first (by simp [completed, first, JsonLine.reading_completes])

end Conversation

end NotebookKernel
