import Mathlib.Logic.Relation
import NotebookKernel.Proofs.Bridge.Conversation

/-!
The end of a conversation. Once its process is terminated, nothing is written any more and every
round trip is refused. Why it is refused was settled before: a request whose response was never
read stays in flight, and as long as it does its refusal comes first.
-/

namespace NotebookKernel.Conversation

open Text (Bytes)

variable {η : Type}

/-- How requests are refused once the pipes are closed. -/
def refusal (b : JsonLine η) : TransportError :=
  if b.inFlight then .desynchronized else .terminated

/-- What stays as it was when a conversation ended, and the round trips asked for since: each of
them was refused at once. -/
structure Over (s t : Conversation η) : Prop where
  free : t.waiting = none
  closed : t.bridge.pipes = none
  flight : t.bridge.inFlight = s.bridge.inFlight
  begun : t.begun = s.begun
  refused : ∃ trips : List RoundTrip,
    t.ended = s.ended ++ trips.map fun trip => (trip, .error (refusal s.bridge))

namespace Over

variable {s t : Conversation η}

theorem refusal_eq (h : Over s t) : refusal t.bridge = refusal s.bridge := by
  rw [refusal, refusal, h.flight]

/-- A round trip that is asked for is refused. -/
theorem ask (h : Over s t) (trip : RoundTrip) :
    Over s (t.proceed trip (t.bridge, .done (.error (refusal s.bridge)))) := by
  obtain ⟨trips, ended⟩ := h.refused
  constructor
  · rfl
  · exact h.closed
  · exact h.flight
  · exact h.begun
  · refine ⟨trips ++ [trip], ?_⟩
    simp [proceed, ended]

end Over

variable [Host η]

theorem request_refused {b : JsonLine η} (closed : b.pipes = none) (request : Request) :
    b.request request = (b, .done (.error (refusal b))) := by
  by_cases flight : b.inFlight = true
  · rw [JsonLine.request_in_flight request flight, refusal, if_pos flight]
  · have idle : b.inFlight = false := by simpa using flight
    rw [JsonLine.request_terminated request idle closed, refusal, if_neg flight]

/-- The two operations that terminate the process: a cancellation does if a request is in
flight. -/
inductive Terminates : Conversation η → Conversation η → Prop
  | terminate (s : Conversation η) (free : s.waiting = none) :
      Terminates s { s with bridge := (Transport.terminate s.bridge).1, terminated := true }
  | cancel (s : Conversation η) (free : s.waiting = none) (flight : s.bridge.inFlight = true) :
      Terminates s { s with bridge := (Transport.cancel s.bridge).1 }

theorem cancel_in_flight {b : JsonLine η} (flight : b.inFlight = true) :
    b.cancel = (b.terminate.1, .error .interrupted) := if_pos flight

theorem over_of_terminate {s : Conversation η} (free : s.waiting = none) (terminated : Bool) :
    Over s { s with bridge := s.bridge.terminate.1, terminated } where
  free := free
  closed := s.bridge.terminate_pipes
  flight := s.bridge.terminate_inFlight
  begun := terminate_sent s.bridge
  refused := ⟨[], by simp⟩

theorem Terminates.over {s t : Conversation η} (ends : Terminates s t) : Over s t := by
  cases ends with
  | terminate free => exact over_of_terminate free true
  | cancel free flight =>
    have same : (Transport.cancel s.bridge).1 = s.bridge.terminate.1 := by
      simp only [Transport.cancel, cancel_in_flight flight]
    rw [same]
    exact over_of_terminate free s.terminated

namespace Over

variable {s t u : Conversation η}

theorem request (h : Over s t) (request : Request) :
    t.bridge.request request = (t.bridge, .done (.error (refusal s.bridge))) := by
  rw [request_refused h.closed, h.refusal_eq]

theorem begin (h : Over s t) (c : Call) :
    Transport.begin t.bridge c = (t.bridge, .done (.error (refusal s.bridge))) := by
  have refused := h.request (JsonLine.requestOf c)
  simp only [Transport.begin, refused]
  rfl

theorem terminate (h : Over s t) (terminated : Bool) :
    Over s { t with bridge := t.bridge.terminate.1, terminated } where
  free := h.free
  closed := t.bridge.terminate_pipes
  flight := t.bridge.terminate_inFlight.trans h.flight
  begun := (terminate_sent t.bridge).trans h.begun
  refused := h.refused

theorem step (h : Over s t) (step : Step t u) : Over s u := by
  cases step with
  | roundTrip request free =>
    rw [h.request request]
    exact h.ask _
  | call c free =>
    rw [h.begin c]
    exact h.ask _
  | hear trip wake rest waits heard =>
    rw [h.free] at waits
    cases waits
  | abandon trip waits =>
    rw [h.free] at waits
    cases waits
  | cancel free =>
    by_cases flight : t.bridge.inFlight = true
    · have same : (Transport.cancel t.bridge).1 = t.bridge.terminate.1 := by
        simp only [Transport.cancel, cancel_in_flight flight]
      rw [same]
      exact h.terminate t.terminated
    · have same : (Transport.cancel t.bridge).1 = t.bridge := by
        simp [Transport.cancel, JsonLine.cancel, flight]
      rw [same]
      exact h
  | terminate free => exact h.terminate true

theorem later (h : Over s t) (later : Relation.ReflTransGen Step t u) : Over s u := by
  induction later with
  | refl => exact h
  | tail _ step ih => exact ih.step step

end Over

/-- After any conversation: once the process is terminated, whatever follows, nothing is written
and every round trip that is asked for fails at once. It fails because the process is terminated,
unless a request was begun before whose response line was never read: that one stays in flight
and is the reason. -/
theorem refused_for_good {out : Bytes} {s t u : Conversation η} (reachable : Reachable out s)
    (ends : Terminates s t) (later : Relation.ReflTransGen Step t u) :
    (s.bridge.inFlight = true ↔ s.completed.length < s.begun.length) ∧
    u.begun = s.begun ∧
    (∃ trips : List RoundTrip,
      u.ended = s.ended ++ trips.map fun trip => (trip, .error (refusal s.bridge))) ∧
    (∀ request, u.bridge.request request =
      (u.bridge, .done (.error (refusal s.bridge)))) ∧
    ∀ c, Transport.begin u.bridge c = (u.bridge, .done (.error (refusal s.bridge))) := by
  have ended := ends.over.later later
  have inStep := reachable_in_step reachable
  refine ⟨?_, ended.begun, ended.refused, ended.request, ended.begin⟩
  rw [inStep.counted, inStep.complete]
  by_cases flight : s.bridge.inFlight = true
  · simp [flight]
  · simp [flight]

/-- A request that was abandoned is in flight when the process is terminated; a directive and a
cancellation come after it. -/
theorem refused_for_good_abandoned :
    ∃ s t u : Conversation Unit, Reachable [] s ∧ Terminates s t ∧
      Relation.ReflTransGen Step t u ∧ s.bridge.inFlight = true ∧ u.begun.length = 1 ∧
      u.ended = [(⟨1, ⟨":add rand"⟩⟩, .error .desynchronized)] ∧
      u.bridge.request ⟨"2"⟩ = (u.bridge, .done (.error .desynchronized)) := by
  let line : Bytes := Text.Utf8.encode (Request.mk "1").toLine.toList
  let left : JsonLine (Journal Unit) :=
    { host := ⟨(), [line]⟩, timeout := none, inFlight := true }
  have s0 : Reachable [] { bridge := { host := ⟨(), []⟩, timeout := none }, unheard := [] } :=
    .start () ⟨"re", []⟩ none _ rfl
  have s1 : Reachable []
      { bridge := { left with leg := some .writing }, unheard := [], waiting := some ⟨0, ⟨"1"⟩⟩ } :=
    s0.step (.roundTrip _ ⟨"1"⟩ rfl)
  have s2 : Reachable [] { bridge := left, unheard := [] } := s1.step (.abandon _ _ rfl)
  have ends := Terminates.terminate ({ bridge := left, unheard := [] } : Conversation Unit) rfl
  have asks := Step.call _ (.forward ":add rand") ends.over.free
  have cancels := Step.cancel _ (ends.over.step asks).free
  have later := (Relation.ReflTransGen.single asks).tail cancels
  obtain ⟨-, -, -, refused, -⟩ := refused_for_good s2 ends later
  exact ⟨_, _, _, s2, ends, later, rfl, rfl, rfl, refused ⟨"2"⟩⟩

/-- The process closes its output instead of answering. Terminated after that, the conversation
still refuses a request for the one in flight, not for its end. -/
theorem terminated_in_flight :
    ∃ s : Conversation Unit, Reachable [] s ∧ s.terminated = true ∧
      s.ended = [(⟨0, ⟨"1"⟩⟩, .error .childExited)] ∧
      (s.bridge.request ⟨"2"⟩).2 = .done (.error .desynchronized) ∧
      (s.bridge.request ⟨"2"⟩).2 ≠ .done (.error .terminated) := by
  have s0 : Reachable [] { bridge := { host := ⟨(), []⟩, timeout := none }, unheard := [] } :=
    .start () ⟨"re", []⟩ none _ rfl
  have s1 := s0.step (.roundTrip _ ⟨"1"⟩ rfl)
  have s2 := s1.step (.hear _ ⟨0, ⟨"1"⟩⟩ .accepted [] rfl (.accepted []))
  have s3 := s2.step (.hear _ ⟨0, ⟨"1"⟩⟩ .ended [] rfl .ended)
  have s4 := s3.step (.terminate _ rfl)
  exact ⟨_, s4, rfl, rfl, rfl, nofun⟩

end NotebookKernel.Conversation
