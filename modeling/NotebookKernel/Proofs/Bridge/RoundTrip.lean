import NotebookKernel.Bridge.JsonLine

/-!
One round trip with the lasting process, operation by operation: when a request
is refused, and what can come of anything that a waiting round trip hears. A whole
line is the only way out that frees the conversation for the next request.
-/

namespace NotebookKernel

open Text (Bytes)

/-- The host that starts everything and does nothing. -/
instance : Host Unit where
  start _ _ := .ok ()
  send _ _ := ()
  stop _ := ()

namespace Pipes

/-- The lines of an output: each with the line feed at its end, which only the
last one may lack. -/
def lines : Bytes → List Bytes
  | [] => []
  | b :: rest =>
    if b = 10 then [b] :: lines rest
    else match lines rest with
      | [] => [[b]]
      | line :: others => (b :: line) :: others

theorem lines_of_cut {bytes line rest : Bytes} (more : Bytes) (h : cut bytes = some (line, rest)) :
    lines (bytes ++ more) = line :: lines (rest ++ more) := by
  induction bytes generalizing line with
  | nil => simp [cut] at h
  | cons b bytes ih =>
    by_cases feed : b = 10
    · simp only [cut, feed, ↓reduceIte, Option.some.injEq, Prod.mk.injEq] at h
      obtain ⟨rfl, rfl⟩ := h
      simp [lines, feed]
    · simp only [cut, feed, ↓reduceIte, Option.map_eq_some_iff, Prod.mk.injEq] at h
      obtain ⟨⟨before, after⟩, found, rfl, rfl⟩ := h
      simp [lines, feed, ih found]

theorem lines_of_cut_none {bytes : Bytes} (h : cut bytes = none) (some : bytes ≠ []) :
    lines bytes = [bytes] := by
  induction bytes with
  | nil => exact absurd rfl some
  | cons b bytes ih =>
    have feed : b ≠ 10 := by
      rintro rfl
      simp [cut] at h
    simp only [cut, feed, ↓reduceIte, Option.map_eq_none_iff] at h
    cases bytes with
    | nil => simp [lines, feed]
    | cons c bytes =>
      have others := ih h (by simp)
      rw [lines, if_neg feed, others]

theorem cut_feed {line : Bytes} (whole : 10 ∉ line) : cut (line ++ [10]) = some (line ++ [10], []) := by
  induction line with
  | nil => rfl
  | cons b line ih =>
    have other : b ≠ 10 := by
      rintro rfl
      simp at whole
    have rest : 10 ∉ line := fun member => whole (by simp [member])
    simp [cut, other, ih rest]

/-- Lines that end in a line feed and hold no other are the lines of the whole. -/
theorem lines_flatten (lines : List Bytes) (whole : ∀ line ∈ lines, 10 ∉ line) :
    Pipes.lines (lines.map (· ++ [10])).flatten = lines.map (· ++ [10]) := by
  induction lines with
  | nil => rfl
  | cons line lines ih =>
    rw [List.map_cons, List.flatten_cons, lines_of_cut _ (cut_feed (whole line (by simp))),
      List.nil_append, ih fun line later => whole line (by simp [later])]

/-- A line that is taken is the first of what is left, whatever is still to come. -/
theorem lines_of_next {pipes rest : Pipes} {line more : Bytes}
    (h : pipes.next = .done (some (line, rest))) (last : pipes.ended = true → more = []) :
    lines (pipes.unread ++ more) = line :: lines (rest.unread ++ more) ∧
      rest.ended = pipes.ended := by
  unfold next at h
  split at h
  · rename_i found
    simp only [Progress.done.injEq, Option.some.injEq, Prod.mk.injEq] at h
    obtain ⟨rfl, rfl⟩ := h
    exact ⟨lines_of_cut more found, rfl⟩
  · rename_i missing
    split at h
    · cases h
    · rename_i ended
      split at h
      · simp at h
      · rename_i unread
        simp only [Progress.done.injEq, Option.some.injEq, Prod.mk.injEq] at h
        obtain ⟨rfl, rfl⟩ := h
        have no_more : more = [] := last (by simpa using ended)
        refine ⟨?_, rfl⟩
        simpa [no_more, lines] using lines_of_cut_none missing (by simpa using unread)

end Pipes

/-- The answers that end a round trip with a whole line: a response, or a line that
is none. -/
def Answer.completes : Answer → Bool
  | .ok _ | .error (.malformed _ _) => true
  | .error _ => false

/-- The failures of a request that was never begun. -/
def TransportError.isRefusal : TransportError → Bool
  | .desynchronized | .terminated => true
  | _ => false

namespace JsonLine

variable {η : Type} {b : JsonLine η}

section Request

variable [Host η]

theorem request_in_flight (request : Request) (h : b.inFlight = true) :
    b.request request = (b, .done (.error .desynchronized)) := by
  simp [JsonLine.request, h]

theorem request_terminated (request : Request) (idle : b.inFlight = false) (h : b.pipes = none) :
    b.request request = (b, .done (.error .terminated)) := by
  simp [JsonLine.request, idle, h]

theorem request_begins {pipes : Pipes} (request : Request) (idle : b.inFlight = false)
    (h : b.pipes = some pipes) :
    b.request request =
      ({ b with
          host := Host.send b.host (Text.Utf8.encode request.toLine.toList)
          inFlight := true
          leg := some .writing },
        .waiting) := by
  simp [JsonLine.request, idle, h]

end Request

section Terminate

variable [Host η] (b : JsonLine η)

/-- Termination leaves no process; a request in flight stays in flight. -/
@[simp]
theorem terminate_pipes : b.terminate.1.pipes = none := by
  unfold terminate
  split <;> rfl

@[simp]
theorem terminate_process : b.terminate.1.process = false := by
  unfold terminate
  split
  · rfl
  · rename_i stopped
    simpa using stopped

@[simp]
theorem terminate_inFlight : b.terminate.1.inFlight = b.inFlight := by
  unfold terminate
  split <;> rfl

@[simp]
theorem terminate_roundTrips : b.terminate.1.roundTrips = b.roundTrips := by
  unfold terminate
  split <;> rfl

end Terminate

/-- What a waiting round trip can come to once these are its pipes. -/
inductive Heard (b : JsonLine η) (pipes : Pipes) :
    JsonLine η × Progress (Except TransportError Response) → Prop
  | waits (leg : Leg) :
      Heard b pipes ({ b with pipes := some pipes, leg := some leg }, .waiting)
  | fails (left : Pipes) (failure : TransportError)
      (early : Answer.completes (.error failure) = false)
      (begun : failure.isRefusal = false) :
      Heard b pipes ({ b with pipes := some left, leg := none }, .done (.error failure))
  | answered (line : Bytes) (left : Pipes) (cs : List Char)
      (next : pipes.next = .done (some (line, left))) (text : Text.Utf8.decode line = .ok cs) :
      Heard b pipes
        ({ b with
            pipes := some left
            leg := none
            inFlight := false
            roundTrips := b.roundTrips + 1 },
          .done (understand (.ofList cs)))

theorem receive_heard (b : JsonLine η) (pipes : Pipes) : Heard b pipes (b.receive pipes) := by
  unfold receive
  split
  · exact .waits .reading
  · exact .fails pipes .childExited rfl rfl
  · rename_i line left next
    split
    · exact .fails left _ rfl rfl
    · rename_i cs text
      exact .answered line left cs next text

/-- Hearing something adds it to the pipes, and then the round trip waits on, fails
with its request in flight, or has its line. -/
theorem hear_heard {leg : Leg} {pipes : Pipes} (waiting : b.leg = some leg)
    (open_ : b.pipes = some pipes) (wake : Wake) : Heard b (pipes.hear wake) (b.hear wake) := by
  have same : { b with pipes := some pipes, leg := some leg } = b := by
    rw [← waiting, ← open_]
  cases wake with
  | accepted => simpa [hear, waiting, open_, Pipes.hear] using receive_heard b pipes
  | arrived bytes =>
    cases leg with
    | writing => simpa [hear, waiting, open_] using Heard.waits .writing
    | reading => simpa [hear, waiting, open_] using receive_heard b (pipes.hear (.arrived bytes))
  | ended =>
    cases leg with
    | writing => simpa [hear, waiting, open_] using Heard.waits .writing
    | reading => simpa [hear, waiting, open_] using receive_heard b (pipes.hear .ended)
  | failed e =>
    simpa [hear, waiting, open_, Pipes.hear, giveUp] using
      Heard.fails (b := b) pipes (.io e) rfl rfl
  | deadline =>
    cases allowed : b.timeout with
    | none =>
      have stays : Heard b pipes ({ b with pipes := some pipes, leg := some leg }, .waiting) :=
        .waits leg
      rw [same] at stays
      simpa [hear, waiting, open_, Pipes.hear, allowed] using stays
    | some limit =>
      simpa [hear, waiting, open_, Pipes.hear, giveUp, allowed] using
        Heard.fails (b := b) pipes (.timeout limit) rfl rfl

/-- What is heard has come to the pipes already: nothing is asked of the host. -/
theorem hear_keeps (b : JsonLine η) (wake : Wake) :
    (b.hear wake).1.host = b.host ∧ (b.hear wake).1.process = b.process ∧
      (b.pipes = none → (b.hear wake).1.pipes = none) := by
  cases leg : b.leg with
  | none => simp [hear, leg]
  | some _ =>
    cases pipes : b.pipes with
    | none => simp [hear, leg, pipes]
    | some _ =>
      generalize result : b.hear wake = came
      have outcome := result ▸ hear_heard leg pipes wake
      cases outcome <;> exact ⟨rfl, rfl, nofun⟩

/-- What the caller is answered with when this line came back. -/
def reading (line : List Char) : Answer :=
  match Response.ofLine (.ofList line) with
  | .ok response => .ok (some (.response response))
  | .error e => .error (.malformed (.ofList (Text.trimRight line)) e)

theorem reading_cases (line : List Char) :
    (∃ response, reading line = .ok (some (.response response))) ∨
      ∃ text e, reading line = .error (.malformed text e) := by
  unfold reading
  cases Response.ofLine (.ofList line) with
  | ok response => exact .inl ⟨response, rfl⟩
  | error e => exact .inr ⟨_, e, rfl⟩

theorem reading_response {line : List Char} {response : Response}
    (read : (Response.ofLine (.ofList line)).toOption = some response) :
    reading line = .ok (some (.response response)) := by
  unfold reading
  cases found : Response.ofLine (.ofList line) with
  | ok other =>
    rw [found] at read
    cases read
    rfl
  | error e =>
    rw [found] at read
    cases read

theorem reading_malformed {line : List Char}
    (unread : (Response.ofLine (.ofList line)).toOption = none) :
    ∃ text e, reading line = .error (.malformed text e) := by
  unfold reading
  cases found : Response.ofLine (.ofList line) with
  | ok response =>
    rw [found] at unread
    cases unread
  | error e => exact ⟨_, e, rfl⟩

theorem reading_completes (line : List Char) : Answer.completes (reading line) = true := by
  rcases reading_cases line with ⟨response, read⟩ | ⟨text, e, read⟩ <;> rw [read] <;> rfl

theorem answer_fst (came : JsonLine η × Progress (Except TransportError Response)) :
    (answer came).1 = came.1 := by
  obtain ⟨b, _ | result⟩ := came <;> rfl

theorem answer_understand (b : JsonLine η) (line : List Char) :
    answer (b, .done (understand (.ofList line))) = (b, .done (reading line)) := by
  simp only [answer, understand, reading, String.toList_ofList]
  cases Response.ofLine (.ofList line) <;> rfl

end JsonLine

end NotebookKernel
