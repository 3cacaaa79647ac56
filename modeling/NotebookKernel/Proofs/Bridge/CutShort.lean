import NotebookKernel.Proofs.Json.Reading
import NotebookKernel.Proofs.Text.Blank
import NotebookKernel.Proofs.Wire.ResponseLine

/-!
A process that dies in the middle of its answer. No beginning of a response that misses a part
of it is read as a response, wherever it is cut: inside a word, an escape or a character. So the
round trip that waits for the answer fails.
-/

namespace NotebookKernel

open Text (Bytes)

namespace Json

/-- No part of the text of an object at its beginning is a text of JSON itself. -/
theorem ReadsBack.whole {members : List (String × Json)}
    (readsBack : ReadsBack maxNesting (.obj members)) {part left : List Char} {value : Json}
    (cut : compact (.obj members) = part ++ left) (read : readText part = .ok value) :
    left = [] := by
  obtain ⟨trail, read, -⟩ := readText_ok.mp read
  cases part with
  | nil =>
    have none : readValue (fuelFor []) maxNesting [] = .error (.next .endInValue []) := by
      simp [fuelFor, readValue, skip]
    rw [none] at read
    cases read
  | cons c part =>
    have brace : c = '{' := by
      simp only [compact, List.cons_append, List.cons.injEq] at cut
      exact cut.1.symm
    subst brace
    obtain ⟨used, same, again⟩ := readValue_brace read
    -- With fuel for both, the whole text is read in two ways.
    let fuel := 2 * (used.length + (compact (.obj members)).length)
    have short := again fuel (trail ++ left) (by omega)
    have long := readsBack fuel [] (by omega)
    rw [← List.append_assoc, ← same, ← cut] at short
    rw [List.append_nil, short] at long
    exact (List.append_eq_nil_iff.mp (Prod.mk.inj (Except.ok.inj long)).2).2

end Json

namespace Response

open Json

theorem toJson_members (response : Response) : ∃ members, response.toJson = .obj members := by
  cases response <;> exact ⟨_, rfl⟩

/-- What is left of a response that is cut short is no response. -/
theorem ofLine_part (response : Response) {part left : List Char} (missing : left ≠ [])
    (cut : response.text = part ++ left) : ∃ e, ofLine (.ofList part) = .error e := by
  obtain ⟨members, object⟩ := response.toJson_members
  have readsBack : ReadsBack maxNesting response.toJson :=
    (response.plain 125).readsBack (Nat.le_refl _)
  rw [text, object] at cut
  rw [object] at readsBack
  have first : ∀ c ∈ part.head?, Text.isBlank c = false := by
    intro c begins
    obtain ⟨part, rfl⟩ := List.head?_eq_some_iff.mp begins
    simp only [compact, List.cons_append, List.cons.injEq] at cut
    rw [← cut.1]
    rfl
  obtain ⟨blanks, split, -⟩ := Text.trimRight_split part
  have trimmed : Text.trim part = Text.trimRight part := by
    rw [Text.trim, Text.trimLeft_visible first]
  cases read : readText (Text.trim part) with
  | error stop =>
    refine ⟨.ofStop (Text.trim part) stop, ?_⟩
    simp only [ofLine, String.toList_ofList, read]
  | ok value =>
    rw [split, List.append_assoc, ← trimmed] at cut
    have none := readsBack.whole cut read
    exact absurd (List.append_eq_nil_iff.mp none).2 missing

/-- More than the line feed is missing. -/
theorem part_of_text (response : Response) {octets : Bytes}
    (beginning : octets <+: Text.Utf8.encode response.toLine.toList)
    (missing : octets.length + 1 < (Text.Utf8.encode response.toLine.toList).length) :
    ∃ rest, rest ≠ [] ∧ octets ++ rest = Text.Utf8.encode response.text := by
  rw [encode_toLine] at beginning missing
  rw [List.length_append, List.length_singleton] at missing
  rcases List.prefix_concat_iff.mp beginning with same | ⟨rest, whole⟩
  · rw [same, List.length_append] at missing
    omega
  · refine ⟨rest, ?_, whole⟩
    rintro rfl
    rw [← whole, List.append_nil] at missing
    omega

end Response

namespace Pipes

theorem cut_none {bytes : Bytes} (noFeed : 10 ∉ bytes) : cut bytes = none := by
  induction bytes with
  | nil => rfl
  | cons b bytes ih =>
    obtain ⟨other, others⟩ := not_or.mp (mt List.mem_cons.mpr noFeed)
    rw [cut, if_neg (Ne.symm other), ih others]
    rfl

theorem next_open {bytes : Bytes} (noFeed : 10 ∉ bytes) : next ⟨bytes, false⟩ = .waiting := by
  simp [next, cut_none noFeed]

theorem next_ended {bytes : Bytes} (noFeed : 10 ∉ bytes) :
    next ⟨bytes, true⟩ =
      .done (if bytes = [] then none else some (bytes, ⟨[], true⟩)) := by
  cases bytes with
  | nil => rfl
  | cons b bytes => simp [next, cut_none noFeed]

end Pipes

namespace JsonLine

variable {η : Type}

/-- The waiting round trip hears one thing after the other until it has an answer. -/
def listen (b : JsonLine η) : List Wake → JsonLine η × Progress (Except TransportError Response)
  | [] => (b, .waiting)
  | wake :: wakes =>
    match b.hear wake with
    | (b, .waiting) => b.listen wakes
    | (b, .done result) => (b, .done result)

/-- A process takes the request, unless it has done so before, prints these octets in pieces and
closes its output. -/
inductive Delivers : Leg → Bytes → List Wake → Prop
  | arrived {leg : Leg} {rest : Bytes} {wakes : List Wake} (bytes : Bytes)
      (later : Delivers leg rest wakes) : Delivers leg (bytes ++ rest) (.arrived bytes :: wakes)
  | accepted {rest : Bytes} {wakes : List Wake} (later : Delivers .reading rest wakes) :
      Delivers .writing rest (.accepted :: wakes)
  | ended : Delivers .reading [] [.ended]
  | acceptedLast : Delivers .writing [] [.ended, .accepted]

/-- What an output without a line feed comes to at its end. -/
def lastLine (bytes : Bytes) : Except TransportError Response :=
  if bytes = [] then .error .childExited
  else match Text.Utf8.decode bytes with
    | .error fault => .error (.io (.other fault.message))
    | .ok cs => understand (.ofList cs)

theorem lastLine_fault {octets : Bytes} (some : octets ≠ []) {fault : Text.Utf8.Fault}
    (noText : Text.Utf8.decode octets = .error fault) :
    lastLine octets = .error (.io (.other fault.message)) := by
  simp only [lastLine, if_neg some, noText]

/-- The beginning of a response that misses a part of it, if it is a text. -/
theorem lastLine_part (response : Response) {octets rest : Bytes} (some : octets ≠ [])
    (missing : rest ≠ []) (whole : octets ++ rest = Text.Utf8.encode response.text)
    {cs : List Char} (text : Text.Utf8.decode octets = .ok cs) :
    ∃ e, lastLine octets = .error (.malformed (.ofList (Text.trimRight cs)) e) := by
  obtain ⟨behind, same, last⟩ := Text.Utf8.decode_prefix text whole
  obtain ⟨e, malformed⟩ := response.ofLine_part (fun none => missing (last none)) same
  refine ⟨e, ?_⟩
  simp only [lastLine, if_neg some, text, understand, malformed, String.toList_ofList]
  rfl

theorem receive_open (b : JsonLine η) {bytes : Bytes} (noFeed : 10 ∉ bytes) :
    b.receive ⟨bytes, false⟩ =
      ({ b with pipes := some ⟨bytes, false⟩, leg := some .reading }, .waiting) := by
  simp only [receive, Pipes.next_open noFeed]

theorem receive_ended (b : JsonLine η) {bytes : Bytes} (noFeed : 10 ∉ bytes) :
    (b.receive ⟨bytes, true⟩).2 = .done (lastLine bytes) := by
  by_cases none : bytes = []
  · subst none
    rfl
  · simp only [receive, Pipes.next_ended noFeed, if_neg none, lastLine]
    cases Text.Utf8.decode bytes <;> rfl

theorem hear_arrived {b : JsonLine η} {leg : Leg} {unread bytes : Bytes}
    (waits : b.leg = some leg) (open_ : b.pipes = some ⟨unread, false⟩)
    (noFeed : 10 ∉ unread ++ bytes) :
    b.hear (.arrived bytes) = ({ b with pipes := some ⟨unread ++ bytes, false⟩ }, .waiting) := by
  cases leg with
  | writing => simp [hear, waits, open_, Pipes.hear]
  | reading =>
    simp only [hear, waits, open_, Pipes.hear, receive_open b noFeed]

theorem listen_waiting {b next : JsonLine η} {wake : Wake} (waits : b.hear wake = (next, .waiting))
    (wakes : List Wake) : b.listen (wake :: wakes) = next.listen wakes := by
  simp only [listen, waits]

theorem listen_done {b : JsonLine η} {wake : Wake} {result : Except TransportError Response}
    (done : (b.hear wake).2 = .done result) (wakes : List Wake) :
    (b.listen (wake :: wakes)).2 = .done result := by
  rcases heard : b.hear wake with ⟨next, progress⟩
  rw [heard] at done
  cases done
  simp only [listen, heard]

/-- However it arrives, the round trip comes to what the whole output is at its end. -/
theorem Delivers.listen {b : JsonLine η} {leg : Leg} {bytes : Bytes} {wakes : List Wake}
    (delivers : Delivers leg bytes wakes) {unread : Bytes} (waits : b.leg = some leg)
    (open_ : b.pipes = some ⟨unread, false⟩) (noFeed : 10 ∉ unread ++ bytes) :
    (b.listen wakes).2 = .done (lastLine (unread ++ bytes)) := by
  induction delivers generalizing b unread with
  | @arrived leg rest wakes bytes later ih =>
    rw [← List.append_assoc] at noFeed ⊢
    have first : 10 ∉ unread ++ bytes := fun inside => noFeed (List.mem_append_left _ inside)
    rw [listen_waiting (hear_arrived waits open_ first)]
    exact ih waits rfl noFeed
  | @accepted rest wakes later ih =>
    have first : 10 ∉ unread := fun inside => noFeed (List.mem_append_left _ inside)
    have heard : b.hear .accepted =
        ({ b with pipes := some ⟨unread, false⟩, leg := some .reading }, .waiting) := by
      simp only [hear, waits, open_, receive_open b first]
    rw [listen_waiting heard]
    exact ih rfl rfl noFeed
  | ended =>
    rw [List.append_nil] at noFeed ⊢
    refine listen_done ?_ []
    simp only [hear, waits, open_, Pipes.hear]
    exact receive_ended b noFeed
  | acceptedLast =>
    rw [List.append_nil] at noFeed ⊢
    have heard : b.hear .ended = ({ b with pipes := some ⟨unread, true⟩ }, .waiting) := by
      simp only [hear, waits, open_, Pipes.hear]
    rw [listen_waiting heard]
    refine listen_done ?_ []
    simp only [hear, waits]
    exact receive_ended _ noFeed

variable [Host η]

/-- A process answers a request with the beginning of a response that misses a part of its JSON
text, in pieces of any size, and closes its output. The round trip fails: the process exited if
there was nothing, the pipe is at fault if the octets are no text, and what was read is malformed
if they are one. -/
theorem cut_short_fails (response : Response) {octets : Bytes}
    (beginning : octets <+: Text.Utf8.encode response.toLine.toList)
    (missing : octets.length + 1 < (Text.Utf8.encode response.toLine.toList).length)
    {b : JsonLine η} (idle : b.inFlight = false) (fresh : b.pipes = some {}) (request : Request)
    {wakes : List Wake} (delivers : Delivers .writing octets wakes) :
    ∃ failure, ((b.request request).1.listen wakes).2 = .done (.error failure) ∧
      (octets = [] → failure = .childExited) ∧
      (octets ≠ [] → ∀ fault, Text.Utf8.decode octets = .error fault →
        failure = .io (.other fault.message)) ∧
      (octets ≠ [] → ∀ cs, Text.Utf8.decode octets = .ok cs →
        ∃ e, failure = .malformed (.ofList (Text.trimRight cs)) e) := by
  obtain ⟨rest, left, whole⟩ := response.part_of_text beginning missing
  have noFeed : 10 ∉ octets := by
    intro inside
    apply response.feed_not_mem_text
    rw [← whole]
    exact List.mem_append_left _ inside
  have begun := request_begins request idle fresh
  have waits : (b.request request).1.leg = some .writing := by rw [begun]
  have open_ : (b.request request).1.pipes = some ⟨[], false⟩ := by
    rw [begun]
    exact fresh
  have result := delivers.listen waits open_ noFeed
  rw [List.nil_append] at result
  rw [result]
  by_cases none : octets = []
  · subst none
    exact ⟨.childExited, rfl, fun _ => rfl, absurd rfl, absurd rfl⟩
  · cases text : Text.Utf8.decode octets with
    | error fault =>
      refine ⟨_, by rw [lastLine_fault none text], fun empty => absurd empty none, ?_, ?_⟩
      · rintro _ _ ⟨⟩
        rfl
      · rintro _ _ ⟨⟩
    | ok cs =>
      obtain ⟨e, failed⟩ := lastLine_part response none left whole text
      refine ⟨_, by rw [failed], fun empty => absurd empty none, ?_, ?_⟩
      · rintro _ _ ⟨⟩
      · rintro _ _ ⟨⟩
        exact ⟨e, rfl⟩

/-- The value is one character of two octets, and the process dies between them. -/
theorem cut_short_fails_character :
    let front : Bytes := Text.Utf8.encode "\x7b\"Eval\":\x7b\"mime_type\":\"\",".toList
    let back : Bytes := Text.Utf8.encode "\"value\":\"".toList ++ [0xC3]
    let b : JsonLine Unit := { host := (), timeout := none }
    front ++ back <+: Text.Utf8.encode (Response.eval ⟨"", "\u00e9"⟩).toLine.toList ∧
      ∃ fault, Text.Utf8.decode (front ++ back) = .error fault ∧
        ((b.request ⟨"1"⟩).1.listen [.arrived front, .accepted, .arrived back, .ended]).2 =
          .done (.error (.io (.other fault.message))) := by
  intro front back b
  have line : (Response.eval ⟨"", "\u00e9"⟩).toLine.toList =
      "\x7b\"Eval\":\x7b\"mime_type\":\"\",\"value\":\"\u00e9\"\x7d\x7d\n".toList := by decide
  have beginning : front ++ back <+: Text.Utf8.encode (Response.eval ⟨"", "\u00e9"⟩).toLine.toList := by
    rw [line]
    decide
  have missing : (front ++ back).length + 1 <
      (Text.Utf8.encode (Response.eval ⟨"", "\u00e9"⟩).toLine.toList).length := by
    rw [line]
    decide
  have delivers : Delivers .writing (front ++ (back ++ []))
      [.arrived front, .accepted, .arrived back, .ended] :=
    .arrived front (.accepted (.arrived back .ended))
  rw [List.append_nil] at delivers
  have fault : Text.Utf8.decode (front ++ back) = .error ⟨33, none⟩ := by decide
  obtain ⟨failure, result, -, pipe, -⟩ :=
    @cut_short_fails Unit _ _ _ beginning missing b rfl rfl ⟨"1"⟩ _ delivers
  refine ⟨beginning, ⟨33, none⟩, fault, ?_⟩
  rw [result, pipe (by decide) _ fault]

end JsonLine

end NotebookKernel
